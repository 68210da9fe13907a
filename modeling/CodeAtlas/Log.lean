namespace CodeAtlas

inductive Level where
  | error
  | warn
  | info
  | debug
  | trace
deriving DecidableEq

def Level.name : Level → String
  | error => "ERROR"
  | warn => "WARN"
  | info => "INFO"
  | debug => "DEBUG"
  | trace => "TRACE"

/-- From the quietest setting that shows the level to the noisiest. -/
def Level.rank : Level → Nat
  | error => 1
  | warn => 2
  | info => 3
  | debug => 4
  | trace => 5

structure LogRecord where
  level : Level
  target : String
  message : String
deriving DecidableEq

namespace LogRecord

/-- Characters that could steer a terminal are shown by their numbers. -/
def harmless (c : Char) : List Char :=
  let hex (n : Nat) : List Char := Nat.toDigits 16 n
  if c = '\x07' ∨ c = '\x08' ∨ c = '\x0c' ∨ c = '\x1b' ∨ c = '\x7f' then
    ['\\', 'x'] ++ (if c.toNat < 16 then ['0'] else []) ++ hex c.toNat
  else if 0x80 ≤ c.toNat ∧ c.toNat ≤ 0x9f then
    ['\\', 'u', '\x7b'] ++ hex c.toNat ++ ['\x7d']
  else [c]

def shownMessage (r : LogRecord) : String :=
  String.ofList (r.message.toList.flatMap harmless)

/-- A line of a log, behind a mark of the time. -/
def line (stamp : String) (r : LogRecord) : String :=
  let name := r.level.name
  let padding := String.ofList (List.replicate (5 - name.length) ' ')
  stamp ++ " " ++ padding ++ name ++ " " ++ r.target ++ ": " ++ r.shownMessage ++ "\n"

end LogRecord

structure Logged (α : Type) where
  value : α
  records : List LogRecord

namespace Logged

instance : Monad Logged where
  pure a := ⟨a, []⟩
  bind x f :=
    let y := f x.value
    ⟨y.value, x.records ++ y.records⟩

def note (level : Level) (target message : String) : Logged Unit :=
  ⟨(), [⟨level, target, message⟩]⟩

end Logged

end CodeAtlas
