import CodeAtlas.Text.Cursor

namespace CodeAtlas

/-- What is wrong at a byte of a text: what was being read, what could have stood there, and why. -/
structure TextFlaw where
  index : Nat
  label : Option String := none
  expected : List String := []
  cause : Option String := none

/-- Bytes from `start` on, before `stop`. -/
structure Span where
  start : Nat
  stop : Nat
deriving DecidableEq

inductive ScanResult (α : Type) where
  | done (value : α) (next : Cursor)
  | refused (final : Bool) (flaw : TextFlaw)

/-- Scanners can be tried one after another; a refusal that is final ends the trying. -/
def TextScanner (α : Type) := Cursor → ScanResult α

namespace TextScanner

variable {α β : Type}

instance : Monad TextScanner where
  pure a := fun c => .done a c
  bind s f := fun c =>
    match s c with
    | .done a c => f a c
    | .refused final flaw => .refused final flaw

def refuse : TextScanner α :=
  fun c => .refused false { index := c.index }

/-- The second scanner from the same place, where the first refuses. -/
def or (s t : TextScanner α) : TextScanner α := fun c =>
  match s c with
  | .refused false _ => t c
  | result => result

def optional (s : TextScanner α) : TextScanner (Option α) :=
  or (some <$> s) (pure none)

/-- Makes a refusal final. -/
def final (s : TextScanner α) : TextScanner α := fun c =>
  match s c with
  | .refused _ flaw => .refused true flaw
  | result => result

def onFlaw (f : TextFlaw → TextFlaw) (s : TextScanner α) : TextScanner α := fun c =>
  match s c with
  | .refused final flaw => .refused final (f flaw)
  | result => result

/-- Says what is being read; the innermost of several such sayings counts. -/
def labelled (label : String) : TextScanner α → TextScanner α :=
  onFlaw fun flaw => { flaw with label := flaw.label <|> some label }

def expecting (what : String) : TextScanner α → TextScanner α :=
  onFlaw fun flaw => { flaw with expected := flaw.expected ++ [what] }

/-- Reads nothing, but refuses where the scanner does. -/
def look (s : TextScanner α) : TextScanner α := fun c =>
  match s c with
  | .done a _ => .done a c
  | .refused final flaw => .refused final { flaw with index := c.index }

/-- Turns what was read into a value, or refuses it as a whole for a cause. -/
def convert (f : α → Except (Option String) β) (s : TextScanner α) : TextScanner β := fun c =>
  match s c with
  | .done a next =>
    match f a with
    | .ok b => .done b next
    | .error cause => .refused false { index := c.index, cause }
  | .refused final flaw => .refused final flaw

/-- As `convert`, but with a final refusal. -/
def settle (f : α → Except (Option String) β) (s : TextScanner α) : TextScanner β := fun c =>
  match s c with
  | .done a next =>
    match f a with
    | .ok b => .done b next
    | .error cause => .refused true { index := c.index, cause }
  | .refused final flaw => .refused final flaw

def spanned (s : TextScanner α) : TextScanner (α × Span) := fun c =>
  match s c with
  | .done a next => .done (a, ⟨c.index, next.index⟩) next
  | .refused final flaw => .refused final flaw

/-- The characters that a scanner passes. -/
def taken (s : TextScanner α) : TextScanner (List Char) := fun c =>
  match s c with
  | .done _ next => .done (c.rest.take (c.rest.length - next.rest.length)) next
  | .refused final flaw => .refused final flaw

/-- Again and again, until it refuses. -/
def many (s : TextScanner α) : TextScanner (List α) :=
  fun c => go (c.rest.length + 1) c
where
  go : Nat → TextScanner (List α)
    | 0 => pure []
    | fuel + 1 => do
      match ← optional s with
      | none => return []
      | some a => return a :: (← go fuel)

def many1 (s : TextScanner α) : TextScanner (List α) := do
  return (← s) :: (← many s)

/-- One or more, divided by something. -/
def separated1 (s : TextScanner α) (divider : TextScanner β) : TextScanner (List α) := do
  return (← s) :: (← many (do let _ ← divider; s))

def separated (s : TextScanner α) (divider : TextScanner β) : TextScanner (List α) :=
  or (separated1 s divider) (pure [])

def peek : TextScanner (Option Char) :=
  fun c => .done c.rest.head? c

def atEnd : TextScanner Unit := fun c =>
  if c.rest.isEmpty then .done () c else refuse c

def one (p : Char → Bool) : TextScanner Char := fun c =>
  match c.rest with
  | d :: _ => if p d then .done d c.advance else refuse c
  | [] => refuse c

def char (d : Char) : TextScanner Char :=
  one (· == d)

def word (text : String) : TextScanner Unit := fun c =>
  if text.toList.isPrefixOf c.rest then
    .done () ⟨c.rest.drop text.length, c.index + text.utf8ByteSize⟩
  else refuse c

def takeWhile (p : Char → Bool) : TextScanner (List Char) :=
  fun c => .done (c.rest.takeWhile p) (c.advanceWhile p)

def takeWhile1 (p : Char → Bool) : TextScanner (List Char) := fun c =>
  if c.rest.head?.any p then takeWhile p c else refuse c

/-- Up to so many characters; refuses fewer. -/
def exactly (n : Nat) (p : Char → Bool) : TextScanner (List Char) := fun c =>
  let cs := (c.rest.take n).takeWhile p
  if cs.length = n then .done cs ⟨c.rest.drop n, c.index + Cursor.bytesOf cs⟩ else refuse c

end TextScanner

end CodeAtlas
