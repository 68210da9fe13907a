import CodeAtlas.Json.Reading

namespace CodeAtlas

/-- Blanks between two parts of a text. -/
structure Gap where
  chars : List Char
  blank : ∀ c ∈ chars, Reader.isBlank c = true

structure HexDigit where
  char : Char
  value : Nat
  means : Reader.hexValue char = some value

/-- The letters that stand for a character after a backslash. -/
def shortEscapes : List (Char × Char) :=
  [('\x22', '\x22'), ('\\', '\\'), ('/', '/'), ('b', '\x08'), ('f', '\x0c'), ('n', '\n'), ('r', '\r'),
    ('t', '\t')]

/-- A part of a string: a character as it is, or an escape. -/
inductive Stroke where
  | plain (c : Char) (allowed : c ≠ '\x22' ∧ c ≠ '\\' ∧ 0x20 ≤ c.toNat)
  | short (letter meant : Char) (known : (letter, meant) ∈ shortEscapes)
  | hex (a b c d : HexDigit)

namespace Stroke

def chars : Stroke → List Char
  | plain c _ => [c]
  | short letter _ _ => ['\\', letter]
  | hex a b c d => ['\\', 'u', a.char, b.char, c.char, d.char]

def code (a b c d : HexDigit) : Nat :=
  ((a.value * 16 + b.value) * 16 + c.value) * 16 + d.value

/-- What strokes spell; nothing if half a character stands alone. -/
def meant : List Stroke → Option (List Char)
  | [] => some []
  | plain c _ :: rest => (meant rest).map (c :: ·)
  | short _ c _ :: rest => (meant rest).map (c :: ·)
  | hex a b c d :: rest =>
    let n := code a b c d
    if n < 0xd800 ∨ 0xdfff < n then (meant rest).map (Char.ofNat n :: ·)
    else match rest with
      | hex a b c d :: rest =>
        let low := code a b c d
        if n < 0xdc00 ∧ 0xdc00 ≤ low ∧ low ≤ 0xdfff then
          (meant rest).map (Char.ofNat ((n - 0xd800) * 0x400 + (low - 0xdc00) + 0x10000) :: ·)
        else none
      | _ => none

end Stroke

/-- A string between its quotes. -/
structure Quoted where
  strokes : List Stroke

namespace Quoted

def chars (q : Quoted) : List Char :=
  '\x22' :: q.strokes.flatMap Stroke.chars ++ ['\x22']

def text? (q : Quoted) : Option String :=
  (Stroke.meant q.strokes).map String.ofList

end Quoted

structure Digits where
  chars : List Char
  nonempty : chars ≠ []
  digits : ∀ c ∈ chars, c.isDigit = true

structure Exponent where
  letter : Char
  known : letter = 'e' ∨ letter = 'E'
  sign : Option Char
  signed : ∀ c, sign = some c → c = '+' ∨ c = '-'
  digits : Digits

/-- A number without its sign. -/
structure Magnitude where
  whole : Digits
  plain : whole.chars.head? = some '0' → whole.chars = ['0']
  fraction : Option Digits := none
  exponent : Option Exponent := none

namespace Magnitude

def fractionChars : Option Digits → List Char
  | none => []
  | some ds => '.' :: ds.chars

def exponentChars : Option Exponent → List Char
  | none => []
  | some e => e.letter :: (e.sign.toList ++ e.digits.chars)

def chars (m : Magnitude) : List Char :=
  m.whole.chars ++ (fractionChars m.fraction ++ exponentChars m.exponent)

/-- What reading the number alone gives, its sign read before. -/
def number? (positive : Bool) (m : Magnitude) : Option Json :=
  match Numeral.read positive ⟨m.chars, 0⟩ with
  | .done n _ => some n.toJson
  | .failed .. => none

end Magnitude

/-- Something with blanks around it. -/
structure Spaced (α : Type) where
  before : Gap
  value : α
  after : Gap

/-- A name and a value, with the blanks around them. -/
structure Member (α : Type) where
  before : Gap
  name : Quoted
  behind : Gap
  value : Spaced α

inductive JsonText where
  | null
  | bool (value : Bool)
  | number (positive : Bool) (m : Magnitude)
  | string (q : Quoted)
  | array (items : List (Spaced JsonText)) (close : Gap)
  | object (members : List (Member JsonText)) (close : Gap)

namespace JsonText

mutual

def chars : JsonText → List Char
  | null => ['n', 'u', 'l', 'l']
  | bool true => ['t', 'r', 'u', 'e']
  | bool false => ['f', 'a', 'l', 's', 'e']
  | number true m => m.chars
  | number false m => '-' :: m.chars
  | string q => q.chars
  | array items close => '[' :: itemsChars true items ++ close.chars ++ [']']
  | object members close => '\x7b' :: membersChars true members ++ close.chars ++ ['\x7d']

/-- Items with a comma before each one but the first of all. -/
def itemsChars (first : Bool) : List (Spaced JsonText) → List Char
  | [] => []
  | ⟨before, value, after⟩ :: rest =>
    (if first then [] else [',']) ++ before.chars ++ chars value ++ after.chars ++ itemsChars false rest

def membersChars (first : Bool) : List (Member JsonText) → List Char
  | [] => []
  | ⟨before, name, behind, ⟨ahead, value, after⟩⟩ :: rest =>
    (if first then [] else [',']) ++ before.chars ++ name.chars ++ behind.chars ++ ':' :: ahead.chars ++
      chars value ++ after.chars ++ membersChars false rest

end

mutual

/-- How many lists and objects lie inside each other at most. -/
def depth : JsonText → Nat
  | array items _ => depthItems items + 1
  | object members _ => depthMembers members + 1
  | _ => 0

def depthItems : List (Spaced JsonText) → Nat
  | [] => 0
  | ⟨_, value, _⟩ :: rest => max (depth value) (depthItems rest)

def depthMembers : List (Member JsonText) → Nat
  | [] => 0
  | ⟨_, _, _, ⟨_, value, _⟩⟩ :: rest => max (depth value) (depthMembers rest)

end

mutual

def json? : JsonText → Option Json
  | null => some .null
  | bool b => some (.bool b)
  | number positive m => m.number? positive
  | string q => q.text?.map .string
  | array items _ => (jsonItems? items).map .array
  | object members _ => (jsonMembers? members []).map .object

def jsonItems? : List (Spaced JsonText) → Option (List Json)
  | [] => some []
  | ⟨_, value, _⟩ :: rest => do return (← json? value) :: (← jsonItems? rest)

def jsonMembers? : List (Member JsonText) → List (String × Json) → Option (List (String × Json))
  | [], fields => some fields
  | ⟨_, name, _, ⟨_, value, _⟩⟩ :: rest, fields => do
    jsonMembers? rest (Json.insertField (← name.text?) (← json? value) fields)

end

end JsonText

end CodeAtlas
