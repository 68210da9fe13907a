import CodeAtlas.Mismatch
import CodeAtlas.Text.Decimal

namespace CodeAtlas

inductive JsonFault where
  | endInList
  | endInObject
  | endInString
  | endInValue
  | expectedColon
  | expectedListCommaOrEnd
  | expectedObjectCommaOrEnd
  | expectedIdent
  | expectedValue
  | invalidEscape
  | invalidNumber
  | numberOutOfRange
  | controlCharacter
  | keyMustBeString
  | loneSurrogate
  | trailingComma
  | trailingCharacters
  | endOfHexEscape
  | tooDeep
  | invalidType (found : Unexpected) (expected : String)
  | invalidLength (length : Nat) (expected : String)
  | missingField (name : String)
  | duplicateField (name : String)

def JsonFault.message : JsonFault → String
  | endInList => "EOF while parsing a list"
  | endInObject => "EOF while parsing an object"
  | endInString => "EOF while parsing a string"
  | endInValue => "EOF while parsing a value"
  | expectedColon => "expected \x60:\x60"
  | expectedListCommaOrEnd => "expected \x60,\x60 or \x60]\x60"
  | expectedObjectCommaOrEnd => "expected \x60,\x60 or \x60\x7d\x60"
  | expectedIdent => "expected ident"
  | expectedValue => "expected value"
  | invalidEscape => "invalid escape"
  | invalidNumber => "invalid number"
  | numberOutOfRange => "number out of range"
  | controlCharacter => "control character (\\u0000-\\u001F) found while parsing a string"
  | keyMustBeString => "key must be a string"
  | loneSurrogate => "lone leading surrogate in hex escape"
  | trailingComma => "trailing comma"
  | trailingCharacters => "trailing characters"
  | endOfHexEscape => "unexpected end of hex escape"
  | tooDeep => "recursion limit exceeded"
  | invalidType found expected => Unexpected.mismatch Text.float found expected
  | invalidLength n expected => "invalid length " ++ Nat.repr n ++ ", expected " ++ expected
  | missingField name => "missing field \x60" ++ name ++ "\x60"
  | duplicateField name => "duplicate field \x60" ++ name ++ "\x60"

/-- A fault at a byte of a text; one found in a value as a whole gets its place later. -/
structure JsonFlaw where
  fault : JsonFault
  index : Option Nat

/-- Line and column of a byte. The first line is 1, and a column is the number of bytes from the
start of the line. -/
def linePlace (index : Nat) : List Char → Nat × Nat → Nat → Nat × Nat
  | [], (line, start), _ => (line, index - start)
  | c :: rest, (line, start), i =>
    if i ≥ index then (line, index - start)
    else
      let next := i + c.utf8Size
      linePlace index rest (if c = '\n' then (line + 1, next) else (line, start)) next

def JsonFlaw.message (text : String) (f : JsonFlaw) : String :=
  let (line, column) := linePlace (f.index.getD 0) text.toList (1, 0) 0
  f.fault.message ++ " at line " ++ Nat.repr line ++ " column " ++ Nat.repr column

end CodeAtlas
