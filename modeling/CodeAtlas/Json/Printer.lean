import CodeAtlas.Json.Basic

namespace CodeAtlas.Json

def hexDigit (n : Nat) : Char :=
  if n < 10 then Char.ofNat (48 + n) else Char.ofNat (87 + n)

/-- Only quotes, backslashes and control characters are escaped. -/
def escape (c : Char) : List Char :=
  if c = '\x22' then ['\\', '\x22']
  else if c = '\\' then ['\\', '\\']
  else if c.toNat < 0x20 then
    if c = '\x08' then ['\\', 'b']
    else if c = '\t' then ['\\', 't']
    else if c = '\n' then ['\\', 'n']
    else if c = '\x0c' then ['\\', 'f']
    else if c = '\r' then ['\\', 'r']
    else ['\\', 'u', '0', '0', hexDigit (c.toNat / 16), hexDigit (c.toNat % 16)]
  else [c]

def writeString (text : String) : List Char :=
  '\x22' :: text.toList.flatMap escape ++ ['\x22']

def writeInteger (n : Int) : List Char :=
  match n with
  | .ofNat m => (Nat.repr m).toList
  | .negSucc m => '-' :: (Nat.repr (m + 1)).toList

mutual

def write : Json → List Char
  | null => "null".toList
  | bool true => "true".toList
  | bool false => "false".toList
  | integer n => writeInteger n.value
  | float x => (Text.float x).toList
  | string text => writeString text
  | array [] => ['[', ']']
  | array (a :: rest) => '[' :: write a ++ writeItems rest
  | object [] => ['\x7b', '\x7d']
  | object ((name, a) :: rest) => '\x7b' :: writeString name ++ ':' :: write a ++ writeFields rest

/-- What follows the first item. -/
def writeItems : List Json → List Char
  | [] => [']']
  | a :: rest => ',' :: write a ++ writeItems rest

def writeFields : List (String × Json) → List Char
  | [] => ['\x7d']
  | (name, a) :: rest => ',' :: writeString name ++ ':' :: write a ++ writeFields rest

end

def newLine (depth : Nat) : List Char :=
  '\n' :: List.replicate (2 * depth) ' '

mutual

/-- Indented by two blanks a level; `depth` is that of the value itself. -/
def writePretty (depth : Nat) : Json → List Char
  | null => "null".toList
  | bool true => "true".toList
  | bool false => "false".toList
  | integer n => writeInteger n.value
  | float x => (Text.float x).toList
  | string text => writeString text
  | array [] => ['[', ']']
  | array (a :: rest) =>
    '[' :: newLine (depth + 1) ++ writePretty (depth + 1) a ++ writePrettyItems depth rest
  | object [] => ['\x7b', '\x7d']
  | object ((name, a) :: rest) =>
    '\x7b' :: newLine (depth + 1) ++ writeString name ++ ':' :: ' ' :: writePretty (depth + 1) a
      ++ writePrettyFields depth rest

def writePrettyItems (depth : Nat) : List Json → List Char
  | [] => newLine depth ++ [']']
  | a :: rest =>
    ',' :: newLine (depth + 1) ++ writePretty (depth + 1) a ++ writePrettyItems depth rest

def writePrettyFields (depth : Nat) : List (String × Json) → List Char
  | [] => newLine depth ++ ['\x7d']
  | (name, a) :: rest =>
    ',' :: newLine (depth + 1) ++ writeString name ++ ':' :: ' ' :: writePretty (depth + 1) a
      ++ writePrettyFields depth rest

end

def compact (j : Json) : String :=
  String.ofList j.write

def pretty (j : Json) : String :=
  String.ofList (j.writePretty 0)

end CodeAtlas.Json
