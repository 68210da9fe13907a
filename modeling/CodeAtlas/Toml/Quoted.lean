import CodeAtlas.Toml.Scanner

namespace CodeAtlas.Toml

open TextScanner

def isBlank (c : Char) : Bool :=
  c = ' ' || c = '\t'

/-- Characters that may stand in a comment and, but for what ends or escapes it, in a text. -/
def isPlain (c : Char) : Bool :=
  c = '\t' || (' ' ≤ c && c ≠ '\x7f')

def blanks : TextScanner (List Char) :=
  takeWhile isBlank

def newline : TextScanner Char :=
  or (char '\n') (do let _ ← char '\r'; char '\n')

def comment : TextScanner Unit := do
  let _ ← char '#'
  let _ ← takeWhile isPlain

def lineEnd : TextScanner Unit :=
  or (do let _ ← newline) atEnd

/-- The rest of a line behind its contents. -/
def lineRest : TextScanner Unit := do
  let _ ← blanks
  let _ ← optional comment
  lineEnd

/-- Blanks, line ends and comments. -/
def gap : TextScanner Unit := do
  let solid := do let _ ← many1 (or (takeWhile1 isBlank) (List.singleton <$> newline))
  let _ ← many (or solid comment)

def isBasic (c : Char) : Bool :=
  isPlain c && c ≠ '\x22' && c ≠ '\\'

def isLiteral (c : Char) : Bool :=
  isPlain c && c ≠ '\x27'

def isHexDigit (c : Char) : Bool :=
  c.isDigit || ('a' ≤ c && c ≤ 'f') || ('A' ≤ c && c ≤ 'F')

def hexValue (c : Char) : Nat :=
  if c.isDigit then c.toNat - 48
  else if c ≤ 'F' then c.toNat - 55
  else c.toNat - 87

def valueIn (base : Nat) (digits : List Char) : Nat :=
  digits.foldl (fun n d => base * n + hexValue d) 0

def outOfRange : Option String :=
  some "value is out of range"

def hexEscape (n : Nat) : TextScanner Char :=
  convert (fun digits =>
      let code := valueIn 16 digits
      if code.isValidChar then .ok (Char.ofNat code) else .error outOfRange)
    (exactly n isHexDigit)

def wrongEscape : TextScanner Char :=
  let letters := ["b", "f", "n", "r", "t", "u", "U", "\\", "\x22"]
  letters.foldl (fun s letter => expecting ("\x60" ++ letter ++ "\x60") s)
    (labelled "escape sequence" (final refuse))

/-- What follows a backslash. -/
def escaped : TextScanner Char := do
  let _ ← char '\\'
  match ← peek with
  | none => refuse
  | some c =>
    -- Where a wrong sign is not a single byte, the place is before it.
    if c.toNat < 128 then
      let _ ← one fun _ => true
    match c with
    | 'b' => return '\x08'
    | 'f' => return '\x0c'
    | 'n' => return '\n'
    | 'r' => return '\r'
    | 't' => return '\t'
    | 'u' => labelled "unicode 4-digit hex code" (final (hexEscape 4))
    | 'U' => labelled "unicode 8-digit hex code" (final (hexEscape 8))
    | '\\' => return '\\'
    | '\x22' => return '\x22'
    | _ => wrongEscape

def basicText : TextScanner (List Char) := do
  let _ ← char '\x22'
  let parts ← many (or (takeWhile1 isBasic) (List.singleton <$> escaped))
  labelled "basic string" (final (do let _ ← char '\x22'))
  return parts.flatten

def literalText : TextScanner (List Char) :=
  labelled "literal string" do
    let _ ← char '\x27'
    let text ← takeWhile isLiteral
    let _ ← final (char '\x27')
    return text

/-- A backslash at the end of a line, with all blanks and line ends behind it. -/
def continuation : TextScanner Unit := do
  let _ ← char '\\'
  let _ ← blanks
  let _ ← newline
  let _ ← many (or (one isBlank) newline)

def longBasicPart : TextScanner (List Char) :=
  or (takeWhile1 isBasic)
    (or (do let _ ← many1 continuation; return [])
      (or (List.singleton <$> escaped) (List.singleton <$> newline)))

def longLiteralPart : TextScanner (List Char) :=
  or (takeWhile1 isLiteral) (List.singleton <$> newline)

/-- One or two quotes with something behind them. -/
def innerQuotes (quote : Char) (behind : TextScanner Unit) : TextScanner (List Char) :=
  or (do word (String.ofList [quote, quote]); look behind; return [quote, quote])
    (do let _ ← char quote; look behind; return [quote])

/-- The text between three quotes; a line end right at its start does not count. -/
def longText (quote : Char) (part : TextScanner (List Char)) : TextScanner (List Char) := do
  let threeQuotes := word (String.ofList [quote, quote, quote])
  threeQuotes
  let _ ← optional newline
  let text ← final do
    let start ← many part
    let more ← many do
      let quotes ← innerQuotes quote (do let _ ← part)
      return quotes ++ (← many1 part).flatten
    let last ← optional (innerQuotes quote threeQuotes)
    return start.flatten ++ more.flatten ++ last.getD []
  final threeQuotes
  return text

/-- A quoted text of any of the four kinds. -/
def quotedText : TextScanner (List Char) :=
  or (labelled "multiline basic string" (longText '\x22' longBasicPart))
    (or basicText
      (or (labelled "multiline literal string" (longText '\x27' longLiteralPart)) literalText))

end CodeAtlas.Toml
