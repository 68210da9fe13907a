import CodeAtlas.Text.Utf8
import CodeAtlas.Toml.Scanner

namespace CodeAtlas

namespace Toml

/-- Line and column of a byte, from zero on. Columns count characters, but for a character of
several bytes; the end of the text counts as a place in its last line. -/
def placeOf (text : Bytes) (index : Nat) : Nat × Nat :=
  if text.isEmpty then (0, index)
  else
    let inside := min index (text.length - 1)
    let before := text.take inside
    let start := inside - (before.reverse.takeWhile (· != 0x0a)).length
    let column := match Text.decode? ((text.drop start).take (inside + 1 - start)) with
      | some part => part.length - 1
      | none => inside - start
    (before.count 0x0a, column + (index - inside))

def blanksFor (n : Nat) : String :=
  String.ofList (List.replicate n ' ')

def picture (text message : String) (span : Span) : String :=
  let (line, column) := placeOf (Text.encode text) span.start
  let number := Nat.repr (line + 1)
  let gutter := blanksFor (number.length + 1) ++ "|"
  let content := ((text.splitOn "\n")[line]?).getD ""
  let marked := min span.stop (span.start + content.utf8ByteSize) - (span.start + 1)
  "TOML parse error at line " ++ number ++ ", column " ++ Nat.repr (column + 1) ++ "\n" ++
  gutter ++ "\n" ++
  number ++ " | " ++ content ++ "\n" ++
  gutter ++ blanksFor (column + 1) ++ String.ofList (List.replicate (marked + 1) '^') ++ "\n" ++
  message ++ "\n"

end Toml

namespace TextFlaw

/-- A fault with its line, and a mark below what is at fault. -/
def message (flaw : TextFlaw) : String :=
  let expected := if flaw.expected.isEmpty then []
    else ["expected " ++ ", ".intercalate flaw.expected]
  "\n".intercalate ((flaw.label.map ("invalid " ++ ·)).toList ++ expected ++ flaw.cause.toList)

/-- The character at the flaw; nothing at the end of the text. -/
def span (text : String) (flaw : TextFlaw) : Span :=
  let rec find : List Char → Nat → Span
    | [], _ => ⟨flaw.index, flaw.index⟩
    | c :: rest, i =>
      if flaw.index < i + c.utf8Size then ⟨i, i + c.utf8Size⟩ else find rest (i + c.utf8Size)
  find text.toList 0

def picture (text : String) (flaw : TextFlaw) : String :=
  Toml.picture text flaw.message (flaw.span text)

end TextFlaw

end CodeAtlas
