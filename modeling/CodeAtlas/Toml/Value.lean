import CodeAtlas.Toml.Clash
import CodeAtlas.Toml.Number

namespace CodeAtlas.Toml

open TextScanner

def maxDepth : Nat := 80

def bareKey : TextScanner (List Char) :=
  takeWhile1 isBare

def simpleKey : TextScanner TomlKey := do
  let text ← spanned do
    match ← peek with
    | some '\x22' => basicText
    | some '\x27' => literalText
    | some _ => bareKey
    | none => refuse
  return ⟨String.ofList text.1, text.2⟩

/-- A key of one or more parts, divided by points. -/
def key : TextScanner (List TomlKey) :=
  let part := do
    let _ ← blanks
    let k ← simpleKey
    let _ ← blanks
    return k
  convert (fun keys =>
      if keys.length < maxDepth then .ok keys else .error (some TomlClash.tooDeep.message))
    (labelled "key" (separated1 part (char '.')))

/-- What follows a key: the sign for its value. -/
def keySign : TextScanner Char :=
  expecting "\x60=\x60" (expecting "\x60.\x60" (char '='))

def pathAndKey (keys : List TomlKey) : List TomlKey × TomlKey :=
  (keys.dropLast, keys.getLastD ⟨"", ⟨0, 0⟩⟩)

def array (value : TextScanner TomlItem) : TextScanner (List TomlItem) := do
  let _ ← char '['
  let item := do
    gap
    let v ← value
    gap
    return v
  let items ← final do
    let items ← optional do
      let items ← separated1 item (char ',')
      let _ ← optional (char ',')
      return items
    gap
    return items.getD []
  labelled "array" (expecting "\x60]\x60" (final (do let _ ← char ']')))
  return items

/-- The table of the pairs between braces. -/
def tableOf (pairs : List (List TomlKey × TomlItem)) : Except (Option String) ItemTable :=
  let add (t : ItemTable) (pair : List TomlKey × TomlItem) : Except TomlClash ItemTable :=
    let (path, key) := pathAndKey pair.1
    putAt true none path key pair.2 t
  (pairs.foldlM add { origin := .inline }).mapError (some ·.message)

def inlineTable (value : TextScanner TomlItem) : TextScanner ItemTable := do
  let _ ← char '\x7b'
  let pair := do
    let keys ← key
    final do
      let _ ← keySign
      let _ ← blanks
      let v ← value
      let _ ← blanks
      return (keys, v)
  let table ← final <| convert tableOf do
    let pairs ← separated pair (char ',')
    let _ ← blanks
    return pairs
  labelled "inline table" (expecting "\x60\x7d\x60" (final (do let _ ← char '\x7d')))
  return table

def scalar (s : TextScanner TomlScalar) : TextScanner TomlItem := do
  let (v, span) ← spanned s
  return .scalar v span

def number : TextScanner TomlScalar :=
  or (do dateTime; return .dateTime) (or (.float <$> float) (.integer <$> integer))

/-- A word that begins with the letter found. -/
def named (label text : String) (s : TextScanner TomlScalar) : TextScanner TomlScalar :=
  expecting ("\x60" ++ text ++ "\x60") (labelled label s)

/-- A value that holds no others, by its first character. What cannot begin a value is taken for a
text without its quotes. -/
def plainValue (first : Char) : TextScanner TomlScalar :=
  match first with
  | '\x22' | '\x27' => (fun cs => .string (String.ofList cs)) <$> quotedText
  | '_' => expecting "leading digit" (.integer <$> integer)
  | '.' => expecting "leading digit" (.float <$> float)
  | 't' => named "boolean" "true" (do final (word "true"); return .boolean true)
  | 'f' => named "boolean" "false" (do final (word "false"); return .boolean false)
  | 'i' => named "floating-point number" "inf" (.float <$> infinity)
  | 'n' => named "floating-point number" "nan" (.float <$> notANumber)
  | c =>
    if c.isDigit || c = '+' || c = '-' then number
    else expecting "\x60\x27\x60" (expecting "\x60\x22\x60" (labelled "string" refuse))

def nested (depth : Option (TextScanner TomlItem)) (s : TextScanner TomlItem → TextScanner TomlItem) :
    TextScanner TomlItem :=
  match depth with
  | some inner => s inner
  | none => final (convert (fun () => .error (some TomlClash.tooDeep.message)) (pure ()))

def valueWith (depth : Option (TextScanner TomlItem)) : TextScanner TomlItem := do
  match ← peek with
  | none => refuse
  | some '[' => nested depth fun inner => do
    let (items, span) ← spanned (array inner)
    return .array items span
  | some '\x7b' => nested depth fun inner => do
    let (table, span) ← spanned (inlineTable inner)
    return .table { table with span := some span }
  | some c => scalar (plainValue c)

/-- A value with no more than so many levels of arrays and tables. -/
def value : Nat → TextScanner TomlItem
  | 0 => valueWith none
  | depth + 1 => valueWith (some (value depth))

end CodeAtlas.Toml
