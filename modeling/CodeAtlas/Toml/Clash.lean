import CodeAtlas.Toml.Basic

namespace CodeAtlas

inductive TomlClash where
  /-- The key is there; told with the names of its table, if they are known. -/
  | again (key : String) (table : Option (List String))
  /-- A key in the way has a value that is no table. -/
  | notTable (path : List String) (kind : String)
  | tooDeep

namespace TomlClash

def ticked (text : String) : String :=
  "\x60" ++ text ++ "\x60"

def joined (names : List String) : String :=
  ".".intercalate names

def message : TomlClash → String
  | again key none => "duplicate key " ++ ticked key
  | again key (some []) => "duplicate key " ++ ticked key ++ " in document root"
  | again key (some names) =>
    "duplicate key " ++ ticked key ++ " in table " ++ ticked (joined names)
  | notTable path kind =>
    "dotted key " ++ ticked (joined path) ++ " attempted to extend non-table type (" ++ kind ++ ")"
  | tooDeep => "recursion limit exceeded"

end TomlClash

namespace Toml

/-- Characters of a key without quotes. -/
def isBare (c : Char) : Bool :=
  c.isAlphanum || c = '-' || c = '_'

def needsEscape (c : Char) : Bool :=
  c ≠ '\t' && (c < ' ' || c = '\x7f')

def escapeForBasic (c : Char) : List Char :=
  match c with
  | '\x08' => ['\\', 'b']
  | '\t' => ['\\', 't']
  | '\n' => ['\\', 'n']
  | '\x0c' => ['\\', 'f']
  | '\r' => ['\\', 'r']
  | '\x22' => ['\\', '\x22']
  | '\\' => ['\\', '\\']
  | c =>
    if needsEscape c then
      let digits := (Nat.toDigits 16 c.toNat).map Char.toUpper
      ['\\', 'u'] ++ List.replicate (4 - digits.length) '0' ++ digits
    else [c]

/-- A key as it would be written: bare, else in the quotes that need no escape. -/
def spellKey (name : String) : String :=
  let cs := name.toList
  let enclosed (quote : Char) (cs : List Char) : String := String.ofList (quote :: cs ++ [quote])
  if !cs.isEmpty && cs.all isBare then name
  else if !cs.any fun c => needsEscape c || c = '\\' || c = '\x22' then enclosed '\x22' cs
  else if !cs.any fun c => needsEscape c || c = '\x27' then enclosed '\x27' cs
  else enclosed '\x22' (cs.flatMap escapeForBasic)

abbrev ItemTable := TomlTable TomlItem

/-- Goes down a path, making tables of an origin, and does something with the table at its end. Below
braces `inside` holds: tables in braces are then met as tables. -/
def alterAt {β : Type} (inside : Bool) (origin : TableOrigin)
    (f : ItemTable → Except TomlClash (β × ItemTable)) :
    List String → List TomlKey → ItemTable → Except TomlClash (β × ItemTable)
  | _, [], t => f t
  | above, key :: rest, t => do
    let names := above ++ [key.name]
    let down := alterAt inside origin f names rest
    match t.get? key.name with
    | none =>
      let (b, sub) ← down { origin }
      return (b, t.push key (.table sub))
    | some (.table sub) =>
      if sub.origin = .inline && !inside then
        throw (.notTable names (TomlItem.table sub).kind)
      else if origin = .dotted && !sub.origin.isOpen then throw (.again key.name none)
      else
        let (b, sub) ← down sub
        return (b, t.set key.name (.table sub))
    | some (.tables before last) =>
      let (b, last) ← down last
      return (b, t.set key.name (.tables before last))
    | some other => throw (.notTable names other.kind)

/-- Puts a value under the last of some keys. A table made by a header takes no dotted keys from
elsewhere, and one made by dotted keys nothing but those. -/
def putAt (inside : Bool) (owner : Option (List String)) (path : List TomlKey) (key : TomlKey)
    (value : TomlItem) (t : ItemTable) : Except TomlClash ItemTable :=
  let put (t : ItemTable) : Except TomlClash (Unit × ItemTable) :=
    if (t.origin == .dotted) == path.isEmpty then .error (.again key.name none)
    else if (t.get? key.name).isSome then .error (.again key.name owner)
    else .ok ((), t.push key value)
  (alterAt inside .dotted put [] path t).map (·.2)

end Toml

end CodeAtlas
