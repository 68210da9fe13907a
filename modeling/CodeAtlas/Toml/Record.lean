import CodeAtlas.Mismatch
import CodeAtlas.Toml.Document
import CodeAtlas.Toml.Picture
import CodeAtlas.Text.Decimal

namespace CodeAtlas

/-- What is wrong with a value, and where. -/
structure TomlComplaint where
  message : String
  span : Option Span := none

abbrev FromToml (α : Type) := TomlItem → Except TomlComplaint α

namespace FromToml

variable {α : Type}

/-- Puts a complaint without a place at a span. -/
def at? (span : Option Span) (r : Except TomlComplaint α) : Except TomlComplaint α :=
  r.mapError fun e => { e with span := e.span <|> span }

def found : TomlItem → Unexpected
  | .scalar (.string text) _ => .string text
  | .scalar (.integer n) _ => .integer n
  | .scalar (.float x) _ => .float x
  | .scalar (.boolean b) _ => .bool b
  | .scalar .dateTime _ | .table _ => .map
  | .array _ _ | .tables _ _ => .sequence

def wrong (item : TomlItem) (expected : String) : Except TomlComplaint α :=
  .error ⟨(found item).mismatch Text.plainFloat expected, item.span?⟩

def text (expected : String) : FromToml String
  | .scalar (.string text) _ => .ok text
  | item => wrong item expected

def string : FromToml String :=
  text "a string"

def path : FromToml String :=
  text "path string"

def boolean : FromToml Bool
  | .scalar (.boolean b) _ => .ok b
  | item => wrong item "a boolean"

/-- A number from zero on; `kind` names those that are asked for. -/
def natural (kind : String) : FromToml Nat
  | .scalar (.integer n) span =>
    if 0 ≤ n then .ok n.toNat
    else .error ⟨"invalid value: integer \x60" ++ Unexpected.integerText n ++ "\x60, expected "
      ++ kind, some span⟩
  | item => wrong item kind

def items? : TomlItem → Option (List TomlItem)
  | .array items _ => some items
  | .tables before last => some ((before ++ [last]).map .table)
  | _ => none

def list (element : FromToml α) : FromToml (List α) := fun item =>
  match items? item with
  | some items => at? item.span? (items.mapM fun i => at? i.span? (element i))
  | none => wrong item "a sequence"

/-- A field of a record: its name, and how a value changes the record. -/
abbrev Field (α : Type) := String × (TomlItem → α → Except TomlComplaint α)

def field {β : Type} (name : String) (read : FromToml β) (put : β → α → α) : Field α :=
  (name, fun item a => return put (← read item) a)

/-- Sets the field of a key; keys that name no field are passed over. -/
def setNamed (fields : List (Field α)) (a : α) (entry : TomlKey × TomlItem) :
    Except TomlComplaint α :=
  match fields.find? (·.1 == entry.1.name) with
  | some (_, set) => at? (entry.2.span? <|> some entry.1.span) (set entry.2 a)
  | none => .ok a

def setInOrder : List (Field α) → List TomlItem → α → Except TomlComplaint α
  | (_, set) :: fields, item :: items, a => do
    setInOrder fields items (← at? item.span? (set item a))
  | _, _, a => .ok a

/-- A record is written as a table, or as a list of its fields in order; what is not written stays
as it is by default. A date is a table of none of the fields. -/
def record (kind : String) (fields : List (Field α)) (default : α) : FromToml α := fun item =>
  match item with
  | .table t => at? item.span? (t.entries.foldlM (setNamed fields) default)
  | .scalar .dateTime _ => .ok default
  | item =>
    match items? item with
    | some items => at? item.span? (setInOrder fields items default)
    | none => wrong item ("struct " ++ kind)

/-- Reads a whole document. -/
def document (read : FromToml α) (text : String) : Except String α :=
  match Toml.document text with
  | .error flaw => .error (flaw.picture text)
  | .ok t =>
    (read (.table t)).mapError fun e => Toml.picture text e.message (e.span.getD ⟨0, 0⟩)

end FromToml

end CodeAtlas
