import CodeAtlas.Toml.Value

namespace CodeAtlas.Toml

open TextScanner

inductive Line where
  | blank
  | pair (path : List TomlKey) (key : TomlKey) (value : TomlItem)
  | header (keys : List TomlKey) (span : Span) (repeated : Bool)

/-- The table of the last header is kept apart until the next one. -/
structure Draft where
  root : ItemTable := { origin := .header, span := some ⟨0, 0⟩ }
  /-- The table of the last header; with no keys, of what stands before the first one. -/
  current : ItemTable := { origin := .header, span := some ⟨0, 0⟩ }
  keys : List TomlKey := []
  repeated : Bool := false

namespace Draft

def owner (d : Draft) : List String :=
  d.keys.map (·.name)

/-- A table reaches to the end of its last pair. -/
def stretch (span : Option Span) (v : TomlItem) : Option Span :=
  match span, v.span? with
  | some s, some w => some ⟨s.start, w.stop⟩
  | span, _ => span

def pair (d : Draft) (path : List TomlKey) (key : TomlKey) (v : TomlItem) :
    Except TomlClash Draft := do
  let stretched := { d.current with span := stretch d.current.span v }
  return { d with current := ← putAt false (some d.owner) path key v stretched }

/-- Puts the kept table into its place. -/
def close (d : Draft) : Except TomlClash Draft :=
  let (path, key) := pathAndKey d.keys
  let put (t : ItemTable) : Except TomlClash (Unit × ItemTable) :=
    .ok ((), match d.repeated, t.get? key.name with
      | true, some (.tables before last) =>
        t.set key.name (.tables (before ++ [last]) d.current)
      | true, _ => t.push key (.tables [] d.current)
      | false, _ => t.push key (.table d.current))
  if d.keys.isEmpty then .ok { root := d.current }
  else (alterAt false .implied put [] path d.root).map fun (_, root) => { root }

/-- Begins the table of a header. One that longer headers implied is taken out and gone on with. -/
def begin (d : Draft) (keys : List TomlKey) (span : Span) (repeated : Bool) :
    Except TomlClash Draft := do
  let d ← d.close
  let (path, key) := pathAndKey keys
  let clash : TomlClash := .again (spellKey key.name) (some (path.map (·.name)))
  let new : ItemTable := { origin := .header, span := some span }
  let take (t : ItemTable) : Except TomlClash (ItemTable × ItemTable) :=
    match repeated, t.get? key.name with
    | _, none | true, some (.tables _ _) => .ok (new, t)
    | false, some (.table sub) =>
      if sub.origin = .implied then .ok ({ new with entries := sub.entries }, t.erase key.name)
      else .error clash
    | _, _ => .error clash
  let (current, root) ← alterAt false .implied take [] path d.root
  return { root, current, keys, repeated }

def add (d : Draft) : Line → Except TomlClash Draft
  | .blank => .ok d
  | .pair path key v => d.pair path key v
  | .header keys span repeated => d.begin keys span repeated

end Draft

def expectingLineEnd (s : TextScanner Unit) : TextScanner Unit :=
  expecting "\x60#\x60" (expecting "newline" s)

def pairLine : TextScanner Line := do
  let keys ← key
  let v ← final do
    let _ ← keySign
    let _ ← blanks
    let v ← value (maxDepth - 1)
    expectingLineEnd lineRest
    return v
  let (path, key) := pathAndKey keys
  return .pair path key v

def header (left right : String) (repeated : Bool) : TextScanner Line := do
  let (keys, span) ← spanned do
    word left
    let keys ← final key
    expecting ("\x60" ++ right ++ "\x60") (expecting "\x60.\x60" (final (word right)))
    return keys
  expectingLineEnd (final lineRest)
  return .header keys span repeated

def headerLine : TextScanner Line := fun c =>
  match c.rest with
  | '[' :: '[' :: _ => header "[[" "]]" true c
  | [_] => refuse c
  | _ => header "[" "]" false c

def line (first : Char) : TextScanner Line :=
  match first with
  | '#' => do comment; lineEnd; return .blank
  | '[' => labelled "table header" headerLine
  | '\n' | '\r' => or (do let _ ← newline; return .blank) refuse
  | _ => pairLine

/-- A clash is put at the start of the line that brings it. -/
def clashAt (index : Nat) (l : Line) (clash : TomlClash) : TextFlaw :=
  match l with
  | .header _ _ _ => { index, label := some "table header", cause := some clash.message }
  | _ => { index, cause := some clash.message }

def lines : Nat → Draft → Cursor → Except TextFlaw Draft
  | 0, d, _ => .ok d
  | fuel + 1, d, c =>
    let c := c.advanceWhile isBlank
    match c.rest with
    | [] => .ok d
    | first :: _ =>
      match line first c with
      | .refused _ flaw => .error flaw
      | .done l next =>
        match d.add l with
        | .ok d => lines fuel d next
        | .error clash => .error (clashAt c.index l clash)

/-- The table of a document. A mark of byte order at its start is passed over. -/
def document (text : String) : Except TextFlaw ItemTable := do
  let c := Cursor.ofString text
  let c := if c.rest.head? = some '\ufeff' then c.advance else c
  let d ← lines (c.rest.length + 1) {} c
  match d.close with
  | .ok d => return d.root
  | .error clash => throw { index := c.index, cause := some clash.message }

end CodeAtlas.Toml
