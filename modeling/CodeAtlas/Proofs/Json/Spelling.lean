import CodeAtlas.Json.Printer
import CodeAtlas.Proofs.Catalog
import CodeAtlas.Proofs.Json.Numbers
import CodeAtlas.Proofs.Json.Values

namespace CodeAtlas

namespace Json

mutual

/-- No number in a value is a float. -/
def FloatFree : Json → Prop
  | float _ => False
  | array items => FloatFreeItems items
  | object fields => FloatFreeFields fields
  | _ => True

def FloatFreeItems : List Json → Prop
  | [] => True
  | a :: rest => FloatFree a ∧ FloatFreeItems rest

def FloatFreeFields : List (String × Json) → Prop
  | [] => True
  | (_, a) :: rest => FloatFree a ∧ FloatFreeFields rest

end

mutual

/-- The fields of every object in a value stand in ascending order of their names. -/
def Ascending : Json → Prop
  | array items => AscendingItems items
  | object fields => fields.Pairwise (·.1 < ·.1) ∧ AscendingFields fields
  | _ => True

def AscendingItems : List Json → Prop
  | [] => True
  | a :: rest => Ascending a ∧ AscendingItems rest

def AscendingFields : List (String × Json) → Prop
  | [] => True
  | (_, a) :: rest => Ascending a ∧ AscendingFields rest

end

mutual

/-- How many lists and objects lie inside each other at most. -/
def depth : Json → Nat
  | array items => depthItems items + 1
  | object fields => depthFields fields + 1
  | _ => 0

def depthItems : List Json → Nat
  | [] => 0
  | a :: rest => max (depth a) (depthItems rest)

def depthFields : List (String × Json) → Nat
  | [] => 0
  | (_, a) :: rest => max (depth a) (depthFields rest)

end

theorem insertField_eq (name : String) (value : Json) (fields : List (String × Json)) :
    insertField name value fields = Catalog.setSorted name value fields := by
  induction fields with
  | nil => rfl
  | cons f rest ih => rw [insertField, Catalog.setSorted, ih]

end Json

def HexDigit.ofNat (n : Fin 16) : HexDigit where
  char := Json.hexDigit n
  value := n
  means := by
    revert n
    decide

/-- A character as it is written. -/
def Stroke.ofChar (c : Char) : Stroke :=
  if quote : c = '\x22' then .short '\x22' '\x22' (by decide)
  else if backslash : c = '\\' then .short '\\' '\\' (by decide)
  else if control : c.toNat < 0x20 then
    if c = '\x08' then .short 'b' '\x08' (by decide)
    else if c = '\t' then .short 't' '\t' (by decide)
    else if c = '\n' then .short 'n' '\n' (by decide)
    else if c = '\x0c' then .short 'f' '\x0c' (by decide)
    else if c = '\r' then .short 'r' '\r' (by decide)
    else .hex (.ofNat 0) (.ofNat 0) (.ofNat ⟨c.toNat / 16, by omega⟩) (.ofNat ⟨c.toNat % 16, by omega⟩)
  else .plain c ⟨quote, backslash, by omega⟩

theorem Stroke.chars_ofChar (c : Char) : (ofChar c).chars = Json.escape c := by
  unfold ofChar Json.escape
  split_ifs <;> rfl

theorem Stroke.meant_ofChar (c : Char) (rest : List Stroke) :
    meant (ofChar c :: rest) = (meant rest).map (c :: ·) := by
  unfold ofChar
  split_ifs with quote backslash control
  all_goals
    first
    | subst_vars
      rfl
    | skip
  · have code : Stroke.code (.ofNat 0) (.ofNat 0) (.ofNat ⟨c.toNat / 16, by omega⟩)
        (.ofNat ⟨c.toNat % 16, by omega⟩) = c.toNat := by
      simp only [Stroke.code, HexDigit.ofNat, Fin.val_zero]
      omega
    rw [meant.eq_def]
    simp only [code]
    rw [if_pos (by omega), Char.ofNat_toNat]

def Quoted.ofText (text : String) : Quoted :=
  ⟨text.toList.map .ofChar⟩

theorem Quoted.chars_ofText (text : String) : (ofText text).chars = Json.writeString text := by
  rw [chars, ofText, List.flatMap_map, Json.writeString]
  simp only [Stroke.chars_ofChar]

@[simp] theorem Quoted.text?_ofText (text : String) : (ofText text).text? = some text := by
  have meant (cs : List Char) : Stroke.meant (cs.map .ofChar) = some cs := by
    induction cs with
    | nil => rfl
    | cons c cs ih => rw [List.map_cons, Stroke.meant_ofChar, ih, Option.map_some]
  rw [text?, ofText, meant, Option.map_some, String.ofList_toList]

def Gap.none : Gap := ⟨[], nofun⟩

/-- The blanks that a printer puts before what is inside, by its depth, and behind a colon. -/
structure Layout where
  line : Nat → Gap
  colon : Gap

namespace Layout

def compact : Layout := ⟨fun _ => .none, .none⟩

def pretty : Layout where
  line depth := ⟨Json.newLine depth, by
    intro c member
    rw [Json.newLine, List.mem_cons, List.mem_replicate] at member
    rcases member with rfl | ⟨-, rfl⟩ <;> rfl⟩
  colon := ⟨[' '], by simp [Reader.isBlank]⟩

end Layout

namespace JsonText

def ofInteger : Int → JsonText
  | .ofNat m => number true (.ofNat m)
  | .negSucc m => number false (.ofNat (m + 1))

mutual

/-- A value as it is written. Floats are not told apart. -/
def ofJson (l : Layout) (depth : Nat) : Json → JsonText
  | .null => null
  | .bool b => bool b
  | .integer n => ofInteger n.value
  | .float _ => null
  | .string s => string (.ofText s)
  | .array [] => array [] .none
  | .array items => array (ofItems l (depth + 1) items) (l.line depth)
  | .object [] => object [] .none
  | .object fields => object (ofFields l (depth + 1) fields) (l.line depth)

def ofItems (l : Layout) (depth : Nat) : List Json → List (Spaced JsonText)
  | [] => []
  | a :: rest => ⟨l.line depth, ofJson l depth a, .none⟩ :: ofItems l depth rest

def ofFields (l : Layout) (depth : Nat) : List (String × Json) → List (Member JsonText)
  | [] => []
  | (name, a) :: rest =>
    ⟨l.line depth, .ofText name, .none, ⟨l.colon, ofJson l depth a, .none⟩⟩ :: ofFields l depth rest

end

/-- What a printer writes, part by part. -/
structure Prints (l : Layout) (write : Nat → Json → List Char) (items : Nat → List Json → List Char)
    (fields : Nat → List (String × Json) → List Char) : Prop where
  null : ∀ d, write d .null = ['n', 'u', 'l', 'l']
  true : ∀ d, write d (.bool true) = ['t', 'r', 'u', 'e']
  false : ∀ d, write d (.bool false) = ['f', 'a', 'l', 's', 'e']
  integer : ∀ d n, write d (.integer n) = Json.writeInteger n.value
  string : ∀ d s, write d (.string s) = Json.writeString s
  emptyArray : ∀ d, write d (.array []) = ['[', ']']
  array : ∀ d a rest, write d (.array (a :: rest)) =
    '[' :: (l.line (d + 1)).chars ++ write (d + 1) a ++ items d rest
  noItem : ∀ d, items d [] = (l.line d).chars ++ [']']
  item : ∀ d a rest, items d (a :: rest) =
    ',' :: (l.line (d + 1)).chars ++ write (d + 1) a ++ items d rest
  emptyObject : ∀ d, write d (.object []) = ['\x7b', '\x7d']
  object : ∀ d name a rest, write d (.object ((name, a) :: rest)) =
    '\x7b' :: (l.line (d + 1)).chars ++ Json.writeString name ++ ':' :: l.colon.chars ++ write (d + 1) a
      ++ fields d rest
  noField : ∀ d, fields d [] = (l.line d).chars ++ ['\x7d']
  field : ∀ d name a rest, fields d ((name, a) :: rest) =
    ',' :: (l.line (d + 1)).chars ++ Json.writeString name ++ ':' :: l.colon.chars ++ write (d + 1) a
      ++ fields d rest

theorem prints_compact : Prints .compact (fun _ => Json.write) (fun _ => Json.writeItems)
    (fun _ => Json.writeFields) := by
  constructor <;> intros <;> simp [Json.write, Json.writeItems, Json.writeFields, Layout.compact, Gap.none]

theorem prints_pretty : Prints .pretty Json.writePretty Json.writePrettyItems
    Json.writePrettyFields := by
  constructor <;> intros <;>
    simp [Json.writePretty, Json.writePrettyItems, Json.writePrettyFields, Layout.pretty]

theorem chars_ofInteger (n : Int) : (ofInteger n).chars = Json.writeInteger n := by
  cases n with
  | ofNat m => exact Magnitude.chars_ofNat m
  | negSucc m => exact congrArg ('-' :: ·) (Magnitude.chars_ofNat (m + 1))

variable {l : Layout} {write : Nat → Json → List Char} {items : Nat → List Json → List Char}
  {fields : Nat → List (String × Json) → List Char}

mutual

theorem chars_ofJson (prints : Prints l write items fields) :
    ∀ (j : Json) (depth : Nat), j.FloatFree → (ofJson l depth j).chars = write depth j
  | .null, _, _ => (prints.null _).symm
  | .bool true, _, _ => (prints.true _).symm
  | .bool false, _, _ => (prints.false _).symm
  | .integer n, _, _ => (chars_ofInteger n.value).trans (prints.integer _ n).symm
  | .string s, _, _ => (Quoted.chars_ofText s).trans (prints.string _ s).symm
  | .array [], _, _ => (prints.emptyArray _).symm
  | .array (a :: rest), depth, free => by
    have first := chars_ofJson prints a (depth + 1) free.1
    have others := chars_ofItems prints rest depth free.2
    rw [prints.array, ← others, ← first]
    simp only [ofJson, ofItems, chars, itemsChars, Gap.none, if_true, List.nil_append, List.append_assoc,
      List.cons_append]
  | .object [], _, _ => (prints.emptyObject _).symm
  | .object ((name, a) :: rest), depth, free => by
    have first := chars_ofJson prints a (depth + 1) free.1
    have others := chars_ofFields prints rest depth free.2
    rw [prints.object, ← others, ← first, ← Quoted.chars_ofText]
    simp only [ofJson, ofFields, chars, membersChars, Gap.none, if_true, List.nil_append,
      List.append_assoc, List.cons_append]

theorem chars_ofItems (prints : Prints l write items fields) :
    ∀ (rest : List Json) (depth : Nat), Json.FloatFreeItems rest →
      itemsChars false (ofItems l (depth + 1) rest) ++ ((l.line depth).chars ++ [']']) = items depth rest
  | [], _, _ => (prints.noItem _).symm
  | a :: rest, depth, free => by
    have first := chars_ofJson prints a (depth + 1) free.1
    have others := chars_ofItems prints rest depth free.2
    rw [prints.item, ← others, ← first]
    simp only [ofItems, itemsChars, Gap.none, Bool.false_eq_true, if_false, List.nil_append,
      List.append_assoc, List.cons_append]

theorem chars_ofFields (prints : Prints l write items fields) :
    ∀ (rest : List (String × Json)) (depth : Nat), Json.FloatFreeFields rest →
      membersChars false (ofFields l (depth + 1) rest) ++ ((l.line depth).chars ++ ['\x7d']) =
        fields depth rest
  | [], _, _ => (prints.noField _).symm
  | (name, a) :: rest, depth, free => by
    have first := chars_ofJson prints a (depth + 1) free.1
    have others := chars_ofFields prints rest depth free.2
    rw [prints.field, ← others, ← first, ← Quoted.chars_ofText]
    simp only [ofFields, membersChars, Gap.none, Bool.false_eq_true, if_false, List.nil_append,
      List.append_assoc, List.cons_append]

end

mutual

theorem depth_ofJson (l : Layout) :
    ∀ (j : Json) (depth : Nat), j.FloatFree → (ofJson l depth j).depth = j.depth
  | .null, _, _ => rfl
  | .bool _, _, _ => rfl
  | .integer n, _, _ => by
    rw [ofJson]
    cases n.value <;> rfl
  | .string _, _, _ => rfl
  | .array [], _, _ => rfl
  | .array (a :: rest), depth, free =>
    congrArg (· + 1) (depth_ofItems l (a :: rest) (depth + 1) free)
  | .object [], _, _ => rfl
  | .object ((name, a) :: rest), depth, free =>
    congrArg (· + 1) (depth_ofFields l ((name, a) :: rest) (depth + 1) free)

theorem depth_ofItems (l : Layout) :
    ∀ (rest : List Json) (depth : Nat), Json.FloatFreeItems rest →
      depthItems (ofItems l depth rest) = Json.depthItems rest
  | [], _, _ => rfl
  | a :: rest, depth, free => by
    rw [ofItems, depthItems, Json.depthItems, depth_ofJson l a depth free.1,
      depth_ofItems l rest depth free.2]

theorem depth_ofFields (l : Layout) :
    ∀ (rest : List (String × Json)) (depth : Nat), Json.FloatFreeFields rest →
      depthMembers (ofFields l depth rest) = Json.depthFields rest
  | [], _, _ => rfl
  | (name, a) :: rest, depth, free => by
    rw [ofFields, depthMembers, Json.depthFields, depth_ofJson l a depth free.1,
      depth_ofFields l rest depth free.2]

end

theorem json?_ofInteger (n : JsonInteger) : (ofInteger n.value).json? = some (.integer n) := by
  obtain ⟨value, bounded⟩ := n
  cases value with
  | ofNat m =>
    have fits : m ≤ Numeral.maxNatural := by
      simp only [Numeral.maxNatural, Int.ofNat_eq_natCast] at bounded ⊢
      omega
    have natural : Json.natural m = .integer ⟨m, bounded⟩ := dif_pos bounded
    exact (Magnitude.number?_ofNat fits).trans (congrArg some natural)
  | negSucc m =>
    exact Magnitude.number?_ofNat_negative (Nat.succ_pos m) (by omega)

mutual

/-- What is written is the value. -/
theorem json?_ofJson (l : Layout) :
    ∀ (j : Json) (depth : Nat), j.FloatFree → j.Ascending → (ofJson l depth j).json? = some j
  | .null, _, _, _ => rfl
  | .bool _, _, _, _ => rfl
  | .integer n, _, _, _ => json?_ofInteger n
  | .string s, _, _, _ => by rw [ofJson, json?, Quoted.text?_ofText, Option.map_some]
  | .array [], _, _, _ => rfl
  | .array (a :: rest), depth, free, ascending => by
    rw [ofJson, json?, json?_ofItems l (a :: rest) (depth + 1) free ascending, Option.map_some]
    exact nofun
  | .object [], _, _, _ => rfl
  | .object ((name, a) :: rest), depth, free, ascending => by
    rw [ofJson, json?, json?_ofFields l ((name, a) :: rest) (depth + 1) [] free ascending.2 ascending.1,
      Option.map_some, List.nil_append]
    exact nofun

theorem json?_ofItems (l : Layout) :
    ∀ (rest : List Json) (depth : Nat), Json.FloatFreeItems rest → Json.AscendingItems rest →
      jsonItems? (ofItems l depth rest) = some rest
  | [], _, _, _ => rfl
  | a :: rest, depth, free, ascending => by
    rw [ofItems, jsonItems?, json?_ofJson l a depth free.1 ascending.1,
      json?_ofItems l rest depth free.2 ascending.2]
    rfl

theorem json?_ofFields (l : Layout) :
    ∀ (rest : List (String × Json)) (depth : Nat) (before : List (String × Json)),
      Json.FloatFreeFields rest → Json.AscendingFields rest →
      (before ++ rest).Pairwise (·.1 < ·.1) →
      jsonMembers? (ofFields l depth rest) before = some (before ++ rest)
  | [], _, before, _, _, _ => by rw [ofFields, jsonMembers?, List.append_nil]
  | (name, a) :: rest, depth, before, free, ascending, inOrder => by
    have greatest : ∀ e ∈ before, e.1 < name := fun e member =>
      (List.pairwise_append.mp inOrder).2.2 e member (name, a) List.mem_cons_self
    have last : Json.insertField name a before = before ++ [(name, a)] :=
      (Json.insertField_eq name a before).trans (setSorted_greatest greatest)
    rw [List.append_cons] at inOrder ⊢
    rw [ofFields, jsonMembers?, Quoted.text?_ofText, json?_ofJson l a depth free.1 ascending.1,
      Option.bind_eq_bind, Option.bind_some, Option.bind_eq_bind, Option.bind_some, last]
    exact json?_ofFields l rest depth (before ++ [(name, a)]) free.2 ascending.2 inOrder

end

end JsonText

end CodeAtlas
