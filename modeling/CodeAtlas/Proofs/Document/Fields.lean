import CodeAtlas.Proofs.Catalog
import CodeAtlas.Proofs.Json.Passing
import CodeAtlas.Proofs.Document.Presenting

namespace CodeAtlas

variable {α : Type}

theorem mapM_eq_some_iff {β : Type} {f : α → Option β} {as : List α} {bs : List β} :
    as.mapM f = some bs ↔ List.Forall₂ (fun a b => f a = some b) as bs := by
  induction as generalizing bs with
  | nil => simp [eq_comm]
  | cons a as ih =>
    rw [List.mapM_cons]
    simp only [Option.bind_eq_bind, Option.bind_eq_some_iff, Option.pure_def, Option.some.injEq,
      List.forall₂_cons_left_iff, ih]
    constructor
    · rintro ⟨b, first, rest, others, rfl⟩
      exact ⟨b, rest, first, others, rfl⟩
    · rintro ⟨b, rest, first, others, rfl⟩
      exact ⟨b, first, rest, others, rfl⟩

namespace JsonText

theorem string?_eq_some {t : JsonText} {text : String} : t.string? = some text ↔ t.IsString text := by
  cases t with
  | string q => simp [string?, IsString]
  | _ => simp [string?, IsString]

theorem items?_eq_some {read? : JsonText → Option α} {shows : JsonText → α → Prop}
    (each : ∀ t a, read? t = some a ↔ shows t a) {t : JsonText} {values : List α} :
    t.items? read? = some values ↔ t.IsList shows values := by
  cases t with
  | array items close => simp [items?, IsList, mapM_eq_some_iff, each]
  | _ => simp [items?, IsList]

theorem entries?_eq_some {read? : JsonText → Option α} {shows : JsonText → α → Prop}
    (each : ∀ t a, read? t = some a ↔ shows t a) {t : JsonText} {entries : List (String × α)} :
    t.entries? read? = some entries ↔ t.IsObject shows entries := by
  cases t with
  | object members close =>
    have entry (m : Member JsonText) (e : String × α) :
        (m.name.text?.bind fun name => (read? m.value.value).map (name, ·)) = some e ↔
          m.name.text? = some e.1 ∧ shows m.value.value e.2 := by
      simp only [Option.bind_eq_some_iff, Option.map_eq_some_iff, each]
      constructor
      · rintro ⟨name, named, value, shown, rfl⟩
        exact ⟨named, shown⟩
      · rintro ⟨named, shown⟩
        exact ⟨e.1, named, e.2, shown, rfl⟩
    simp [entries?, IsObject, mapM_eq_some_iff, entry]
  | _ => simp [entries?, IsObject]

/-- The names of a list as a set. -/
def nameSet? (t : JsonText) : Option NameSet :=
  (t.items? string?).map .ofList

theorem nameSet?_eq_some {t : JsonText} {set : NameSet} : t.nameSet? = some set ↔ t.IsNameSet set := by
  simp only [nameSet?, Option.map_eq_some_iff, items?_eq_some fun _ _ => string?_eq_some, IsNameSet]
  constructor
  · rintro ⟨names, shown, rfl⟩
    exact ⟨names, shown, fun name => NameSet.mem_ofList⟩
  · rintro ⟨names, shown, same⟩
    exact ⟨names, shown, NameSet.ext fun name => NameSet.mem_ofList.trans (same name).symm⟩

def catalog? (read? : JsonText → Option α) (t : JsonText) : Option (Catalog α) :=
  (t.entries? read?).map .ofList

theorem catalog?_eq_some {read? : JsonText → Option α} {shows : JsonText → α → Prop}
    (each : ∀ t a, read? t = some a ↔ shows t a) {t : JsonText} {c : Catalog α} :
    t.catalog? read? = some c ↔ t.IsCatalog shows c := by
  simp only [catalog?, Option.map_eq_some_iff, entries?_eq_some each, IsCatalog]
  constructor
  · rintro ⟨entries, shown, rfl⟩
    exact ⟨entries, shown, Catalog.get?_ofList entries⟩
  · rintro ⟨entries, shown, same⟩
    exact ⟨entries, shown, Catalog.ext_of_get? fun name =>
      (Catalog.get?_ofList entries name).trans (same name).symm⟩

def summary? (levels : Nat) : JsonText → Option (Option Json)
  | .null => some none
  | t => (t.within? levels).map some

theorem summary?_eq_some {levels : Nat} {t : JsonText} {summary : Option Json} :
    t.summary? levels = some summary ↔ t.IsSummary levels summary := by
  have value (t : JsonText) (notNull : t ≠ .null) :
      (t.within? levels).map some = some summary ↔ t.IsSummary levels summary := by
    simp only [IsSummary, notNull, false_and, false_or, ne_eq, not_false_eq_true, true_and]
    by_cases shallow : t.depth ≤ levels
    · simp only [within?_shallow shallow, Option.map_eq_some_iff, shallow, true_and,
        eq_comm (a := summary)]
    · simp [within?_deep shallow, shallow]
  cases t with
  | null => simp [summary?, IsSummary, eq_comm]
  | bool b => exact value (.bool b) nofun
  | number positive m => exact value (.number positive m) nofun
  | string q => exact value (.string q) nofun
  | array items close => exact value (.array items close) nofun
  | object members close => exact value (.object members close) nofun

/-- One more value for a field, unless it has one. -/
def slot (read? : JsonText → Option α) (old : Option α) (t : JsonText) : Option (Option α) :=
  if old.isSome then none else (read? t).map some

/-- All values for a field. -/
def fill (read? : JsonText → Option α) (old : Option α) (values : List JsonText) : Option (Option α) :=
  values.foldlM (slot read?) old

theorem fill_some (read? : JsonText → Option α) (a : α) (values : List JsonText) {filled : Option α} :
    fill read? (some a) values = some filled ↔ values = [] ∧ filled = some a := by
  cases values with
  | nil => simp [fill, eq_comm]
  | cons t values => simp [fill, slot]

theorem fill_none {read? : JsonText → Option α} {shows : JsonText → α → Prop}
    (each : ∀ t a, read? t = some a ↔ shows t a) {values : List JsonText} {filled : Option α} :
    fill read? none values = some filled ↔
      values = [] ∧ filled = none ∨ ∃ a, Given shows values a ∧ filled = some a := by
  cases values with
  | nil => simp [fill, Given, eq_comm]
  | cons t values =>
    have step : fill read? none (t :: values) = (read? t).bind fun a => fill read? (some a) values := by
      rw [fill, List.foldlM_cons, slot, if_neg (by simp)]
      cases read? t <;> rfl
    simp only [step, Option.bind_eq_some_iff, fill_some, Given, each]
    constructor
    · rintro ⟨a, shown, rfl, rfl⟩
      exact .inr ⟨a, ⟨t, rfl, shown⟩, rfl⟩
    · rintro (⟨impossible, _⟩ | ⟨a, ⟨t, same, shown⟩, rfl⟩)
      · contradiction
      · cases same
        exact ⟨a, shown, rfl, rfl⟩

theorem fill_given {read? : JsonText → Option α} {shows : JsonText → α → Prop}
    (each : ∀ t a, read? t = some a ↔ shows t a) {values : List JsonText} {a : α} :
    fill read? none values = some (some a) ↔ Given shows values a := by
  simp [fill_none each]

theorem fill_givenOr {read? : JsonText → Option α} {shows : JsonText → α → Prop}
    (each : ∀ t a, read? t = some a ↔ shows t a) {missing : α} {values : List JsonText} {a : α} :
    (∃ o, fill read? none values = some o ∧ o.getD missing = a) ↔ GivenOr missing shows values a := by
  simp only [fill_none each, GivenOr]
  constructor
  · rintro ⟨o, ⟨left, rfl⟩ | ⟨b, given, rfl⟩, rfl⟩
    · exact .inl ⟨left, rfl⟩
    · exact .inr given
  · rintro (⟨left, rfl⟩ | given)
    · exact ⟨none, .inl ⟨left, rfl⟩, rfl⟩
    · exact ⟨some a, .inr ⟨a, given, rfl⟩, rfl⟩

/-- What a member does to the field of one name. -/
def Turns (here : Prop) (read? : JsonText → Option α) (old : Option α) (t : JsonText) (new : Option α) :
    Prop :=
  here ∧ slot read? old t = some new ∨ ¬here ∧ new = old

theorem fill_valuesOf {read? : JsonText → Option α} {old filled : Option α} {name given : String}
    {m : Member JsonText} (named : m.name.text? = some given) {members : List (Member JsonText)} :
    fill read? old (valuesOf name (m :: members)) = some filled ↔
      ∃ new, Turns (given = name) read? old m.value.value new ∧
        fill read? new (valuesOf name members) = some filled := by
  simp only [valuesOf, List.filter_cons, named, Option.some.injEq, decide_eq_true_eq, Turns]
  by_cases here : given = name
  · simp [here, fill, Option.bind_eq_some_iff]
  · simp [here]

theorem takeMembers_cons_eq_some {σ : Type} {take : σ → String → JsonText → Option σ} {s s' : σ}
    {m : Member JsonText} {members : List (Member JsonText)} :
    takeMembers take s (m :: members) = some s' ↔
      ∃ name middle, m.name.text? = some name ∧ take s name m.value.value = some middle ∧
        takeMembers take middle members = some s' := by
  simp only [takeMembers, List.foldlM_cons, Option.bind_eq_bind, Option.bind_eq_some_iff]
  constructor
  · rintro ⟨middle, ⟨name, named, taken⟩, rest⟩
    exact ⟨name, middle, named, taken, rest⟩
  · rintro ⟨name, middle, named, taken, rest⟩
    exact ⟨middle, ⟨name, named, taken⟩, rest⟩

theorem named_cons {m : Member JsonText} {members : List (Member JsonText)} :
    Named (m :: members) ↔ (∃ name, m.name.text? = some name) ∧ Named members := by
  rw [Named, List.forall_mem_cons, Option.ne_none_iff_exists']
  rfl

end JsonText

namespace Reader

open JsonText FunctionRecord

variable {σ : Type}

theorem reads_nameSet (levels : Nat) (t : JsonText) : (readCalls (levels + 1)).Reads t.chars t.nameSet? :=
  fun gap left blank stops => (reads_sequence reads_string t gap left blank stops).map _

theorem reads_catalog {value : Nat → Reader α} {levels : Nat} {read? : JsonText → Option α}
    (reads : ∀ t : JsonText, (value levels).Reads t.chars (read? t)) (t : JsonText) :
    Reads (do return .ofList (← mapping (levels + 1) value)) t.chars (t.catalog? read?) :=
  fun gap left blank stops => (reads_mapping reads t gap left blank stops).map _

theorem reads_summary (levels : Nat) (t : JsonText) :
    (readSummary levels).Reads t.chars (t.summary? levels) := by
  intro gap left blank stops
  obtain ⟨c, first, here⟩ := takes_head t blank left
  have value := (reads_value t levels [] left blank_nil stops).map some
  refine here.then ?_
  split
  · rename_i same
    cases (kind_of_head first).2.2.2 (Option.some.inj same)
    exact (takes_skip _ _).bind (takes_wordFor ['u', 'l', 'l'] none left)
  · rename_i other
    cases t with
    | null => exact absurd first.symm (fun same => other same)
    | _ => exact value

/-- A field that is given for the first time. -/
theorem gives_fresh {r : Reader α} {read? : JsonText → Option α} {t : JsonText}
    (reads : r.Reads t.chars (read? t)) (old : Option α) (name : String) (set : Option α → σ)
    {behind ahead left : List Char} (blank : Blank behind) (between : Blank ahead) (stops : Stops left) :
    (fresh old name (fun a => set (some a)) r).Gives (behind ++ ':' :: (ahead ++ (t.chars ++ left))) left
      ((slot read? old t).map set) := by
  rw [fresh, slot]
  split
  · exact (refuses_reject _).fails _
  · rw [Option.map_map]
    exact (takes_colon blank _).then ((reads ahead left between stops).map _)

theorem gives_unknown (s : σ) (t : JsonText) {behind ahead left : List Char} (blank : Blank behind)
    (between : Blank ahead) (stops : Stops left) :
    Gives (do colon; passAny; return s) (behind ++ ':' :: (ahead ++ (t.chars ++ left))) left (some s) :=
  (takes_colon blank _).then ((reads_passAny t ahead left between stops).map fun _ => s)

theorem gives_required (name : String) (o : Option α) (ahead : List Char) :
    (required name o).Gives ahead ahead o := by
  cases o with
  | none => exact (refuses_reject _).fails ahead
  | some a => exact .pure a ahead

/-- What is left of a list. -/
def restOfList (gap : List Char) (first : Bool) (items : List (Spaced JsonText)) (close : Gap)
    (left : List Char) : List Char :=
  gap ++ (itemsChars first items ++ (close.chars ++ ']' :: left))

theorem takes_hasElement_cons {gap : List Char} (blank : Blank gap) (first : Bool) (item : Spaced JsonText)
    (items : List (Spaced JsonText)) (close : Gap) (left : List Char) :
    (hasElement first).Takes (restOfList gap first (item :: items) close left) true
      (item.value.chars ++ restOfList item.after.chars false items close left) := by
  obtain ⟨c, more, chars, solid⟩ := item.value.chars_solid
  rw [restOfList, itemsChars_cons, chars]
  exact takes_hasElement blank first item.before solid _

theorem takes_hasElement_nil {gap : List Char} (blank : Blank gap) (first : Bool) (close : Gap)
    (left : List Char) : (hasElement first).Takes (restOfList gap first [] close left) false
      (']' :: left) := by
  rw [restOfList, itemsChars, List.nil_append, ← List.append_assoc]
  exact takes_hasElement_end (blank.append close.blank) first left

theorem stops_restOfList (item : Spaced JsonText) (items : List (Spaced JsonText)) (close : Gap)
    (left : List Char) : Stops (restOfList item.after.chars false items close left) :=
  (stops_items items close left).gap item.after.blank

theorem gives_listed_cons {r : Reader α} {item : Spaced JsonText} {o : Option α}
    (reads : r.Reads item.value.chars o) (place : Nat) (expected : String) {gap : List Char}
    (blank : Blank gap) (items : List (Spaced JsonText)) (close : Gap) (left : List Char) :
    (listed place expected r).Gives (restOfList gap (place == 0) (item :: items) close left)
      (restOfList item.after.chars false items close left) o :=
  (takes_hasElement_cons blank _ item items close left).then
    (reads [] _ blank_nil (stops_restOfList item items close left))

theorem fails_listed_nil (r : Reader α) (place : Nat) (expected : String) {gap : List Char}
    (blank : Blank gap) (close : Gap) (left : List Char) :
    (listed place expected r).Fails (restOfList gap (place == 0) [] close left) :=
  (takes_hasElement_nil blank _ close left).bind_fails ((refuses_reject _).fails _)

/-- A list is closed where its items end, and nowhere else. -/
theorem takes_endOfList_nil {gap : List Char} (blank : Blank gap) (close : Gap) (left : List Char) :
    endOfList.Takes (restOfList gap false [] close left) () left := by
  rw [restOfList, itemsChars, List.nil_append, ← List.append_assoc]
  exact takes_endOfList (blank.append close.blank) left

theorem fails_endOfList_cons {gap : List Char} (blank : Blank gap) (item : Spaced JsonText)
    (items : List (Spaced JsonText)) (close : Gap) (left : List Char) :
    endOfList.Fails (restOfList gap false (item :: items) close left) := by
  rw [restOfList, itemsChars_cons]
  refine (takes_solid blank (by decide) _).bind_fails ?_
  refine Refuses.fails ?_ _
  refine .bind fun _ => .bind fun next => ?_
  split <;> exact refuses_failNext _

end Reader

end CodeAtlas
