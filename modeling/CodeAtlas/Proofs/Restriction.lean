import CodeAtlas.Proofs.ExtensionIndex

namespace CodeAtlas

theorem Text.eqIgnoringCase_iff {a b : String} :
    eqIgnoringCase a b = true ↔ lowerAscii a = lowerAscii b := by
  rw [← lowerAscii_beq, beq_iff_eq]

namespace Registry

/-- Whether some entry has the id, whatever the case of its letters. -/
def knows (r : Registry) (id : String) : Bool :=
  r.entries.any fun e => Text.eqIgnoringCase e.id id

theorem get_unknown {r : Registry} {id : String} (unknown : r.knows id = false) :
    r.get id = .error (.unknownLanguage id) := by
  have absent : r.entries.find? (fun e => Text.eqIgnoringCase e.id id) = none :=
    List.find?_eq_none.mpr (by simpa [knows] using unknown)
  rw [get, absent]

theorem get_known {r : Registry} {id : String} (known : r.knows id = true) :
    ∃ e, r.get id = .ok e := by
  obtain ⟨e, found⟩ := Option.isSome_iff_exists.mp (List.isSome_find?.trans known)
  exact ⟨e, by rw [get, found]⟩

theorem get_eq_ok {r : Registry} {id : String} {e : LanguageEntry} (got : r.get id = .ok e) :
    e ∈ r.entries ∧ Text.lowerAscii e.id = Text.lowerAscii id := by
  unfold get at got
  split at got
  · rename_i found
    cases got
    have same := List.find?_some (p := fun e : LanguageEntry => Text.eqIgnoringCase e.id id) found
    exact ⟨List.mem_of_find?_eq_some found, Text.eqIgnoringCase_iff.mp same⟩
  · contradiction

theorem mapM_get_unknown {r : Registry} {ids : List String} {id : String}
    (first : ids.find? (!r.knows ·) = some id) :
    ids.mapM r.get = .error (.unknownLanguage id) := by
  induction ids with
  | nil => contradiction
  | cons head rest ih =>
    rw [List.mapM_cons]
    cases known : r.knows head with
    | false =>
      rw [List.find?_cons_of_pos (by simp [known])] at first
      cases first
      rw [get_unknown known]
      rfl
    | true =>
      rw [List.find?_cons_of_neg (by simp [known])] at first
      obtain ⟨e, got⟩ := get_known known
      rw [got, ih first]
      rfl

theorem mapM_get_known {r : Registry} {ids : List String} (known : ∀ id ∈ ids, r.knows id = true) :
    ∃ entries, ids.mapM r.get = .ok entries ∧
      List.Forall₂ (fun id e => r.get id = .ok e) ids entries := by
  induction ids with
  | nil => exact ⟨[], rfl, .nil⟩
  | cons id rest ih =>
    obtain ⟨e, got⟩ := get_known (known id List.mem_cons_self)
    obtain ⟨entries, all, each⟩ := ih fun other member => known other (List.mem_cons_of_mem _ member)
    refine ⟨e :: entries, ?_, .cons got each⟩
    rw [List.mapM_cons, got, all]
    rfl

theorem restrict_unknown {r : Registry} {ids : List String} {id : String}
    (first : ids.find? (!r.knows ·) = some id) :
    r.restrict ids = .error (.unknownLanguage id) := by
  rw [restrict, mapM_get_unknown first]
  rfl

theorem restrict_known {r : Registry} {ids : List String}
    (known : ∀ id ∈ ids, r.knows id = true) :
    ∃ s, r.restrict ids = .ok s ∧ List.Forall₂ (fun id e => r.get id = .ok e) ids s.entries := by
  obtain ⟨entries, all, each⟩ := mapM_get_known known
  refine ⟨⟨entries⟩, ?_, each⟩
  rw [restrict, all]
  rfl

theorem builtin_binds : ∀ e ∈ builtin.entries, e.binds = true := by
  simp only [builtin, List.forall_mem_cons, List.not_mem_nil, false_implies, implies_true, and_true]
  exact ⟨rfl, rfl, rfl, rfl, rfl, rfl⟩

theorem builtin_lower : ∀ e ∈ builtin.entries, Text.lowerAscii e.id = e.id := by
  decide

/-- Built-in ids are spelled in lower case, so that an id is known if its lower-case spelling is one
of them. -/
theorem builtin_knows (id : String) :
    builtin.knows id = decide (Text.lowerAscii id ∈ builtin.ids) := by
  rw [Bool.eq_iff_iff, decide_eq_true_iff, knows, List.any_eq_true, ids, List.mem_map]
  refine exists_congr fun e => and_congr_right fun member => ?_
  rw [Text.eqIgnoringCase_iff, builtin_lower e member]

/-- The entries of known ids are spelled as the ids are in lower case. -/
theorem builtin_ids_of_get {ids : List String} {entries : List LanguageEntry}
    (each : List.Forall₂ (fun id e => builtin.get id = .ok e) ids entries) :
    entries.map (·.id) = ids.map Text.lowerAscii ∧ ∀ e ∈ entries, e ∈ builtin.entries := by
  induction each with
  | nil => exact ⟨rfl, fun _ member => absurd member List.not_mem_nil⟩
  | cons got _ ih =>
    obtain ⟨member, same⟩ := get_eq_ok got
    rw [builtin_lower _ member] at same
    refine ⟨?_, List.forall_mem_cons.mpr ⟨member, ih.2⟩⟩
    rw [List.map_cons, List.map_cons, same, ih.1]

/-- Whether an id is among those of a list, whatever the case of its letters. -/
def lists (ids : List String) (id : String) : Bool :=
  ids.any (Text.eqIgnoringCase · id)

theorem lists_cons (head : String) (ids : List String) (id : String) :
    lists (head :: ids) id = (Text.eqIgnoringCase head id || lists ids id) :=
  List.any_cons

theorem sameId_congr {a b : String} (same : Text.lowerAscii a = Text.lowerAscii b) (id : String) :
    Text.eqIgnoringCase id a = Text.eqIgnoringCase id b := by
  rw [Bool.eq_iff_iff, Text.eqIgnoringCase_iff, Text.eqIgnoringCase_iff, same]

theorem knows_congr (r : Registry) {a b : String} (same : Text.lowerAscii a = Text.lowerAscii b) :
    r.knows a = r.knows b := by
  simp only [knows, sameId_congr same]

theorem get_congr {r : Registry} {a b : String} {e : LanguageEntry}
    (same : Text.lowerAscii a = Text.lowerAscii b) (got : r.get a = .ok e) : r.get b = .ok e := by
  simp only [get, sameId_congr same] at got ⊢
  split at got
  · exact got
  · contradiction

theorem get_cons (e : LanguageEntry) (entries : List LanguageEntry) (id : String) :
    get ⟨e :: entries⟩ id = if Text.eqIgnoringCase e.id id then .ok e else get ⟨entries⟩ id := by
  rw [get, List.find?_cons]
  cases Text.eqIgnoringCase e.id id <;> rfl

/-- Of the entries that ids give, the first with an id is the one the whole registry has for it, since
the id of an entry differs in case at most from the one it is given for. -/
theorem get_of_each {r : Registry} {ids : List String} {entries : List LanguageEntry}
    (each : List.Forall₂ (fun id e => r.get id = .ok e) ids entries) (id : String) :
    get ⟨entries⟩ id = if lists ids id then r.get id else .error (.unknownLanguage id) := by
  induction each with
  | nil => rfl
  | @cons head e ids entries got _ ih =>
    have own : Text.eqIgnoringCase e.id id = Text.eqIgnoringCase head id := by
      rw [Bool.eq_iff_iff, Text.eqIgnoringCase_iff, Text.eqIgnoringCase_iff, (get_eq_ok got).2]
    rw [get_cons, lists_cons, own, ih]
    cases matching : Text.eqIgnoringCase head id with
    | true => exact (get_congr (Text.eqIgnoringCase_iff.mp matching) got).symm
    | false => rfl

theorem entries_of_each {r : Registry} {ids : List String} {entries : List LanguageEntry}
    (each : List.Forall₂ (fun id e => r.get id = .ok e) ids entries) :
    entries.map .ok = ids.map r.get := by
  have pointwise : List.Forall₂ (· = ·) (ids.map r.get) (entries.map .ok) :=
    List.forall₂_map_left_iff.mpr (List.forall₂_map_right_iff.mpr each)
  rw [List.forall₂_eq_eq_eq] at pointwise
  exact pointwise.symm

theorem knows_of_lists {r : Registry} {ids : List String} (known : ∀ id ∈ ids, r.knows id = true)
    {id : String} (listed : lists ids id = true) : r.knows id = true := by
  obtain ⟨other, member, same⟩ := List.any_eq_true.mp listed
  rw [← r.knows_congr (Text.eqIgnoringCase_iff.mp same)]
  exact known other member

theorem mapM_get_congr {r s : Registry} {ids : List String} (same : ∀ id ∈ ids, s.get id = r.get id) :
    ids.mapM s.get = ids.mapM r.get := by
  induction ids with
  | nil => rfl
  | cons id ids ih =>
    obtain ⟨here, rest⟩ := List.forall_mem_cons.mp same
    rw [List.mapM_cons, List.mapM_cons, here, ih rest]

/-- A restriction fails for the first id that is unknown, and in no other case. Where it does not fail
it has the entry of each id, in the order of the ids, and for ids it answers like the whole registry
as long as they are among its own, so that restricting it further is restricting the whole. -/
theorem restriction_selects (r : Registry) (ids : List String) :
    match ids.find? (!r.knows ·) with
    | some id => r.restrict ids = .error (.unknownLanguage id)
    | none => ∃ s, r.restrict ids = .ok s ∧
      s.entries.length = ids.length ∧ s.entries.map .ok = ids.map r.get ∧
      (∀ id, s.get id = if lists ids id then r.get id else .error (.unknownLanguage id)) ∧
      ∀ others, (∀ id ∈ others, lists ids id = true) →
        ∃ t, s.restrict others = .ok t ∧ r.restrict others = .ok t := by
  split
  · rename_i id first
    exact restrict_unknown first
  · rename_i none
    have known : ∀ id ∈ ids, r.knows id = true := by simpa using none
    obtain ⟨s, restricted, each⟩ := restrict_known known
    have lookups := get_of_each each
    refine ⟨s, restricted, each.length_eq.symm, entries_of_each each, lookups, fun others listed => ?_⟩
    obtain ⟨t, whole, -⟩ := restrict_known fun id member => knows_of_lists known (listed id member)
    have same : others.mapM s.get = others.mapM r.get :=
      mapM_get_congr fun id member => by rw [lookups, listed id member, if_pos rfl]
    refine ⟨t, ?_, whole⟩
    rw [← whole, restrict, restrict, same]

/-- The built-in table behind another entry for Python, which takes the id from it. -/
def overridden : Registry where
  entries := ⟨"Python", ["pyw"], ["function_definition"], "name", "call", "function", .python⟩ :: builtin.entries

theorem restriction_selects_with_override :
    overridden.restrict ["rust", "Cobol", "c"] = .error (.unknownLanguage "Cobol") ∧
      ∃ s t, overridden.restrict ["rust", "python", "RUST"] = .ok s ∧ s.ids = ["rust", "Python", "rust"] ∧
        s.get "PYTHON" = overridden.get "PYTHON" ∧ s.get "java" = .error (.unknownLanguage "java") ∧
        s.restrict ["PYTHON", "Rust"] = .ok t ∧ overridden.restrict ["PYTHON", "Rust"] = .ok t := by
  have first : ["rust", "Cobol", "c"].find? (!overridden.knows ·) = some "Cobol" := by decide
  have none : ["rust", "python", "RUST"].find? (!overridden.knows ·) = none := by decide
  have refused := restriction_selects overridden ["rust", "Cobol", "c"]
  have selected := restriction_selects overridden ["rust", "python", "RUST"]
  rw [first] at refused
  rw [none] at selected
  obtain ⟨s, restricted, -, entries, lookups, again⟩ := selected
  obtain ⟨t, inner, whole⟩ := again ["PYTHON", "Rust"] (by decide)
  refine ⟨refused, s, t, restricted, ?_, lookups "PYTHON", lookups "java", inner, whole⟩
  have ids := congrArg (List.filterMap fun got => got.toOption.map (·.id)) entries
  rw [List.filterMap_map] at ids
  calc
    s.ids = s.entries.filterMap fun e => some e.id := by simp [Registry.ids]
    _ = ["rust", "Python", "rust"] := ids

end Registry

end CodeAtlas
