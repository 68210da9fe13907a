import CodeAtlas.Proofs.Merging

namespace CodeAtlas

/-- A path that can be read off a key: the separator is not in it and does not begin at its end. -/
def PlainPath (path : String) : Prop :=
  ¬[':', ':'] <:+: path.toList ∧ ¬[':'] <:+ path.toList

instance (path : String) : Decidable (PlainPath path) :=
  inferInstanceAs (Decidable (¬_ ∧ ¬_))

/-- The longer of two paths before a separator would hold the separator, or end in its half. -/
theorem separator_in_longer {p more s t : List Char}
    (same : ':' :: ':' :: s = more ++ ':' :: ':' :: t) (noSeparator : ¬[':', ':'] <:+: p ++ more)
    (noHalf : ¬[':'] <:+ p ++ more) : more = [] := by
  match more with
  | [] => rfl
  | [c] =>
    obtain ⟨rfl, _⟩ := List.cons.inj same
    exact absurd (List.suffix_append p [':']) noHalf
  | c :: d :: rest =>
    obtain ⟨rfl, tail⟩ := List.cons.inj same
    obtain ⟨rfl, _⟩ := List.cons.inj tail
    exact absurd ⟨p, rest, by simp⟩ noSeparator

theorem PlainPath.eq_of_key {p q s t : String} (hp : PlainPath p) (hq : PlainPath q)
    (same : p ++ "::" ++ s = q ++ "::" ++ t) : p = q := by
  have mark : "::".toList = [':', ':'] := by decide
  have lists := congrArg String.toList same
  simp only [String.toList_append, mark, List.append_assoc, List.cons_append, List.nil_append]
    at lists
  rcases List.append_eq_append_iff.mp lists with ⟨more, longer, rest⟩ | ⟨more, longer, rest⟩
  · have none := separator_in_longer rest (longer ▸ hq.1) (longer ▸ hq.2)
    rw [none, List.append_nil] at longer
    exact (String.toList_inj.mp longer).symm
  · have none := separator_in_longer rest (longer ▸ hp.1) (longer ▸ hp.2)
    rw [none, List.append_nil] at longer
    exact String.toList_inj.mp longer

/-- All keys of a file begin with its path and the separator. -/
theorem Graph.candidate_begins (path name : String) (n : Nat) :
    ∃ rest, candidate (baseKey path name) n = path ++ "::" ++ rest := by
  unfold candidate
  split
  · exact ⟨name, rfl⟩
  · exact ⟨name ++ "_" ++ Nat.repr n, by simp only [baseKey, String.append_assoc]⟩

/-- Every key begins with the path of its record, from which it can be told. -/
def Graph.Separated (g : Graph) : Prop :=
  ∀ key r, (key, r) ∈ g.functions.entries →
    PlainPath r.filePath ∧ ∃ rest, key = r.filePath ++ "::" ++ rest

theorem Graph.Separated.insertOne {g : Graph} (separated : g.Separated) {i : Insertion}
    (plain : PlainPath i.1) : (g.insertOne i).Separated := by
  intro key r member
  rcases mem_insertOne.mp member with new | old
  · cases new
    exact ⟨plain, candidate_begins _ _ _⟩
  · exact separated key r old

/-- The entries of a file. -/
def Graph.entriesOf (g : Graph) (path : String) : List (String × FunctionRecord) :=
  g.functions.entries.filter (·.2.filePath == path)

/-- Two graphs with the same entries of a file. -/
def Graph.AgreeOn (path : String) (g h : Graph) : Prop :=
  ∀ key r, r.filePath = path → ((key, r) ∈ g.functions.entries ↔ (key, r) ∈ h.functions.entries)

theorem Graph.AgreeOn.entriesOf {path : String} {g h : Graph} (agree : AgreeOn path g h) :
    g.entriesOf path = h.entriesOf path := by
  refine ascending_ext (g.functions.ascending.filter _) (h.functions.ascending.filter _) ?_
  rintro ⟨key, r⟩
  simp only [Graph.entriesOf, List.mem_filter, beq_iff_eq]
  constructor
  · rintro ⟨member, own⟩
    exact ⟨(agree key r own).mp member, own⟩
  · rintro ⟨member, own⟩
    exact ⟨(agree key r own).mpr member, own⟩

theorem Graph.AgreeOn.symm {path : String} {g h : Graph} (agree : AgreeOn path g h) :
    AgreeOn path h g :=
  fun key r own => (agree key r own).symm

/-- Graphs that agree on a file have taken the same of its numbered keys. -/
theorem Graph.AgreeOn.taken {path name : String} {g h : Graph} (agree : AgreeOn path g h)
    (separated : g.Separated) (plain : PlainPath path) {n : Nat}
    (taken : g.functions.has (candidate (baseKey path name) n) = true) :
    h.functions.has (candidate (baseKey path name) n) = true := by
  obtain ⟨r, member⟩ := Catalog.has_iff_mem.mp taken
  obtain ⟨plainOther, rest, atKey⟩ := separated _ r member
  obtain ⟨own, begins⟩ := candidate_begins path name n
  have samePath : r.filePath = path := plainOther.eq_of_key plain (atKey.symm.trans begins)
  exact Catalog.has_iff_mem.mpr ⟨r, (agree _ r samePath).mp member⟩

theorem Graph.AgreeOn.assignKey {path name : String} {g h : Graph} (agree : AgreeOn path g h)
    (hg : g.Separated) (hh : h.Separated) (plain : PlainPath path) :
    g.assignKey (baseKey path name) = h.assignKey (baseKey path name) := by
  have free : g.functions.has
      (candidate (baseKey path name) (h.nextNumber (baseKey path name))) = false := by
    by_contra taken
    have there := agree.taken hg plain (Bool.not_eq_false _ ▸ taken)
    simp [h.nextNumber_free] at there
  have number := nextNumber_unique (h.nextNumber_pos _) free
    fun m lower upper => agree.symm.taken hh plain (taken_below_nextNumber lower upper)
  rw [assignKey_eq, assignKey_eq, number]

/-- A function of another file leaves the entries of a file as they are. -/
theorem Graph.AgreeOn.insert_other {path : String} {g h : Graph} (agree : AgreeOn path g h)
    {i : Insertion} (other : i.1 ≠ path) : AgreeOn path (g.insertOne i) h := by
  intro key r own
  rw [mem_insertOne, ← agree key r own]
  constructor
  · rintro (new | old)
    · cases new
      exact absurd own other
    · exact old
  · exact Or.inr

/-- A function of the file itself gets the same key in both graphs. -/
theorem Graph.AgreeOn.insert_own {path : String} {g h : Graph} (agree : AgreeOn path g h)
    (hg : g.Separated) (hh : h.Separated) {i : Insertion} (own : i.1 = path)
    (plain : PlainPath path) : AgreeOn path (g.insertOne i) (h.insertOne i) := by
  subst own
  have key : g.assignKey i.record.base = h.assignKey i.record.base :=
    agree.assignKey hg hh plain
  -- With one key for both, the entries are told apart only by those that were there.
  intro k r samePath
  rw [mem_insertOne, mem_insertOne, key, agree k r samePath]

/-- A run of insertions comes, for one file, to the run of that file's own insertions. -/
theorem Graph.AgreeOn.insertAll {path : String} {g h : Graph} (agree : AgreeOn path g h)
    (hg : g.Separated) (hh : h.Separated) {run : List Insertion}
    (plain : ∀ i ∈ run, PlainPath i.1) :
    AgreeOn path (g.insertAll run) (h.insertAll (run.filter (·.1 == path))) := by
  -- The second graph moves only when the file's turn comes, so both graphs vary.
  induction run generalizing g h with
  | nil => exact agree
  | cons i run ih =>
    have here := plain i List.mem_cons_self
    have later : ∀ j ∈ run, PlainPath j.1 :=
      fun j member => plain j (List.mem_cons_of_mem _ member)
    by_cases own : i.1 = path
    · rw [List.filter_cons_of_pos (by simpa using own)]
      have next := agree.insert_own hg hh own (own ▸ here)
      exact ih next (hg.insertOne here) (hh.insertOne here) later
    · rw [List.filter_cons_of_neg (by simpa using own)]
      exact ih (agree.insert_other own) (hg.insertOne here) hh later

theorem Graph.separated_of_empty {g : Graph} (empty : g.functions = .empty) : g.Separated := by
  intro key r member
  rw [empty] at member
  exact absurd member List.not_mem_nil

/-- Runs that insert the same of a file, in the same order, end with the same entries of it. -/
theorem Graph.agreeOn_of_same_filter {path : String} {g h : Graph} (hg : g.functions = .empty)
    (hh : h.functions = .empty) {a b : List Insertion} (ha : ∀ i ∈ a, PlainPath i.1)
    (hb : ∀ i ∈ b, PlainPath i.1) (same : a.filter (·.1 == path) = b.filter (·.1 == path)) :
    AgreeOn path (g.insertAll a) (h.insertAll b) := by
  have start (g h : Graph) (hg : g.functions = .empty) (hh : h.functions = .empty) :
      AgreeOn path g h := by
    intro key r _
    rw [hg, hh]
  have left := (start g h hg hh).insertAll (separated_of_empty hg) (separated_of_empty hh) ha
  have right := (start h h hh hh).insertAll (separated_of_empty hh) (separated_of_empty hh) hb
  rw [same] at left
  intro key r own
  rw [left key r own, right key r own]

/-- What was extracted from a file, by the outcomes of a build. -/
def extractionOf? (outcomes : List FileOutcome) (path : String) : Option Extraction :=
  (outcomes.find? (·.relative == path)).bind (·.extraction?)

theorem extractionOf?_eq_some {outcomes : List FileOutcome} {path : String} {x : Extraction}
    (distinct : (outcomes.map (·.relative)).Nodup) :
    extractionOf? outcomes path = some x ↔
      ∃ o ∈ outcomes, o.relative = path ∧ o.extraction? = some x := by
  constructor
  · intro found
    obtain ⟨o, first, extracted⟩ := Option.bind_eq_some_iff.mp found
    have atPath : o.relative = path := by simpa using List.find?_some first
    exact ⟨o, List.mem_of_find?_eq_some first, atPath, extracted⟩
  · rintro ⟨o, member, atPath, extracted⟩
    have there : (outcomes.find? (·.relative == path)).isSome = true :=
      List.find?_isSome.mpr ⟨o, member, by simpa using atPath⟩
    obtain ⟨first, found⟩ := Option.isSome_iff_exists.mp there
    have atFirst : first.relative = path := by simpa using List.find?_some found
    have same : first = o := List.inj_on_of_nodup_map distinct
      (List.mem_of_find?_eq_some found) member (atFirst.trans atPath.symm)
    rw [extractionOf?, found, same]
    exact extracted

theorem extractionOf?_perm {a b : List FileOutcome} (perm : a.Perm b)
    (distinct : (a.map (·.relative)).Nodup) (path : String) :
    extractionOf? a path = extractionOf? b path := by
  have distinct' : (b.map (·.relative)).Nodup := (perm.map _).nodup_iff.mp distinct
  ext x
  rw [extractionOf?_eq_some distinct, extractionOf?_eq_some distinct']
  simp only [perm.mem_iff]

theorem FileOutcome.insertions_of_extraction (o : FileOutcome) :
    o.insertions = (o.extraction?.elim [] (·.functions)).map (o.relative, ·) := by
  obtain ⟨relative, result, elapsed⟩ := o
  cases result <;> rfl

theorem filter_insertions_of_absent {outcomes : List FileOutcome} {path : String}
    (absent : ∀ o ∈ outcomes, o.relative ≠ path) :
    (outcomes.flatMap (·.insertions)).filter (·.1 == path) = [] := by
  rw [List.filter_eq_nil_iff]
  intro i member
  obtain ⟨o, among, own⟩ := List.mem_flatMap.mp member
  have different := absent o among
  rw [← FileOutcome.path_of_insertion own] at different
  simpa using different

/-- Of the insertions of a merge, those of a file are its own functions in their order. -/
theorem filter_insertions {outcomes : List FileOutcome} (path : String)
    (distinct : (outcomes.map (·.relative)).Nodup) :
    (outcomes.flatMap (·.insertions)).filter (·.1 == path) =
      ((extractionOf? outcomes path).elim [] (·.functions)).map (path, ·) := by
  induction outcomes with
  | nil => rfl
  | cons o rest ih =>
    obtain ⟨unlike, restDistinct⟩ := List.nodup_cons.mp distinct
    rw [List.flatMap_cons, List.filter_append]
    by_cases own : o.relative = path
    · have whole : o.insertions.filter (·.1 == path) = o.insertions :=
        List.filter_eq_self.mpr fun i member => by simpa [FileOutcome.path_of_insertion member] using own
      have others : ∀ other ∈ rest, other.relative ≠ path := by
        intro other member same
        exact unlike (List.mem_map.mpr ⟨other, member, same.trans own.symm⟩)
      have found : extractionOf? (o :: rest) path = o.extraction? := by
        simp [extractionOf?, own]
      rw [whole, filter_insertions_of_absent others, found, List.append_nil,
        o.insertions_of_extraction, own]
    · have nothing : o.insertions.filter (·.1 == path) = [] :=
        List.filter_eq_nil_iff.mpr fun i member => by simpa [FileOutcome.path_of_insertion member] using own
      have passed : extractionOf? (o :: rest) path = extractionOf? rest path := by
        simp [extractionOf?, own]
      rw [nothing, List.nil_append, ih restDistinct, passed]

/-- Merges that have the same extraction of a file agree on it. -/
theorem Builder.merge_agreeOn {b₁ b₂ : Builder} {l₁ l₂ : Listing} {url₁ url₂ : String}
    {outcomes₁ outcomes₂ : List FileOutcome} (distinct₁ : (outcomes₁.map (·.relative)).Nodup)
    (distinct₂ : (outcomes₂.map (·.relative)).Nodup)
    (plain₁ : ∀ o ∈ outcomes₁, PlainPath o.relative)
    (plain₂ : ∀ o ∈ outcomes₂, PlainPath o.relative) {path : String}
    (same : extractionOf? outcomes₁ path = extractionOf? outcomes₂ path) :
    Graph.AgreeOn path (b₁.merge l₁ url₁ outcomes₁).value.1
      (b₂.merge l₂ url₂ outcomes₂).value.1 := by
  have plain {outcomes : List FileOutcome} (plain : ∀ o ∈ outcomes, PlainPath o.relative) :
      ∀ i ∈ outcomes.flatMap (·.insertions), PlainPath i.1 := by
    intro i member
    obtain ⟨o, among, own⟩ := List.mem_flatMap.mp member
    exact FileOutcome.path_of_insertion own ▸ plain o among
  rw [merge_value, merge_value]
  refine Graph.agreeOn_of_same_filter (Graph.ofListing_functions _ _)
    (Graph.ofListing_functions _ _) (plain plain₁) (plain plain₂) ?_
  rw [filter_insertions path distinct₁, filter_insertions path distinct₂, same]

/-- The keys and records of a file in a graph depend on the file's own extraction alone, whatever
else is merged and in which order; so the functions of a graph do not depend on the order of the
merge. -/
theorem Builder.keys_local_to_file (b₁ b₂ : Builder) (l₁ l₂ : Listing) (url₁ url₂ : String)
    (outcomes₁ outcomes₂ : List FileOutcome) (distinct₁ : (outcomes₁.map (·.relative)).Nodup)
    (distinct₂ : (outcomes₂.map (·.relative)).Nodup)
    (plain₁ : ∀ o ∈ outcomes₁, PlainPath o.relative)
    (plain₂ : ∀ o ∈ outcomes₂, PlainPath o.relative) :
    let g₁ := (b₁.merge l₁ url₁ outcomes₁).value.1
    let g₂ := (b₂.merge l₂ url₂ outcomes₂).value.1
    (∀ path, extractionOf? outcomes₁ path = extractionOf? outcomes₂ path →
      g₁.entriesOf path = g₂.entriesOf path) ∧
    (outcomes₁.Perm outcomes₂ → g₁.functions = g₂.functions) := by
  intro g₁ g₂
  have agree {path : String} (same : extractionOf? outcomes₁ path = extractionOf? outcomes₂ path) :
      Graph.AgreeOn path g₁ g₂ :=
    merge_agreeOn distinct₁ distinct₂ plain₁ plain₂ same
  refine ⟨fun path same => (agree same).entriesOf, fun perm => ?_⟩
  refine Catalog.ext_of_mem ?_
  rintro ⟨key, r⟩
  exact agree (extractionOf?_perm perm distinct₁ r.filePath) key r rfl

/-- One path begins another, and a name holds the separator. -/
theorem Builder.keys_local_to_file_after_swap :
    let f : ExtractedFunction := ⟨"f", "def f(): pass", .empty⟩
    let x : Extraction := { functions := [f, { f with name := "f_2" }, f] }
    let y : Extraction := { functions := [{ f with name := "a::f" }, { f with name := "::f_2" }] }
    let outcomes : List FileOutcome := [⟨"a", .ok x, 1⟩, ⟨"a.py", .ok y, 1⟩]
    let swapped := outcomes.reverse
    let b : Builder := ⟨{}, {}⟩
    let g₁ := (b.merge {} "repo" outcomes).value.1
    let g₂ := (b.merge {} "repo" swapped).value.1
    (outcomes.map (·.relative)).Nodup ∧ (swapped.map (·.relative)).Nodup ∧
      (∀ o ∈ outcomes, PlainPath o.relative) ∧ (∀ o ∈ swapped, PlainPath o.relative) ∧
      extractionOf? outcomes "a" = extractionOf? swapped "a" ∧
      g₁.entriesOf "a" = g₂.entriesOf "a" ∧ outcomes.Perm swapped ∧ g₁.functions = g₂.functions := by
  intro f x y outcomes swapped b g₁ g₂
  have distinct₁ : (outcomes.map (·.relative)).Nodup := by decide
  have distinct₂ : (swapped.map (·.relative)).Nodup := by decide
  have plain₁ : ∀ o ∈ outcomes, PlainPath o.relative := by decide
  have plain₂ : ∀ o ∈ swapped, PlainPath o.relative := by decide
  have same : extractionOf? outcomes "a" = extractionOf? swapped "a" := by decide
  have perm : outcomes.Perm swapped := (List.reverse_perm outcomes).symm
  obtain ⟨entries, functions⟩ := keys_local_to_file b b {} {} "repo" "repo" outcomes swapped
    distinct₁ distinct₂ plain₁ plain₂
  exact ⟨distinct₁, distinct₂, plain₁, plain₂, same, entries "a" same, perm, functions perm⟩

end CodeAtlas
