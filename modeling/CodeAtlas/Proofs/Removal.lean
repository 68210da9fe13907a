import CodeAtlas.Proofs.Walking

namespace CodeAtlas

namespace Node

variable {name : Bytes} {new : Option Node} {entries : List (Bytes × Node)}

theorem mem_setIn {e : Bytes × Node} (member : e ∈ setIn name new entries) :
    e ∈ entries ∨ e.1 = name ∧ new = some e.2 := by
  have own {e : Bytes × Node} (member : e ∈ new.toList.map (name, ·)) :
      e.1 = name ∧ new = some e.2 := by
    obtain ⟨n, there, rfl⟩ := List.mem_map.mp member
    exact ⟨rfl, Option.mem_toList.mp there⟩
  induction entries with
  | nil => exact Or.inr (own member)
  | cons entry rest ih =>
    obtain ⟨other, n⟩ := entry
    rw [setIn] at member
    split at member
    · rcases List.mem_append.mp member with member | member
      · exact Or.inr (own member)
      · exact Or.inl (List.mem_cons_of_mem _ member)
    · rcases List.mem_cons.mp member with rfl | member
      · exact Or.inl List.mem_cons_self
      · exact (ih member).imp_left (List.mem_cons_of_mem _)

theorem names_setIn (distinct : (entries.map (·.1)).Nodup) :
    ((setIn name new entries).map (·.1)).Nodup := by
  induction entries with
  | nil => cases new <;> simp [setIn]
  | cons entry rest ih =>
    obtain ⟨other, n⟩ := entry
    obtain ⟨fresh, distinct⟩ := List.nodup_cons.mp distinct
    rw [setIn]
    split
    · rename_i same
      cases new with
      | none => exact distinct
      | some new => exact List.nodup_cons.mpr ⟨same ▸ fresh, distinct⟩
    · rename_i different
      refine List.nodup_cons.mpr ⟨fun member => ?_, ih distinct⟩
      obtain ⟨e, inside, atOther⟩ := List.mem_map.mp member
      rcases mem_setIn inside with old | ⟨atName, _⟩
      · exact fresh (List.mem_map.mpr ⟨e, old, atOther⟩)
      · exact different (atOther.symm.trans atName)

theorem child?_setIn (distinct : new = none → (entries.map (·.1)).Nodup) (other : Bytes) :
    (directory (setIn name new entries)).child? other =
      if other = name then new else (directory entries).child? other := by
  induction entries with
  | nil =>
    by_cases same : other = name
    · subst same
      cases new <;> simp [setIn, child?, Node.entries]
    · have flipped : ¬name = other := fun equal => same equal.symm
      cases new <;> simp [setIn, child?, Node.entries, same, flipped]
  | cons entry rest ih =>
    obtain ⟨first, n⟩ := entry
    have ih := ih fun taken => (List.nodup_cons.mp (distinct taken)).2
    simp only [child?, Node.entries] at ih ⊢
    rw [setIn]
    by_cases atFirst : first = name
    · subst atFirst
      rw [if_pos rfl]
      by_cases same : other = first
      · subst same
        cases new with
        | none =>
          have later : rest.find? (·.1 == other) = none := by
            rw [List.find?_eq_none]
            intro e member equal
            exact (List.nodup_cons.mp (distinct rfl)).1
              (List.mem_map.mpr ⟨e, member, by simpa using equal⟩)
          simp [later]
        | some new => simp
      · have flipped : ¬first = other := fun equal => same equal.symm
        cases new <;> simp [same, flipped]
    · rw [if_neg atFirst]
      by_cases same : other = first
      · subst same
        simp [atFirst]
      · have flipped : ¬first = other := fun equal => same equal.symm
        rw [List.find?_cons_of_neg (by simpa using flipped),
          List.find?_cons_of_neg (by simpa using flipped)]
        exact ih

theorem at?_setIn (distinct : (entries.map (·.1)).Nodup) (other : Bytes) (q : Place) :
    (directory (setIn name new entries)).at? (other :: q) =
      if other = name then new.bind (·.at? q) else (directory entries).at? (other :: q) := by
  rw [at?, child?_setIn fun _ => distinct]
  split <;> rfl

theorem distinct_setIn (distinct : (directory entries).Distinct)
    (own : ∀ n, new = some n → n.Distinct) : (directory (setIn name new entries)).Distinct := by
  have names : (entries.map (·.1)).Nodup := distinct.names
  refine .directory (names_setIn names) fun e member => ?_
  rcases mem_setIn member with old | ⟨_, atName⟩
  · exact distinct.entry old
  · exact own e.2 atName

/-- An entry exchanged for one that has lost a file, or left out where it is that file. -/
theorem agree_setIn (distinct : (entries.map (·.1)).Nodup) {n : Node}
    (there : (directory entries).child? name = some n) {q : Place}
    (lost : ∃ m, n.at? q = some m ∧ m.isFile = true) (nothing : new.bind (·.at? q) = none)
    (kept : ∀ p, p ≠ q → (n.at? p).map shape = (new.bind (·.at? p)).map shape) :
    AgreeBut (· = name :: q) (directory entries) (directory (setIn name new entries)) where
  kept p left := by
    cases p with
    | nil => rfl
    | cons other p =>
      rw [at?_setIn distinct]
      split
      · rename_i same
        subst same
        rw [at?, there]
        exact kept p fun equal => left (equal ▸ rfl)
      · rfl
  lost p isGone := by
    subst isGone
    rw [at?_setIn distinct, if_pos rfl, at?, there]
    exact ⟨lost, nothing⟩

/-- One file taken out. -/
theorem remove_agree {n m : Node} (distinct : n.Distinct) {q : Place} (below : q ≠ [])
    (there : n.at? q = some m) (isFile : m.isFile = true) :
    AgreeBut (· = q) n (n.alter none q) ∧ (n.alter none q).Distinct := by
  induction q generalizing n with
  | nil => contradiction
  | cons name q ih =>
    match n with
    | file _ | link _ | pipe | locked _ => contradiction
    | directory entries =>
      have names : (entries.map (·.1)).Nodup := distinct.names
      obtain ⟨child, atName, inside⟩ := Option.bind_eq_some_iff.mp there
      cases q with
      | nil =>
        cases inside
        refine ⟨agree_setIn names atName ⟨_, rfl, isFile⟩ rfl fun p left => ?_, distinct_setIn distinct ?_⟩
        · obtain ⟨other, p, rfl⟩ := List.exists_cons_of_ne_nil left
          rw [at?_below_leaf (isOpen_of_isFile isFile)]
          rfl
        · exact fun _ absurd => nomatch absurd
      | cons next q =>
        obtain ⟨agree, after⟩ := ih (distinct.child atName) (List.cons_ne_nil next q) inside
        have step : (directory entries).alter none (name :: next :: q) =
            directory (setIn name (some (child.alter none (next :: q))) entries) := by
          rw [alter, atName]
          exact fun nothing => nomatch nothing
        rw [step]
        refine ⟨agree_setIn names atName ⟨m, inside, isFile⟩ (agree.lost _ rfl).2 agree.kept, ?_⟩
        exact distinct_setIn distinct fun n own => Option.some.inj own ▸ after

/-- What agrees but for some files with what agrees but for others agrees but for both. -/
theorem AgreeBut.trans {gone gone' : Place → Prop} {n n₁ n₂ : Node} (first : AgreeBut gone n n₁)
    (second : AgreeBut gone' n₁ n₂) : AgreeBut (fun q => gone q ∨ gone' q) n n₂ where
  kept q left := by
    rw [not_or] at left
    exact (first.kept q left.1).trans (second.kept q left.2)
  lost q isGone := by
    by_cases already : gone q
    · obtain ⟨there, nothing⟩ := first.lost q already
      refine ⟨there, ?_⟩
      by_cases twice : gone' q
      · exact (second.lost q twice).2
      · exact second.at_none twice nothing
    · obtain ⟨⟨file, found, isFile⟩, nothing⟩ := second.lost q (isGone.resolve_left already)
      have same := first.kept q already
      rw [found] at same
      obtain ⟨m, there, shape⟩ := Option.map_eq_some_iff.mp same
      have unchanged := eq_of_shape shape.symm (isOpen_of_isFile isFile)
      exact ⟨⟨file, there.trans (congrArg some unchanged.symm), isFile⟩, nothing⟩

/-- Files taken out one after another. -/
theorem removeAll_agree {n : Node} (distinct : n.Distinct) {places : List Place}
    (once : places.Nodup)
    (files : ∀ q ∈ places, q ≠ [] ∧ ∃ m, n.at? q = some m ∧ m.isFile = true) :
    let left := places.foldl (fun n q => n.alter none q) n
    AgreeBut (· ∈ places) n left ∧ left.Distinct := by
  induction places generalizing n with
  | nil => exact ⟨⟨fun _ _ => rfl, fun _ member => nomatch member⟩, distinct⟩
  | cons q places ih =>
    obtain ⟨fresh, once⟩ := List.nodup_cons.mp once
    obtain ⟨below, m, there, isFile⟩ := files q List.mem_cons_self
    obtain ⟨first, stays⟩ := remove_agree distinct below there isFile
    have rest : ∀ p ∈ places, p ≠ [] ∧ ∃ m, (n.alter none q).at? p = some m ∧ m.isFile = true := by
      intro p member
      obtain ⟨below, m, there, isFile⟩ := files p (List.mem_cons_of_mem q member)
      have other : ¬p = q := fun same => fresh (same ▸ member)
      exact ⟨below, m, first.at_leaf other there (isOpen_of_isFile isFile), isFile⟩
    obtain ⟨second, after⟩ := ih stays once rest
    simpa [List.mem_cons] using And.intro (first.trans second) after

end Node

namespace FileSystem

/-- The file system without what is at some places. -/
def without (fs : FileSystem) (places : List Place) : FileSystem :=
  { fs with root := places.foldl (fun n q => n.alter none q) fs.root }

end FileSystem

end CodeAtlas
