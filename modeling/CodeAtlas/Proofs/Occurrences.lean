import CodeAtlas.Proofs.Insertion

namespace CodeAtlas

theorem underscore_notMem_repr (n : Nat) : '_' ∉ (Nat.repr n).toList := by
  rw [Nat.toList_repr]
  intro member
  have digit := Nat.isDigit_of_mem_toDigits (by decide : 0 < 10) (by decide) member
  contradiction

/-- The longer of two texts before a mark would put the mark behind itself. -/
theorem mark_in_longer {mark : Char} {more s t : List Char} (same : mark :: s = more ++ mark :: t)
    (noMark : mark ∉ s) : more = [] := by
  match more with
  | [] => rfl
  | c :: rest =>
    obtain ⟨rfl, tail⟩ := List.cons.inj same
    exact absurd (tail ▸ List.mem_append_right rest List.mem_cons_self) noMark

/-- What stands before the last underscore of a numbered key is its base. -/
theorem Graph.base_of_suffixed {a b : String} {m n : Nat}
    (same : a ++ "_" ++ Nat.repr m = b ++ "_" ++ Nat.repr n) : a = b := by
  have mark : "_".toList = ['_'] := by decide
  have lists := congrArg String.toList same
  simp only [String.toList_append, mark, List.append_assoc, List.singleton_append] at lists
  -- If one base were longer, its underscore would stand among the digits of the other number.
  rcases List.append_eq_append_iff.mp lists with ⟨more, longer, rest⟩ | ⟨more, longer, rest⟩
  · rw [mark_in_longer rest (underscore_notMem_repr m), List.append_nil] at longer
    exact (String.toList_inj.mp longer).symm
  · rw [mark_in_longer rest (underscore_notMem_repr n), List.append_nil] at longer
    exact String.toList_inj.mp longer

/-- Neither of two bases is a numbered form of the other. -/
def Graph.Apart (base other : String) : Prop :=
  ∀ n, 2 ≤ n → other ≠ base ++ "_" ++ Nat.repr n ∧ base ≠ other ++ "_" ++ Nat.repr n

/-- Bases that are apart have no key in common. -/
theorem Graph.Apart.candidate_ne {base other : String} (apart : Apart base other) (different : other ≠ base)
    {m n : Nat} (hm : 1 ≤ m) (hn : 1 ≤ n) : candidate base m ≠ candidate other n := by
  rcases Nat.eq_or_lt_of_le hm with rfl | m2 <;> rcases Nat.eq_or_lt_of_le hn with rfl | n2
  · exact different.symm
  · rw [candidate_one, candidate_of_two_le n2]
    exact (apart n n2).2
  · rw [candidate_one, candidate_of_two_le m2]
    exact (apart m m2).1.symm
  · rw [candidate_of_two_le m2, candidate_of_two_le n2]
    exact fun same => different (base_of_suffixed same).symm

theorem Graph.nextNumber_le_insertOne (g : Graph) (base : String) (i : Insertion) :
    g.nextNumber base ≤ (g.insertOne i).nextNumber base := by
  by_contra less
  have taken := taken_below_nextNumber ((g.insertOne i).nextNumber_pos base) (Nat.lt_of_not_le less)
  have still := has_insertOne (i := i).mpr (.inr taken)
  simp [(g.insertOne i).nextNumber_free base] at still

theorem Graph.nextNumber_lt_insertOne (g : Graph) {i : Insertion} {base : String}
    (own : i.record.base = base) : g.nextNumber base < (g.insertOne i).nextNumber base := by
  refine Nat.lt_of_le_of_ne (g.nextNumber_le_insertOne base i) fun same => ?_
  have free := (g.insertOne i).nextNumber_free base
  have taken : (g.insertOne i).functions.has (candidate base (g.nextNumber base)) = true :=
    has_insertOne.mpr (.inl (by rw [own, assignKey_eq]))
  rw [← same, taken] at free
  contradiction

/-- A run of insertions, each with the key it is answered. -/
def Graph.answered (g : Graph) : List Insertion → List (Insertion × String)
  | [] => []
  | i :: run =>
    let (key, after) := g.insertFunction i.1 i.2
    (i, key) :: after.answered run

/-- The keys of the insertions of a run that share a base, in their order. -/
def Graph.keysOf (g : Graph) (base : String) (run : List Insertion) : List String :=
  ((g.answered run).filter (·.1.record.base == base)).map (·.2)

theorem Graph.keysOf_own {g : Graph} {i : Insertion} {base : String} (own : i.record.base = base)
    (run : List Insertion) :
    g.keysOf base (i :: run) = candidate base (g.nextNumber base) :: (g.insertOne i).keysOf base run := by
  subst own
  have first : g.answered (i :: run) = (i, g.assignKey i.record.base) :: (g.insertOne i).answered run := rfl
  rw [keysOf, first, List.filter_cons_of_pos (by simp)]
  rfl

theorem Graph.keysOf_other {g : Graph} {i : Insertion} {base : String} (other : i.record.base ≠ base)
    (run : List Insertion) : g.keysOf base (i :: run) = (g.insertOne i).keysOf base run := by
  have first : g.answered (i :: run) = (i, g.assignKey i.record.base) :: (g.insertOne i).answered run := rfl
  rw [keysOf, first, List.filter_cons_of_neg (by simpa using other)]
  rfl

/-- Keys of a base are numbered upwards, from where the graph has the base's next number. -/
theorem Graph.keysOf_ascending (g : Graph) (base : String) (run : List Insertion) :
    ∃ numbers : List Nat, g.keysOf base run = numbers.map (candidate base) ∧
      (∀ n ∈ numbers, g.nextNumber base ≤ n) ∧ numbers.Pairwise (· < ·) := by
  induction run generalizing g with
  | nil => exact ⟨[], rfl, nofun, .nil⟩
  | cons i run ih =>
    obtain ⟨numbers, keys, above, ascending⟩ := ih (g.insertOne i)
    by_cases own : i.record.base = base
    · have later : ∀ n ∈ numbers, g.nextNumber base < n := fun n member =>
        Nat.lt_of_lt_of_le (g.nextNumber_lt_insertOne own) (above n member)
      refine ⟨g.nextNumber base :: numbers, ?_, ?_, List.pairwise_cons.mpr ⟨later, ascending⟩⟩
      · rw [keysOf_own own, keys, List.map_cons]
      · exact List.forall_mem_cons.mpr ⟨Nat.le_refl _, fun n member => Nat.le_of_lt (later n member)⟩
    · refine ⟨numbers, ?_, fun n member => ?_, ascending⟩
      · rw [keysOf_other own, keys]
      · exact Nat.le_trans (g.nextNumber_le_insertOne base i) (above n member)

/-- Of the numbers of a base those up to `k` are taken, and no others. -/
def Graph.CountedTo (g : Graph) (base : String) (k : Nat) : Prop :=
  ∀ n, 1 ≤ n → (g.functions.has (candidate base n) = true ↔ n ≤ k)

theorem Graph.CountedTo.nextNumber {g : Graph} {base : String} {k : Nat} (counted : g.CountedTo base k) :
    g.nextNumber base = k + 1 := by
  refine nextNumber_unique (by omega) ?_ fun m positive below => (counted m positive).mpr (by omega)
  have free := (counted (k + 1) (by omega)).not.mpr (by omega)
  simpa using free

theorem Graph.CountedTo.insert_own {g : Graph} {base : String} {k : Nat} (counted : g.CountedTo base k)
    {i : Insertion} (own : i.record.base = base) : (g.insertOne i).CountedTo base (k + 1) := by
  intro n positive
  rw [has_insertOne, counted n positive, own, assignKey_eq, counted.nextNumber]
  constructor
  · rintro (new | old)
    · exact Nat.le_of_eq (candidate_injective positive (by omega) new)
    · omega
  · intro bound
    rcases Nat.eq_or_lt_of_le bound with rfl | below
    · exact .inl rfl
    · exact .inr (by omega)

theorem Graph.CountedTo.insert_other {g : Graph} {base : String} {k : Nat} (counted : g.CountedTo base k)
    {i : Insertion} (different : i.record.base ≠ base) (apart : Apart base i.record.base) :
    (g.insertOne i).CountedTo base k := by
  intro n positive
  have unlike := apart.candidate_ne different positive (g.nextNumber_pos i.record.base)
  rw [has_insertOne, counted n positive, assignKey_eq, or_iff_right unlike]

theorem Graph.CountedTo.keysOf {g : Graph} {base : String} {k : Nat} (counted : g.CountedTo base k)
    {run : List Insertion} (apart : ∀ i ∈ run, i.record.base ≠ base → Apart base i.record.base) :
    g.keysOf base run = (List.range' (k + 1) (g.keysOf base run).length).map (candidate base) := by
  induction run generalizing g k with
  | nil => rfl
  | cons i run ih =>
    obtain ⟨here, rest⟩ := List.forall_mem_cons.mp apart
    by_cases own : i.record.base = base
    · rw [keysOf_own own, counted.nextNumber, List.length_cons, List.range'_succ, List.map_cons,
        ← ih (counted.insert_own own) rest]
    · rw [keysOf_other own]
      exact ih (counted.insert_other own (here own)) rest

theorem Graph.countedTo_of_empty {g : Graph} (empty : g.functions = .empty) (base : String) :
    g.CountedTo base 0 := by
  intro n positive
  simp [empty, Catalog.has, Catalog.empty]
  omega

theorem Graph.length_keysOf (g : Graph) (base : String) (run : List Insertion) :
    (g.keysOf base run).length = (run.filter (·.record.base == base)).length := by
  induction run generalizing g with
  | nil => rfl
  | cons i run ih =>
    by_cases own : i.record.base = base
    · rw [keysOf_own own, List.length_cons, ih, List.filter_cons_of_pos (by simpa using own), List.length_cons]
    · rw [keysOf_other own, ih, List.filter_cons_of_neg (by simpa using own)]

/-- In a run of insertions into an empty graph, those that share a base are answered keys of the base
with rising numbers, the bare base counting as one. They are numbered one by one if no other base of
the run is a numbered form of theirs or has theirs for a numbered form. -/
theorem Graph.occurrences_numbered (url base : String) (run : List Insertion) :
    let keys := Graph.keysOf { repositoryUrl := url } base run
    keys.length = (run.filter (·.record.base == base)).length ∧
    (∃ numbers : List Nat, keys = numbers.map (candidate base) ∧ (∀ n ∈ numbers, 1 ≤ n) ∧
      numbers.Pairwise (· < ·)) ∧
    ((∀ i ∈ run, i.record.base ≠ base → Apart base (i.record.base)) →
      ∀ k < keys.length, keys[k]? = some (if k = 0 then base else base ++ "_" ++ Nat.repr (k + 1))) := by
  intro keys
  refine ⟨length_keysOf _ base run, ?_, fun apart k inside => ?_⟩
  · obtain ⟨numbers, same, above, ascending⟩ := keysOf_ascending { repositoryUrl := url } base run
    exact ⟨numbers, same, fun n member => Nat.le_trans (nextNumber_pos _ base) (above n member), ascending⟩
  · have counted : keys = (List.range' 1 keys.length).map (candidate base) :=
      (countedTo_of_empty rfl base).keysOf apart
    have atPlace : keys[k]? = some (candidate base (k + 1)) := by
      rw [counted, List.getElem?_map, List.getElem?_range' inside, Option.map_some]
      simp [Nat.add_comm]
    rw [atPlace, candidate]
    simp

/-- Beside a function whose name only looks numbered, and one of the same name in another file. -/
theorem Graph.occurrences_numbered_beside_lookalike :
    let f : ExtractedFunction := ⟨"f", "def f(): pass", .empty⟩
    let run : List Insertion :=
      [("a.py", f), ("a.py", { f with name := "f_1" }), ("a.py", f), ("b.py", f), ("a.py", f)]
    let keys := Graph.keysOf { repositoryUrl := "repo" } "a.py::f" run
    (∀ i ∈ run, i.record.base ≠ "a.py::f" → Apart "a.py::f" i.record.base) ∧
      keys.length = 3 ∧ keys[2]? = some "a.py::f_3" := by
  intro f run keys
  have lookalike : Apart "a.py::f" "a.py::f_1" := by
    refine fun n two => ⟨fun same => ?_, fun same => ?_⟩
    · have number : 1 = n := suffixed_injective (show "a.py::f" ++ "_" ++ Nat.repr 1 = _ from same)
      omega
    · have lengths := congrArg (·.toList.length) same
      have short : "a.py::f".toList.length = 7 := by decide
      have long : "a.py::f_1".toList.length = 9 := by decide
      simp only [String.toList_append, List.length_append] at lengths
      omega
  have elsewhere : Apart "a.py::f" "b.py::f" := by
    refine fun n _ => ⟨fun same => ?_, fun same => ?_⟩ <;>
    · have first := congrArg (·.toList.head?) same
      simp at first
  have apart : ∀ i ∈ run, i.record.base ≠ "a.py::f" → Apart "a.py::f" i.record.base := by
    simp only [run, List.forall_mem_cons]
    exact ⟨fun own => absurd rfl own, fun _ => lookalike, fun own => absurd rfl own, fun _ => elsewhere,
      fun own => absurd rfl own, nofun⟩
  obtain ⟨length, -, numbered⟩ := occurrences_numbered "repo" "a.py::f" run
  have three : keys.length = 3 := length.trans (by decide)
  exact ⟨apart, three, numbered apart 2 (three ▸ by decide)⟩

end CodeAtlas
