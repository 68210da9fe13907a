import CodeAtlas.Proofs.Insertion

namespace CodeAtlas

/-- A key that is the base of a record under some number, all smaller numbers of the base taken. -/
def Graph.Numbered (g : Graph) (key : String) (r : FunctionRecord) : Prop :=
  ∃ n, 1 ≤ n ∧ n ≤ g.size ∧ key = candidate r.base n ∧
    ∀ m, 1 ≤ m → m < n → g.functions.has (candidate r.base m) = true

/-- The law holds of every entry. It speaks of all keys at once, since a number of one base can be
taken by a record of another. -/
def Graph.Lawful (g : Graph) : Prop :=
  ∀ key r, (key, r) ∈ g.functions.entries → g.Numbered key r

theorem Graph.Numbered.insertOne {g : Graph} {key : String} {r : FunctionRecord}
    (law : g.Numbered key r) (i : Insertion) : (g.insertOne i).Numbered key r := by
  obtain ⟨n, positive, bound, atKey, below⟩ := law
  refine ⟨n, positive, ?_, atKey, fun m lower upper => ?_⟩
  · rw [size_insertOne]
    omega
  · exact has_insertOne.mpr (Or.inr (below m lower upper))

theorem Graph.assignKey_numbered (g : Graph) (i : Insertion) :
    (g.insertOne i).Numbered (g.assignKey i.record.base) i.record := by
  refine ⟨g.nextNumber i.record.base, g.nextNumber_pos _, ?_, rfl, fun m lower upper => ?_⟩
  · rw [size_insertOne]
    exact g.nextNumber_le _
  · exact has_insertOne.mpr (Or.inr (taken_below_nextNumber lower upper))

theorem Graph.Lawful.insertOne {g : Graph} (law : g.Lawful) (i : Insertion) :
    (g.insertOne i).Lawful := by
  intro key r member
  rcases mem_insertOne.mp member with new | old
  · cases new
    exact g.assignKey_numbered i
  · exact (law key r old).insertOne i

theorem Graph.Lawful.insertAll {g : Graph} (law : g.Lawful) (run : List Insertion) :
    (g.insertAll run).Lawful := by
  induction run generalizing g with
  | nil => exact law
  | cons i run ih => exact ih (law.insertOne i)

theorem Graph.lawful_of_empty {g : Graph} (empty : g.functions = .empty) : g.Lawful := by
  intro key r member
  rw [empty] at member
  exact absurd member List.not_mem_nil

theorem Graph.Numbered.suffix {g : Graph} {key : String} {r : FunctionRecord}
    (law : g.Numbered key r) :
    key = r.base ∨ ∃ n, 2 ≤ n ∧ n ≤ g.size ∧ key = r.base ++ "_" ++ Nat.repr n ∧
      g.functions.has r.base = true ∧
      ∀ m, 2 ≤ m → m < n → g.functions.has (r.base ++ "_" ++ Nat.repr m) = true := by
  obtain ⟨n, positive, bound, atKey, below⟩ := law
  rcases Nat.eq_or_lt_of_le positive with rfl | two
  · exact Or.inl atKey
  · rw [candidate_of_two_le two] at atKey
    refine Or.inr ⟨n, two, bound, atKey, below 1 (Nat.le_refl 1) two, fun m lower upper => ?_⟩
    have taken := below m (by omega) upper
    rwa [candidate_of_two_le lower] at taken

/-- The keys of a graph made by insertions from an empty one. A record has its base for a key, or
the base with a number below which every number of the base is taken; and each insertion takes a key
that was free and leaves the entries there as they were. -/
theorem Graph.keys_follow_law (url : String) (run : List Insertion) :
    let g := Graph.insertAll { repositoryUrl := url } run
    (∀ key r, (key, r) ∈ g.functions.entries →
      let base := r.filePath ++ "::" ++ r.functionName
      key = base ∨ ∃ n, 2 ≤ n ∧ n ≤ g.size ∧ key = base ++ "_" ++ Nat.repr n ∧
        g.functions.has base = true ∧
        ∀ m, 2 ≤ m → m < n → g.functions.has (base ++ "_" ++ Nat.repr m) = true) ∧
    ∀ filePath f,
      let (key, after) := g.insertFunction filePath f
      g.functions.has key = false ∧
      ∀ e, e ∈ after.functions.entries ↔
        e = (key, .ofFunction filePath f) ∨ e ∈ g.functions.entries := by
  intro g
  have start : Graph.Lawful { repositoryUrl := url } := lawful_of_empty rfl
  have law : g.Lawful := start.insertAll run
  refine ⟨fun key r member => (law key r member).suffix, fun filePath f => ?_⟩
  have fresh := g.assignKey_fresh (FunctionRecord.ofFunction filePath f).base
  have added (e : String × FunctionRecord) := g.mem_insertOne (i := (filePath, f)) (e := e)
  exact ⟨fresh, added⟩

/-- A function whose own name is a numbered form of another's pushes the next number on. -/
theorem Graph.keys_follow_law_past_taken_number :
    let f : ExtractedFunction := ⟨"f", "def f(): pass", .empty⟩
    let run := [("a.py", f), ("a.py", { f with name := "f_2" }), ("a.py", f)]
    let g := Graph.insertAll { repositoryUrl := "repo" } run
    let r := FunctionRecord.ofFunction "a.py" f
    let base := r.filePath ++ "::" ++ r.functionName
    ("a.py::f_3", r) ∈ g.functions.entries ∧
    ("a.py::f_3" = base ∨ ∃ n, 2 ≤ n ∧ n ≤ g.size ∧ "a.py::f_3" = base ++ "_" ++ Nat.repr n ∧
      g.functions.has base = true ∧
      ∀ m, 2 ≤ m → m < n → g.functions.has (base ++ "_" ++ Nat.repr m) = true) := by
  intro f run g r base
  let before := Graph.insertAll { repositoryUrl := "repo" } (run.take 2)
  have key : before.assignKey (Insertion.record ("a.py", f)).base = "a.py::f_3" := by decide
  have last : g = before.insertOne ("a.py", f) := insertAll_append _ (run.take 2) [("a.py", f)]
  have there : ("a.py::f_3", r) ∈ g.functions.entries := by
    rw [last, mem_insertOne, key]
    exact Or.inl rfl
  exact ⟨there, (keys_follow_law "repo" run).1 _ _ there⟩

end CodeAtlas
