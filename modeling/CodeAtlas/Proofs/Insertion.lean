import CodeAtlas.Proofs.KeyAssignment

namespace CodeAtlas

/-- A function as it is recorded for a file. -/
def FunctionRecord.ofFunction (filePath : String) (f : ExtractedFunction) : FunctionRecord where
  filePath := filePath
  functionName := f.name
  codeSnippet := f.snippet
  calls := f.calls

/-- The key of a record that is the only one of its file and name. -/
def FunctionRecord.base (r : FunctionRecord) : String :=
  Graph.baseKey r.filePath r.functionName

/-- An insertion to make: a function and its file. -/
abbrev Insertion := String × ExtractedFunction

def Insertion.record (i : Insertion) : FunctionRecord :=
  .ofFunction i.1 i.2

def Graph.insertOne (g : Graph) (i : Insertion) : Graph :=
  (g.insertFunction i.1 i.2).2

/-- A run of insertions. -/
def Graph.insertAll (g : Graph) (run : List Insertion) : Graph :=
  run.foldl insertOne g

theorem Graph.insertOne_functions (g : Graph) (i : Insertion) :
    (g.insertOne i).functions = g.functions.insert (g.assignKey i.record.base) i.record := rfl

theorem Graph.mem_insertOne {g : Graph} {i : Insertion} {e : String × FunctionRecord} :
    e ∈ (g.insertOne i).functions.entries ↔
      e = (g.assignKey i.record.base, i.record) ∨ e ∈ g.functions.entries := by
  rw [insertOne_functions, Catalog.mem_insert (g.assignKey_fresh _)]

theorem Graph.has_insertOne {g : Graph} {i : Insertion} {key : String} :
    (g.insertOne i).functions.has key = true ↔
      key = g.assignKey i.record.base ∨ g.functions.has key = true := by
  rw [insertOne_functions, Catalog.has_insert (g.assignKey_fresh _)]

theorem Graph.size_insertOne (g : Graph) (i : Insertion) : (g.insertOne i).size = g.size + 1 := by
  rw [size, insertOne_functions, Catalog.size_insert (g.assignKey_fresh _), size]

theorem Graph.insertAll_append (g : Graph) (a b : List Insertion) :
    g.insertAll (a ++ b) = (g.insertAll a).insertAll b :=
  List.foldl_append

theorem Graph.size_insertAll (g : Graph) (run : List Insertion) :
    (g.insertAll run).size = g.size + run.length := by
  induction run generalizing g with
  | nil => rfl
  | cons i run ih =>
    have rest := ih (g.insertOne i)
    rw [size_insertOne] at rest
    rw [insertAll, List.foldl_cons, ← insertAll, rest, List.length_cons]
    omega

/-- A run leaves all but the functions as it was. -/
theorem Graph.insertAll_eq (g : Graph) (run : List Insertion) :
    g.insertAll run = { g with functions := (g.insertAll run).functions } := by
  induction run generalizing g with
  | nil => rfl
  | cons i run ih => exact ih (g.insertOne i)

theorem Graph.assignKey_congr {g h : Graph} (same : g.functions = h.functions) (base : String) :
    g.assignKey base = h.assignKey base := by
  have first (fuel n : Nat) : g.firstFree base fuel n = h.firstFree base fuel n := by
    induction fuel generalizing n with
    | zero => rfl
    | succ fuel ih => rw [firstFree, firstFree, same, ih]
  rw [assignKey, assignKey, first, size, size, same]

/-- What a run makes of the functions is decided by the functions alone. -/
theorem Graph.insertAll_functions_congr {g h : Graph} (same : g.functions = h.functions)
    (run : List Insertion) : (g.insertAll run).functions = (h.insertAll run).functions := by
  induction run generalizing g h with
  | nil => exact same
  | cons i run ih =>
    refine ih ?_
    rw [insertOne_functions, insertOne_functions, assignKey_congr same, same]

def Graph.records (g : Graph) : List FunctionRecord :=
  g.functions.entries.map (·.2)

/-- A run adds the records of its functions and loses none, repetitions counted. -/
theorem Graph.records_insertAll (g : Graph) (run : List Insertion) :
    (g.insertAll run).records.Perm (run.map Insertion.record ++ g.records) := by
  induction run generalizing g with
  | nil => exact .rfl
  | cons i run ih =>
    have one : (g.insertOne i).records.Perm (i.record :: g.records) :=
      (Catalog.insert_perm _ (g.assignKey_fresh _)).map _
    have rest := (ih (g.insertOne i)).trans (one.append_left _)
    exact rest.trans List.perm_middle

end CodeAtlas
