import CodeAtlas.Builder
import CodeAtlas.Proofs.Insertion
import CodeAtlas.Proofs.Logged
import Mathlib.Algebra.GroupWithZero.Nat

namespace CodeAtlas

namespace FileOutcome

def extraction? (o : FileOutcome) : Option Extraction :=
  o.result.toOption

def parsed (o : FileOutcome) : Bool :=
  o.extraction?.isSome

/-- The insertions an outcome asks for. -/
def insertions (o : FileOutcome) : List Insertion :=
  match o.result with
  | .ok x => x.functions.map (o.relative, ·)
  | .error _ => []

def skippedNodes (o : FileOutcome) : List SkippedNode :=
  match o.result with
  | .ok x => x.unnamed.map (⟨o.relative, ·⟩)
  | .error _ => []

def skipped? (o : FileOutcome) : Option SkippedFile :=
  match o.result with
  | .ok _ => none
  | .error e => some ⟨o.relative, e⟩

end FileOutcome

/-- The report of some outcomes, of which nothing else is known. -/
def BuildReport.ofOutcomes (outcomes : List FileOutcome) : BuildReport where
  filesParsed := (outcomes.filter (·.parsed)).length
  functionsAdded := (outcomes.flatMap (·.insertions)).length
  parseTimeMs := (outcomes.map (·.elapsedMs)).sum
  skippedFiles := outcomes.filterMap (·.skipped?)
  skippedNodes := outcomes.flatMap (·.skippedNodes)

theorem BuildReport.merge_assoc (a b c : BuildReport) :
    (a.merge b).merge c = a.merge (b.merge c) := by
  simp only [merge, Nat.add_assoc, List.append_assoc]

theorem BuildReport.merge_nothing (a : BuildReport) : a.merge (.ofOutcomes []) = a := by
  simp [merge, ofOutcomes]

theorem BuildReport.ofOutcomes_cons (o : FileOutcome) (rest : List FileOutcome) :
    ofOutcomes (o :: rest) = (ofOutcomes [o]).merge (ofOutcomes rest) := by
  have parsed : (o :: rest).filter (·.parsed) =
      [o].filter (·.parsed) ++ rest.filter (·.parsed) := by
    rw [← List.filter_append, List.singleton_append]
  have skipped : (o :: rest).filterMap (·.skipped?) =
      [o].filterMap (·.skipped?) ++ rest.filterMap (·.skipped?) := by
    rw [← List.filterMap_append, List.singleton_append]
  simp [merge, ofOutcomes, parsed, skipped]

namespace FileOutcome

variable {o : FileOutcome}

theorem parsed_eq (o : FileOutcome) : o.parsed = !o.skipped?.isSome := by
  obtain ⟨relative, result, elapsed⟩ := o
  cases result <;> rfl

theorem skipped?_of_parsed (parsed : o.parsed = true) : o.skipped? = none := by
  simpa [parsed_eq] using parsed

/-- What fails adds nothing. -/
theorem nothing_of_failed (failed : o.parsed = false) : o.insertions = [] ∧ o.skippedNodes = [] := by
  obtain ⟨relative, result, elapsed⟩ := o
  cases result with
  | ok x => contradiction
  | error e => exact ⟨rfl, rfl⟩

theorem path_of_insertion {i : Insertion} (member : i ∈ o.insertions) : i.1 = o.relative := by
  obtain ⟨relative, result, elapsed⟩ := o
  cases result with
  | ok x =>
    obtain ⟨f, _, rfl⟩ := List.mem_map.mp member
    rfl
  | error e => exact absurd member List.not_mem_nil

theorem path_of_skippedNode {node : SkippedNode} (member : node ∈ o.skippedNodes) :
    node.path = o.relative := by
  obtain ⟨relative, result, elapsed⟩ := o
  cases result with
  | ok x =>
    obtain ⟨n, _, rfl⟩ := List.mem_map.mp member
    rfl
  | error e => exact absurd member List.not_mem_nil

theorem path_of_skipped {failure : SkippedFile} (skipped : o.skipped? = some failure) :
    failure.path = o.relative := by
  obtain ⟨relative, result, elapsed⟩ := o
  cases result with
  | ok x => contradiction
  | error e =>
    cases skipped
    rfl

theorem flatMap_parsed {α : Type} {f : FileOutcome → List α}
    (nothing : ∀ o : FileOutcome, o.parsed = false → f o = []) (outcomes : List FileOutcome) :
    (outcomes.filter (·.parsed)).flatMap f = outcomes.flatMap f := by
  induction outcomes with
  | nil => rfl
  | cons o outcomes ih =>
    cases parsed : o.parsed with
    | true => rw [List.filter_cons_of_pos parsed, List.flatMap_cons, List.flatMap_cons, ih]
    | false =>
      rw [List.filter_cons_of_neg (by simp [parsed]), List.flatMap_cons, nothing o parsed, ih]
      rfl

theorem insertions_parsed (outcomes : List FileOutcome) :
    (outcomes.filter (·.parsed)).flatMap (·.insertions) = outcomes.flatMap (·.insertions) :=
  flatMap_parsed (fun _ failed => (nothing_of_failed failed).1) outcomes

end FileOutcome

/-- Without the outcomes that failed a report lacks the files skipped, and the time. -/
theorem BuildReport.ofOutcomes_parsed (outcomes : List FileOutcome) :
    { ofOutcomes (outcomes.filter (·.parsed)) with parseTimeMs := 0 } =
      { ofOutcomes outcomes with skippedFiles := [], parseTimeMs := 0 } := by
  have nodes : (outcomes.filter (·.parsed)).flatMap (·.skippedNodes) =
      outcomes.flatMap (·.skippedNodes) :=
    FileOutcome.flatMap_parsed (fun _ failed => (FileOutcome.nothing_of_failed failed).2) outcomes
  have files : (outcomes.filter (·.parsed)).filterMap (·.skipped?) = [] :=
    List.filterMap_eq_nil_iff.mpr fun o member =>
      FileOutcome.skipped?_of_parsed (List.mem_filter.mp member).2
  simp only [ofOutcomes, FileOutcome.insertions_parsed, nodes, files, List.filter_filter,
    Bool.and_self]

/-- The file map of a graph is the one of the listing. -/
theorem Graph.ofListing_eq (url : String) (l : Listing) :
    ofListing url l = { repositoryUrl := url, files := l.directories } := by
  have recorded : ∀ (entries : List (String × List String)) (g : Graph),
      entries.foldl (fun g entry => g.recordDirectory entry.1 entry.2) g =
        { g with files := entries.foldl (fun c e => c.insert e.1 e.2) g.files } := by
    intro entries
    induction entries with
    | nil => exact fun _ => rfl
    | cons entry entries ih => exact fun g => ih (g.recordDirectory entry.1 entry.2)
  have files : l.directories.entries.foldl (fun c e => c.insert e.1 e.2) Catalog.empty =
      l.directories := by
    refine Catalog.ext_of_mem fun e => ?_
    rw [Catalog.foldl_insert Catalog.empty (by simpa [Catalog.empty] using l.directories.ascending)]
    rfl
  rw [ofListing, recorded, files]

theorem Graph.ofListing_functions (url : String) (l : Listing) :
    (ofListing url l).functions = .empty := by
  rw [ofListing_eq]

namespace Builder

theorem addUnnamed_value (relative : String) (report : BuildReport) (node : UnnamedNode) :
    (addUnnamed relative report node).value =
      { report with skippedNodes := report.skippedNodes ++ [⟨relative, node⟩] } := rfl

theorem addUnnamed_foldl (relative : String) (report : BuildReport) (nodes : List UnnamedNode) :
    nodes.foldl (fun r node => (addUnnamed relative r node).value) report =
      { report with skippedNodes := report.skippedNodes ++ nodes.map (⟨relative, ·⟩) } := by
  induction nodes generalizing report with
  | nil => simp
  | cons node nodes ih =>
    rw [List.foldl_cons, ih, addUnnamed_value]
    simp

theorem addFunction_foldl (relative : String) (m : Merged) (functions : List ExtractedFunction) :
    functions.foldl (addFunction relative) m =
      (m.1.insertAll (functions.map (relative, ·)),
        { m.2 with functionsAdded := m.2.functionsAdded + functions.length }) := by
  induction functions generalizing m with
  | nil => rfl
  | cons f functions ih =>
    rw [List.foldl_cons, ih]
    simp only [addFunction, List.map_cons, List.length_cons, Nat.add_comm functions.length 1,
      Nat.add_assoc]
    rfl

/-- One step of a merge. -/
theorem addOutcome_value (m : Merged) (o : FileOutcome) :
    (addOutcome m o).value = (m.1.insertAll o.insertions, m.2.merge (.ofOutcomes [o])) := by
  obtain ⟨relative, result, elapsed⟩ := o
  obtain ⟨g, report⟩ := m
  cases result with
  | error e =>
    simp [addOutcome, BuildReport.merge, BuildReport.ofOutcomes, FileOutcome.parsed,
      FileOutcome.extraction?, FileOutcome.insertions, FileOutcome.skipped?,
      FileOutcome.skippedNodes, Graph.insertAll, Except.toOption]
  | ok x =>
    simp [addOutcome, addExtraction, Logged.value_foldlM, addUnnamed_foldl, addFunction_foldl,
      BuildReport.merge, BuildReport.ofOutcomes, FileOutcome.parsed, FileOutcome.extraction?,
      FileOutcome.insertions, FileOutcome.skipped?, FileOutcome.skippedNodes, Except.toOption]

theorem addOutcome_foldl (m : Merged) (outcomes : List FileOutcome) :
    outcomes.foldl (fun m o => (addOutcome m o).value) m =
      (m.1.insertAll (outcomes.flatMap (·.insertions)), m.2.merge (.ofOutcomes outcomes)) := by
  induction outcomes generalizing m with
  | nil => rw [BuildReport.merge_nothing]; rfl
  | cons o outcomes ih =>
    rw [List.foldl_cons, ih, addOutcome_value, List.flatMap_cons, Graph.insertAll_append,
      BuildReport.ofOutcomes_cons o outcomes, BuildReport.merge_assoc]

/-- The whole merge. -/
theorem merge_value (b : Builder) (l : Listing) (url : String) (outcomes : List FileOutcome) :
    (b.merge l url outcomes).value =
      ((Graph.ofListing url l).insertAll (outcomes.flatMap (·.insertions)),
        { BuildReport.ofOutcomes outcomes with
          skippedLanguages := b.pool.skipped, walkErrors := l.errors }) := by
  rw [merge, Logged.value_foldlM, addOutcome_foldl]
  simp [BuildReport.merge, BuildReport.ofOutcomes]

end Builder

end CodeAtlas
