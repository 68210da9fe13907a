import CodeAtlas.Proofs.Scheduling

namespace CodeAtlas

/-- A graph and a report in which outcomes are counted, each of them once. -/
structure Accounts (outcomes : List FileOutcome) (g : Graph) (report : BuildReport) : Prop where
  size : g.size = report.functionsAdded
  added : report.functionsAdded =
    ((outcomes.filterMap (·.extraction?)).map (·.functions.length)).sum
  records : g.records.Perm (outcomes.flatMap fun o => o.insertions.map Insertion.record)
  pending : ∀ r ∈ g.records, r.summary = none
  nodes : report.nodesSkipped =
    ((outcomes.filterMap (·.extraction?)).map (·.unnamed.length)).sum
  parsed : report.filesParsed = (outcomes.filter (·.parsed)).length
  skipped : report.skippedFiles = outcomes.filterMap (·.skipped?)
  once : ((outcomes.filter (·.parsed)).map (·.relative) ++
    report.skippedFiles.map (·.path)).Perm (outcomes.map (·.relative))

theorem Accounts.total {outcomes : List FileOutcome} {g : Graph} {report : BuildReport}
    (accounts : Accounts outcomes g report) :
    report.filesParsed + report.filesSkipped = outcomes.length := by
  have count := accounts.once.length_eq
  simp only [List.length_append, List.length_map] at count
  rw [accounts.parsed, BuildReport.filesSkipped, count]

theorem length_insertions (outcomes : List FileOutcome) :
    (outcomes.flatMap (·.insertions)).length =
      ((outcomes.filterMap (·.extraction?)).map (·.functions.length)).sum := by
  induction outcomes with
  | nil => rfl
  | cons o rest ih =>
    rw [List.flatMap_cons, List.length_append, ih]
    cases result : o.result <;>
      simp [FileOutcome.insertions, FileOutcome.extraction?, Except.toOption, result]

theorem length_skippedNodes (outcomes : List FileOutcome) :
    (outcomes.flatMap (·.skippedNodes)).length =
      ((outcomes.filterMap (·.extraction?)).map (·.unnamed.length)).sum := by
  induction outcomes with
  | nil => rfl
  | cons o rest ih =>
    rw [List.flatMap_cons, List.length_append, ih]
    cases result : o.result <;>
      simp [FileOutcome.skippedNodes, FileOutcome.extraction?, Except.toOption, result]

/-- An outcome is parsed or skipped, and never both. -/
theorem parsed_or_skipped (outcomes : List FileOutcome) :
    ((outcomes.filter (·.parsed)).map (·.relative) ++
      (outcomes.filterMap (·.skipped?)).map (·.path)).Perm (outcomes.map (·.relative)) := by
  induction outcomes with
  | nil => exact .rfl
  | cons o rest ih =>
    obtain ⟨relative, result, elapsed⟩ := o
    cases result with
    | ok x => exact ih.cons relative
    | error e => exact List.perm_middle.trans (ih.cons relative)

/-- Whatever the outcomes, their merge accounts for them. -/
theorem Builder.merge_accounts (b : Builder) (l : Listing) (url : String)
    (outcomes : List FileOutcome) :
    Accounts outcomes (b.merge l url outcomes).value.1 (b.merge l url outcomes).value.2 := by
  rw [merge_value]
  let run := outcomes.flatMap (·.insertions)
  have start := Graph.ofListing_functions url l
  have records : ((Graph.ofListing url l).insertAll run).records.Perm
      (run.map Insertion.record) := by
    simpa [Graph.records, start, Catalog.empty] using (Graph.ofListing url l).records_insertAll run
  exact {
    size := by
      rw [Graph.size_insertAll]
      simp [Graph.size, start, Catalog.size, Catalog.empty, BuildReport.ofOutcomes]
    added := length_insertions outcomes
    records := by rwa [List.map_flatMap] at records
    pending := by
      intro r member
      obtain ⟨i, _, rfl⟩ := List.mem_map.mp (records.mem_iff.mp member)
      rfl
    nodes := length_skippedNodes outcomes
    parsed := rfl
    skipped := rfl
    once := parsed_or_skipped outcomes }

theorem Builder.merge_total (b : Builder) {l : Listing} (url : String)
    {outcomes : List FileOutcome}
    (relatives : outcomes.map (·.relative) = (inOrder l).map (·.relative)) :
    let report := (b.merge l url outcomes).value.2
    report.filesParsed + report.filesSkipped = l.sources.length := by
  have count : outcomes.length = l.sources.length := by
    simpa [inOrder] using congrArg List.length relatives
  exact (b.merge_accounts l url outcomes).total.trans count

/-- Any outcomes of the sources found, one for each, are accounted for by the graph and the report
they are merged into; and a build answers such a graph and report, for the outcomes of its own
analysis. With a builder as it is made, these are the outcomes that each source has by itself. -/
theorem Builder.build_loses_nothing (fs : FileSystem) (b : Builder) (root : Path) (url : String)
    (isDirectory : fs.isDirectory root = true) :
    let l := b.listing fs root
    (∀ outcomes, outcomes.map (·.relative) = (inOrder l).map (·.relative) →
      ∃ g report, (b.merge l url outcomes).value = (g, report) ∧ Accounts outcomes g report ∧
        report.filesParsed + report.filesSkipped = l.sources.length) ∧
    ∀ host : Host,
      let outcomes :=
        (Analysis.run host.clock host.crew fs b.pool b.options.jobs (inOrder l)).value.1
      outcomes.map (·.relative) = (inOrder l).map (·.relative) ∧
      (∀ r options, (ofRegistry r options).value = .ok b →
        outcomes = (inOrder l).map (Analysis.outcome host.clock fs b.pool)) ∧
      ∃ g report, (b.build host fs root url).value.1 = .ok (g, report) ∧
        (b.merge l url outcomes).value = (g, report) ∧ Accounts outcomes g report ∧
        report.filesParsed + report.filesSkipped = l.sources.length := by
  intro l
  constructor
  · intro outcomes relatives
    exact ⟨_, _, rfl, b.merge_accounts l url outcomes, b.merge_total url relatives⟩
  · intro host outcomes
    have relatives : outcomes.map (·.relative) = (inOrder l).map (·.relative) :=
      Analysis.run_relatives host.clock host.crew fs b.pool b.options.jobs (inOrder l)
    refine ⟨relatives, fun r options made => ?_, _, _, b.build_value host url isDirectory, rfl,
      b.merge_accounts l url outcomes, b.merge_total url relatives⟩
    have loaded : b.pool = (Pool.ofEntries r.entries).withTimeout options.parseTimeout :=
      congrArg pool (eq_of_made made)
    simp only [outcomes, loaded, Analysis.run_value]

/-- A file that parses beside one that is no text. -/
theorem Builder.build_loses_nothing_beside_failure :
    let fs : FileSystem := ⟨.directory [(Text.encode "a.py", .file (Text.encode "def f(): pass")),
      (Text.encode "b.py", .file [0xff])], []⟩
    let root : Path := ⟨[Path.slash]⟩
    let b : Builder := ⟨(Pool.ofEntries Registry.builtin.entries).withTimeout none, {}⟩
    let l := b.listing fs root
    let parsed : Extraction := { functions := [⟨"f", "def f(): pass", .empty⟩] }
    let outcomes : List FileOutcome := (inOrder l).map fun s =>
      ⟨s.relative, if s.relative = "a.py" then .ok parsed else .error .invalidEncoding, 1⟩
    fs.isDirectory root = true ∧ outcomes.map (·.relative) = (inOrder l).map (·.relative) ∧
      (∃ g report, (b.merge l "repo" outcomes).value = (g, report) ∧ Accounts outcomes g report ∧
        report.filesParsed + report.filesSkipped = l.sources.length) ∧
      (ofRegistry .builtin {}).value = .ok b ∧
      ∃ g report, (b.build {} fs root "repo").value.1 = .ok (g, report) ∧
        Accounts ((inOrder l).map (Analysis.outcome .byLength fs b.pool)) g report ∧
        report.filesParsed + report.filesSkipped = l.sources.length := by
  intro fs root b l parsed outcomes
  have isDirectory : fs.isDirectory root = true := by cbv
  have relatives : outcomes.map (·.relative) = (inOrder l).map (·.relative) := by
    simp only [outcomes, List.map_map]
    rfl
  have made : (ofRegistry .builtin {}).value = .ok b := rfl
  obtain ⟨merged, built⟩ := build_loses_nothing fs b root "repo" isDirectory
  obtain ⟨-, alone, g, report, answer, -, accounts, total⟩ := built {}
  rw [alone .builtin {} made] at accounts
  exact ⟨isDirectory, relatives, merged outcomes relatives, made, g, report, answer, accounts, total⟩

end CodeAtlas
