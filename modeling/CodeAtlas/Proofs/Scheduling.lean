import CodeAtlas.Proofs.Building
import CodeAtlas.Proofs.Loading
import CodeAtlas.Proofs.Merging

namespace CodeAtlas

/-- The outcome of a source with a pool, without the pool that is left. -/
def Analysis.outcome (clock : Clock) (fs : FileSystem) (pool : Pool) (source : SourceFile) :
    FileOutcome :=
  (analyze clock fs pool source).value.1

theorem Analysis.outcome_eq (clock : Clock) (fs : FileSystem) (pool : Pool) (source : SourceFile) :
    outcome clock fs pool source = ⟨source.relative,
      (pool.parseFile clock fs source.path).value.1.map ParsedUnit.extraction,
      clock.spent source.path⟩ := by
  rw [outcome, value_analyze]

theorem Analysis.outcome_skipped (clock : Clock) (fs : FileSystem) (pool : Pool)
    (skipped : List LoadFailure) (source : SourceFile) :
    outcome clock fs { pool with skipped } source = outcome clock fs pool source := by
  rw [outcome_eq, outcome_eq, Pool.parseFile_skipped]

theorem Analysis.analyze_idle {clock : Clock} {fs : FileSystem} {pool : Pool} (idle : pool.Idle)
    (source : SourceFile) :
    (analyze clock fs pool source).value = (outcome clock fs pool source, pool) :=
  Prod.ext rfl (analyze_pool idle source)

theorem Analysis.inOrder_value {clock : Clock} {fs : FileSystem} {pool : Pool} (idle : pool.Idle)
    (sources : List SourceFile) :
    (inOrder clock fs pool sources).value = (sources.map (outcome clock fs pool), pool) := by
  induction sources with
  | nil => rfl
  | cons source rest ih =>
    simp only [inOrder, Logged.value_bind, analyze_idle idle, ih, Logged.value_pure, List.map_cons]

theorem Analysis.poolOf_value {pool worker : Pool} {pools : Pools}
    (made : (Pool.ofLoaded pool.loaded pool.timeout).value = worker)
    (same : ∀ entry ∈ pools, entry.2 = worker) (n : Nat) :
    (poolOf pool pools n).value = worker := by
  unfold poolOf
  split
  · rename_i own found
    obtain ⟨entry, atWorker, rfl⟩ := Option.map_eq_some_iff.mp found
    exact same entry (List.mem_of_find?_eq_some atWorker)
  · exact made

/-- Every worker goes on with the pool it began with, so that it does not matter which files it has
had before. -/
theorem Analysis.shared_value {clock : Clock} {fs : FileSystem} {pool worker : Pool}
    (made : (Pool.ofLoaded pool.loaded pool.timeout).value = worker) (idle : worker.Idle)
    (assign : Nat → Nat) (n : Nat) {pools : Pools} (same : ∀ entry ∈ pools, entry.2 = worker)
    (sources : List SourceFile) :
    (shared clock fs pool assign n pools sources).value =
      sources.map (outcome clock fs worker) := by
  induction sources generalizing n pools with
  | nil => rfl
  | cons source rest ih =>
    have own := poolOf_value made same (assign n)
    have first : (analyze clock fs worker source).value =
        (outcome clock fs worker source, worker) :=
      analyze_idle idle source
    have next : ∀ entry ∈ (assign n, worker) :: pools, entry.2 = worker := by
      intro entry member
      rcases List.mem_cons.mp member with rfl | old
      · rfl
      · exact same entry old
    simp only [shared, Logged.value_bind, own, first, ih (n + 1) next, Logged.value_pure,
      List.map_cons]

/-- With a pool as it is loaded, any crew gives each source the outcome it has by itself, and the
pool stays as it is. -/
theorem Analysis.run_value (clock : Clock) (crew : Crew) (fs : FileSystem)
    (entries : List LanguageEntry) (timeout : Option Nat) (jobs : Nat)
    (sources : List SourceFile) :
    let pool := (Pool.ofEntries entries).withTimeout timeout
    (run clock crew fs pool jobs sources).value = (sources.map (outcome clock fs pool), pool) := by
  intro pool
  have idle : pool.Idle := Pool.withTimeout_idle (Pool.ofEntries_idle entries) timeout
  unfold run
  split
  · exact inOrder_value idle sources
  · cases crew with
    | unavailable reason => exact inOrder_value idle sources
    | workers assign =>
      have made : (Pool.ofLoaded pool.loaded pool.timeout).value = { pool with skipped := [] } :=
        Pool.ofLoaded_rebuilds entries timeout
      -- A worker's pool has lost the failures of loading, which no outcome looks at.
      have outcomes : (shared clock fs pool assign 0 [] sources).value =
          sources.map (outcome clock fs pool) := by
        rw [shared_value made idle assign 0 (fun _ member => absurd member List.not_mem_nil)]
        exact List.map_congr_left fun source _ => outcome_skipped clock fs pool [] source
      exact Prod.ext outcomes rfl

/-- An outcome without the time it took. -/
def FileOutcome.untimed (o : FileOutcome) : FileOutcome :=
  { o with elapsedMs := 0 }

/-- A graph and a report without the time the build took. -/
def Builder.untimed (m : Merged) : Merged :=
  (m.1, { m.2 with parseTimeMs := 0 })

/-- The time apart, a clock has a part in an outcome only by the parses that it stops. -/
theorem Analysis.outcome_untimed (exceeds : Language → Nat → String → Bool)
    (spent spent' : Path → Nat) (fs : FileSystem) (pool : Pool) (source : SourceFile) :
    (outcome ⟨exceeds, spent⟩ fs pool source).untimed =
      (outcome ⟨exceeds, spent'⟩ fs pool source).untimed := by
  rw [outcome_eq, outcome_eq]
  rfl

theorem FileOutcome.insertions_untimed (outcomes : List FileOutcome) :
    (outcomes.map (·.untimed)).flatMap (·.insertions) = outcomes.flatMap (·.insertions) :=
  List.flatMap_map ..

theorem BuildReport.ofOutcomes_untimed (outcomes : List FileOutcome) :
    ofOutcomes (outcomes.map (·.untimed)) = { ofOutcomes outcomes with parseTimeMs := 0 } := by
  have nodes : (outcomes.map (·.untimed)).flatMap (·.skippedNodes) =
      outcomes.flatMap (·.skippedNodes) := List.flatMap_map ..
  have files : (outcomes.map (·.untimed)).filterMap (·.skipped?) =
      outcomes.filterMap (·.skipped?) := List.filterMap_map
  have parsed : ((outcomes.map (·.untimed)).filter (·.parsed)).length =
      (outcomes.filter (·.parsed)).length := by
    rw [List.filter_map, List.length_map]
    rfl
  have time : ((outcomes.map (·.untimed)).map (·.elapsedMs)).sum = 0 := by
    rw [List.map_map]
    simp [Function.comp_def, FileOutcome.untimed]
  simp only [ofOutcomes, FileOutcome.insertions_untimed, nodes, files, parsed, time]

theorem Builder.merge_untimed (b : Builder) (l : Listing) (url : String)
    (outcomes : List FileOutcome) :
    untimed (b.merge l url outcomes).value =
      untimed (b.merge l url (outcomes.map (·.untimed))).value := by
  simp only [merge_value, untimed, BuildReport.ofOutcomes_untimed, FileOutcome.insertions_untimed]

/-- What a new builder answers first, the time apart. -/
def Builder.firstAnswer (r : Registry) (options : BuildOptions) (host : Host) (fs : FileSystem)
    (root : Path) (url : String) : Except BuildError Merged :=
  match (ofRegistry r options).value with
  | .ok b => (b.build host fs root url).value.1.map untimed
  | .error e => .error e

theorem Builder.ofRegistry_value (r : Registry) (options : BuildOptions) :
    (ofRegistry r options).value =
      let pool := (Pool.ofEntries r.entries).withTimeout options.parseTimeout
      if pool.isEmpty then .error .noLanguagesLoaded else .ok ⟨pool, options⟩ := by
  unfold ofRegistry
  rw [Logged.value_bind, Pool.load_value]
  dsimp only
  split <;> rfl

/-- Of a registry whose languages all bind, each is loaded. -/
theorem Builder.ofRegistry_bound {r : Registry} (binds : ∀ e ∈ r.entries, e.binds = true)
    (some : r.entries ≠ []) (options : BuildOptions) :
    ∃ b, (ofRegistry r options).value = .ok b ∧ b.pool.loaded = r.entries := by
  let pool := (Pool.ofEntries r.entries).withTimeout options.parseTimeout
  have loaded : pool.loaded = r.entries :=
    (Pool.ofEntries_loaded r.entries).trans (List.filter_eq_self.mpr binds)
  have nonempty : ¬pool.isEmpty = true := by rwa [Pool.isEmpty, loaded, List.isEmpty_iff]
  refine ⟨⟨pool, options⟩, ?_, loaded⟩
  rw [ofRegistry_value]
  exact if_neg nonempty

theorem Builder.eq_of_made {r : Registry} {options : BuildOptions} {b : Builder}
    (made : (ofRegistry r options).value = .ok b) :
    b = ⟨(Pool.ofEntries r.entries).withTimeout options.parseTimeout, options⟩ := by
  rw [ofRegistry_value] at made
  dsimp only at made
  split at made
  · contradiction
  · exact (Except.ok.inj made).symm

/-- The answer of a new builder, from the outcomes that each source has by itself. -/
theorem Builder.firstAnswer_value (r : Registry) (options : BuildOptions) (host : Host)
    (fs : FileSystem) (root : Path) (url : String) :
    firstAnswer r options host fs root url =
      let pool := (Pool.ofEntries r.entries).withTimeout options.parseTimeout
      let b : Builder := ⟨pool, options⟩
      let l := b.listing fs root
      if pool.isEmpty then .error .noLanguagesLoaded
      else if fs.isDirectory root then
        .ok (untimed (b.merge l url ((inOrder l).map (Analysis.outcome host.clock fs pool))).value)
      else .error (.rootNotDirectory root) := by
  unfold firstAnswer
  rw [ofRegistry_value]
  dsimp only
  by_cases empty : ((Pool.ofEntries r.entries).withTimeout options.parseTimeout).isEmpty = true
  · rw [if_pos empty, if_pos empty]
  · rw [if_neg empty, if_neg empty]
    by_cases isDirectory : fs.isDirectory root = true
    · dsimp only
      rw [if_pos isDirectory, build_value host _ url isDirectory, Analysis.run_value]
      rfl
    · rw [if_neg isDirectory]
      simp [build, isDirectory, Except.map]

/-- A build does not depend on the number of jobs, on whether there are workers, or on which worker
takes which source; the time that files take may differ. -/
theorem Builder.build_same_for_any_crew (r : Registry) (options : BuildOptions) (jobs : Nat)
    (crew lone : Crew) (exceeds : Language → Nat → String → Bool) (spent spent' : Path → Nat)
    (fs : FileSystem) (root : Path) (url : String) :
    firstAnswer r { options with jobs } ⟨⟨exceeds, spent⟩, crew⟩ fs root url =
      firstAnswer r { options with jobs := 1 } ⟨⟨exceeds, spent'⟩, lone⟩ fs root url := by
  let pool := (Pool.ofEntries r.entries).withTimeout options.parseTimeout
  let b (jobs : Nat) : Builder := ⟨pool, { options with jobs }⟩
  let l := (b 1).listing fs root
  have outcomes (spent : Path → Nat) :
      ((inOrder l).map (Analysis.outcome ⟨exceeds, spent⟩ fs pool)).map (·.untimed) =
        (inOrder l).map fun source => (Analysis.outcome ⟨exceeds, spent'⟩ fs pool source).untimed := by
    rw [List.map_map]
    exact List.map_congr_left fun source _ => Analysis.outcome_untimed ..
  have merged : untimed ((b jobs).merge l url
        ((inOrder l).map (Analysis.outcome ⟨exceeds, spent⟩ fs pool))).value =
      untimed ((b 1).merge l url
        ((inOrder l).map (Analysis.outcome ⟨exceeds, spent'⟩ fs pool))).value := by
    rw [merge_untimed, (b 1).merge_untimed, outcomes, outcomes]
    rfl
  rw [firstAnswer_value, firstAnswer_value]
  dsimp only
  split
  · rfl
  · split
    · exact congrArg Except.ok merged
    · rfl

end CodeAtlas
