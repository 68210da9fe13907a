import CodeAtlas.Builder
import CodeAtlas.Proofs.IdlePool

namespace CodeAtlas

theorem Analysis.inOrder_relatives (clock : Clock) (fs : FileSystem) (pool : Pool)
    (sources : List SourceFile) :
    (inOrder clock fs pool sources).value.1.map (·.relative) = sources.map (·.relative) := by
  induction sources generalizing pool with
  | nil => rfl
  | cons source rest ih =>
    simp only [inOrder, Logged.value_bind, value_analyze, Logged.value_pure, List.map_cons, ih]

theorem Analysis.shared_relatives (clock : Clock) (fs : FileSystem) (pool : Pool)
    (assign : Nat → Nat) (n : Nat) (pools : Pools) (sources : List SourceFile) :
    (shared clock fs pool assign n pools sources).value.map (·.relative) =
      sources.map (·.relative) := by
  induction sources generalizing n pools with
  | nil => rfl
  | cons source rest ih =>
    simp only [shared, Logged.value_bind, value_analyze, Logged.value_pure, List.map_cons, ih]

/-- However files are shared out, each of them has an outcome, and the outcomes stand in the order of
the files. -/
theorem Analysis.run_relatives (clock : Clock) (crew : Crew) (fs : FileSystem) (pool : Pool)
    (jobs : Nat) (sources : List SourceFile) :
    (run clock crew fs pool jobs sources).value.1.map (·.relative) =
      sources.map (·.relative) := by
  unfold run
  split
  · exact inOrder_relatives clock fs pool sources
  · cases crew with
    | unavailable reason => exact inOrder_relatives clock fs pool sources
    | workers assign => exact shared_relatives clock fs pool assign 0 [] sources

/-- What a build of a directory answers. -/
theorem Builder.build_value (host : Host) {fs : FileSystem} (b : Builder) {root : Path}
    (url : String) (isDirectory : fs.isDirectory root = true) :
    (b.build host fs root url).value.1 = .ok (b.merge (b.listing fs root) url
      (Analysis.run host.clock host.crew fs b.pool b.options.jobs
        (inOrder (b.listing fs root))).value.1).value := by
  unfold build
  rw [isDirectory]
  rfl

/-- A build fails for a root that is no directory, and for nothing else. -/
theorem Builder.build_eq_error (host : Host) (fs : FileSystem) (b : Builder) (root : Path)
    (url : String) (e : BuildError) :
    (b.build host fs root url).value.1 = .error e ↔
      fs.isDirectory root = false ∧ e = .rootNotDirectory root := by
  cases isDirectory : fs.isDirectory root with
  | true =>
    rw [build_value host b url isDirectory]
    simp
  | false =>
    have refused : (b.build host fs root url).value.1 = .error (.rootNotDirectory root) := by
      unfold build
      rw [isDirectory]
      rfl
    rw [refused]
    simp [eq_comm]

end CodeAtlas
