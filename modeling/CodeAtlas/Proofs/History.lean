import CodeAtlas.Proofs.Scheduling

namespace CodeAtlas

/-- A call to a pool, with what time decides during it. -/
inductive Call where
  | ofText (clock : Clock) (text ext : String)
  | ofFile (clock : Clock) (fs : FileSystem) (path : Path)

def Call.run (pool : Pool) : Call → Except ParseError ParsedUnit × Pool
  | ofText clock text ext => pool.parseText clock text ext
  | ofFile clock fs path => (pool.parseFile clock fs path).value

theorem Call.run_pool {pool : Pool} (idle : pool.Idle) (c : Call) : (c.run pool).2 = pool := by
  cases c with
  | ofText clock text ext => exact Pool.parseText_pool idle text ext
  | ofFile clock fs path => exact Pool.parseFile_pool idle path

theorem Call.run_skipped (pool : Pool) (skipped : List LoadFailure) (c : Call) :
    (c.run { pool with skipped }).1 = (c.run pool).1 := by
  cases c with
  | ofText clock text ext => exact pool.parseText_skipped clock skipped text ext
  | ofFile clock fs path => exact pool.parseFile_skipped clock fs skipped path

namespace Pool

/-- The answers to some calls, each made to the pool that the one before has left. -/
def answers (pool : Pool) : List Call → List (Except ParseError ParsedUnit)
  | [] => []
  | c :: rest => (c.run pool).1 :: answers (c.run pool).2 rest

theorem answers_of_idle {pool : Pool} (idle : pool.Idle) (calls : List Call) :
    pool.answers calls = calls.map fun c => (c.run pool).1 := by
  induction calls with
  | nil => rfl
  | cons c rest ih => rw [answers, c.run_pool idle, ih, List.map_cons]

/-- The pool of a registry that was loaded and given a limit, and has done nothing. -/
def fresh (r : Registry) (limit : Option Nat) : Pool :=
  (load r).value.withTimeout limit

/-- The pools that loading, limits, rebuilding and calls lead to, with the registry each was made for
and the limit it was given last. -/
inductive Reachable : Registry → Option Nat → Pool → Prop
  | load (r : Registry) : Reachable r none (load r).value
  | ofLoaded (entries : List LanguageEntry) (limit : Option Nat) :
      Reachable ⟨entries⟩ limit (ofLoaded entries limit).value
  | limited {r limit pool} (next : Option Nat) :
      Reachable r limit pool → Reachable r next (pool.withTimeout next)
  | rebuilt {r limit pool} (next : Option Nat) :
      Reachable r limit pool → Reachable r next (Pool.ofLoaded pool.loaded next).value
  | called {r limit pool} (c : Call) :
      Reachable r limit pool → Reachable r limit (c.run pool).2

theorem fresh_idle (r : Registry) (limit : Option Nat) : (fresh r limit).Idle := by
  rw [fresh, load_value]
  exact withTimeout_idle (ofEntries_idle r.entries) limit

theorem withTimeout_withTimeout (pool : Pool) (limit next : Option Nat) :
    (pool.withTimeout limit).withTimeout next = pool.withTimeout next := by
  simp only [withTimeout, List.map_map]
  rfl

theorem pushAll_unlimited {pool : Pool} (unlimited : pool.withTimeout none = pool)
    (entries : List LanguageEntry) :
    (pool.pushAll entries).withTimeout none = pool.pushAll entries := by
  induction entries generalizing pool with
  | nil => exact unlimited
  | cons e entries ih =>
    refine ih ?_
    have parsers := congrArg Pool.parsers unlimited
    have timeout := congrArg Pool.timeout unlimited
    simp only [withTimeout] at parsers timeout
    simp only [withTimeout, push, List.map_append, parsers, timeout]
    rfl

/-- No limit is what a pool is loaded with. -/
theorem fresh_none (r : Registry) : fresh r none = (load r).value := by
  have start : Pool.withTimeout {} none = {} := rfl
  have pushed := pushAll_unlimited start (r.entries.filter (·.binds))
  rw [fresh, load_value, ofEntries]
  exact congrArg ({ · with skipped := r.entries.filterMap LanguageEntry.failure? }) pushed

/-- A reachable pool is the fresh one of its registry and limit, but for the failures it has on
record. -/
theorem Reachable.fresh {r : Registry} {limit : Option Nat} {pool : Pool}
    (reach : Reachable r limit pool) : ∃ skipped, pool = { fresh r limit with skipped } := by
  induction reach with
  | load r => exact ⟨(Pool.load r).value.skipped, by rw [fresh_none]⟩
  | ofLoaded entries limit =>
    refine ⟨entries.filterMap (·.failure?), ?_⟩
    rw [ofLoaded_value, Pool.fresh, load_value]
    rfl
  | @limited r limit pool next _ ih =>
    obtain ⟨skipped, rfl⟩ := ih
    exact ⟨skipped, congrArg (fun pool => { pool with skipped })
      (withTimeout_withTimeout (Pool.load r).value limit next)⟩
  | @rebuilt r limit pool next _ ih =>
    obtain ⟨skipped, rfl⟩ := ih
    have loaded : (Pool.fresh r limit).loaded = r.entries.filter (·.binds) := by
      rw [Pool.fresh, load_value]
      exact ofEntries_loaded r.entries
    refine ⟨[], ?_⟩
    rw [ofLoaded_value]
    simp only [loaded]
    rw [ofEntries_bound, Pool.fresh, load_value]
    rfl
  | @called r limit pool c _ ih =>
    obtain ⟨skipped, rfl⟩ := ih
    have idle : Idle { Pool.fresh r limit with skipped } := fresh_idle r limit
    exact ⟨skipped, c.run_pool idle⟩

theorem Reachable.answers {r : Registry} {limit : Option Nat} {pool : Pool}
    (reach : Reachable r limit pool) (calls : List Call) :
    pool.answers calls = calls.map fun c => (c.run (Pool.fresh r limit)).1 := by
  obtain ⟨skipped, rfl⟩ := reach.fresh
  have idle : Idle { Pool.fresh r limit with skipped } := fresh_idle r limit
  rw [answers_of_idle idle]
  exact List.map_congr_left fun c _ => c.run_skipped _ skipped

end Pool

/-- A build that is asked for, with the host and the files it meets. -/
structure Visit where
  host : Host
  fs : FileSystem
  root : Path
  url : String

def Visit.run (b : Builder) (v : Visit) : Except BuildError Builder.Merged × Builder :=
  (b.build v.host v.fs v.root v.url).value

namespace Builder

/-- The answers to some visits, each made to the builder that the one before has left. -/
def answers (b : Builder) : List Visit → List (Except BuildError Merged)
  | [] => []
  | v :: rest => (v.run b).1 :: answers (v.run b).2 rest

/-- What a builder answers that was made for one visit alone. -/
def alone (r : Registry) (options : BuildOptions) (v : Visit) : Except BuildError Merged :=
  match (ofRegistry r options).value with
  | .ok b => (v.run b).1
  | .error e => .error e

end Builder

theorem Analysis.run_pool (clock : Clock) (crew : Crew) (fs : FileSystem) {pool : Pool}
    (idle : pool.Idle) (jobs : Nat) (sources : List SourceFile) :
    (run clock crew fs pool jobs sources).value.2 = pool := by
  have alone : (inOrder clock fs pool sources).value.2 = pool :=
    congrArg Prod.snd (inOrder_value idle sources)
  unfold run
  split
  · exact alone
  · cases crew with
    | unavailable reason => exact alone
    | workers assign => rfl

/-- A build leaves its builder as it was, also where it fails. -/
theorem Visit.run_builder {b : Builder} (idle : b.pool.Idle) (v : Visit) : (v.run b).2 = b := by
  unfold run Builder.build
  split
  · rfl
  · have pool := Analysis.run_pool v.host.clock v.host.crew v.fs idle b.options.jobs
      (Builder.inOrder (b.listing v.fs v.root))
    exact congrArg (Builder.mk · b.options) pool

theorem Builder.answers_of_idle {b : Builder} (idle : b.pool.Idle) (visits : List Visit) :
    b.answers visits = visits.map fun v => (v.run b).1 := by
  induction visits with
  | nil => rfl
  | cons v rest ih => rw [answers, v.run_builder idle, ih, List.map_cons]

theorem Builder.ofRegistry_pool {r : Registry} {options : BuildOptions} {b : Builder}
    (made : (ofRegistry r options).value = .ok b) : b.pool = Pool.fresh r options.parseTimeout := by
  rw [eq_of_made made, Pool.fresh, Pool.load_value]

/-- Every graph comes with the failures of the pool it was built by. -/
theorem Visit.skippedLanguages {b : Builder} {v : Visit} {g : Graph} {report : BuildReport}
    (answer : (v.run b).1 = .ok (g, report)) : report.skippedLanguages = b.pool.skipped := by
  by_cases isDirectory : v.fs.isDirectory v.root = true
  · rw [run, Builder.build_value v.host b v.url isDirectory, Builder.merge_value] at answer
    cases answer
    rfl
  · rw [run, Builder.build, if_pos (by simpa using isDirectory)] at answer
    contradiction

/-- A pool, however it was come by, answers each call as a fresh pool of its registry and limit
answers that call alone; and a builder answers each visit as one made for it alone, with the same
languages left out. -/
theorem answers_carry_no_history :
    (∀ r limit pool, Pool.Reachable r limit pool → ∀ calls,
      pool.answers calls = calls.map fun c => (c.run (Pool.fresh r limit)).1) ∧
    ∀ r options b, (Builder.ofRegistry r options).value = .ok b → ∀ visits,
      b.answers visits = visits.map (Builder.alone r options) ∧
      ∀ g report, .ok (g, report) ∈ b.answers visits →
        report.skippedLanguages = r.entries.filterMap (·.failure?) := by
  refine ⟨fun r limit pool reach => reach.answers, fun r options b made visits => ?_⟩
  have pool := Builder.ofRegistry_pool made
  have idle : b.pool.Idle := pool ▸ Pool.fresh_idle r options.parseTimeout
  have skipped : b.pool.skipped = r.entries.filterMap (·.failure?) := by
    rw [pool, Pool.fresh, Pool.load_value]
    rfl
  have each := Builder.answers_of_idle idle visits
  refine ⟨each.trans (List.map_congr_left fun v _ => ?_), fun g report member => ?_⟩
  · rw [Builder.alone, made]
  · rw [each] at member
    obtain ⟨v, _, answer⟩ := List.mem_map.mp member
    rw [Visit.skippedLanguages answer, skipped]

/-- A parse that is given up, and another text for the same parser; a root that is no directory, and
one that is. -/
theorem answers_carry_no_history_after_timeout :
    let python : LanguageEntry := ⟨"python", ["py"], [], "name", "call", "function", .python⟩
    let broken : LanguageEntry := ⟨"broken", ["bk"], [], "name", "call", "function", .foreign (12 : Nat)⟩
    let r : Registry := ⟨[broken, python]⟩
    let clock : Clock := ⟨fun _ _ text => text == "slow", fun _ => 0⟩
    let slow : Call := .ofText clock "slow" "py"
    let quick : Call := .ofText clock "quick" "py"
    let pool := (slow.run ((Pool.load r).value.withTimeout (some 5000))).2
    let options : BuildOptions := { parseTimeout := some 5000 }
    let b : Builder := ⟨Pool.fresh r options.parseTimeout, options⟩
    let fs : FileSystem := ⟨.directory [(Text.encode "a.py", .file (Text.encode "slow"))], []⟩
    let visits : List Visit := [⟨{ clock }, fs, ⟨[]⟩, "repo"⟩, ⟨{ clock }, fs, ⟨[Path.slash]⟩, "repo"⟩]
    Pool.Reachable r (some 5000) pool ∧
      (slow.run pool).1 = .error (.timeout 5000) ∧
      pool.answers [slow, quick, slow] =
        [slow, quick, slow].map (fun c => (c.run (Pool.fresh r (some 5000))).1) ∧
      (Builder.ofRegistry r options).value = .ok b ∧
      b.answers visits = visits.map (Builder.alone r options) := by
  intro python broken r clock slow quick pool options b fs visits
  have reach : Pool.Reachable r (some 5000) pool := .called slow (.limited (some 5000) (.load r))
  have late : (slow.run pool).1 = .error (.timeout 5000) := by rfl
  have made : (Builder.ofRegistry r options).value = .ok b := by rfl
  obtain ⟨calls, builds⟩ := answers_carry_no_history
  exact ⟨reach, late, calls r (some 5000) pool reach _, made, (builds r options b made visits).1⟩

end CodeAtlas
