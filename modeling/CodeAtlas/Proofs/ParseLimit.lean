import CodeAtlas.Config.Basic
import CodeAtlas.Proofs.ExtensionIndex
import CodeAtlas.Proofs.History

namespace CodeAtlas

namespace Pool

variable {r : Registry} {limit : Option Nat} {pool : Pool}

/-- Each parser of the pool has a limit. -/
def Armed (pool : Pool) : Prop :=
  ∀ p ∈ pool.parsers, 0 < p.limit

theorem limitOf_pos : 0 < limitOf limit ↔ 1000 ≤ limit.getD 0 := by
  rw [limitOf]
  omega

theorem isSome_filter_pos : (limit.filter (· > 0)).isSome = true ↔ 0 < limit.getD 0 := by
  cases limit with
  | none => simp
  | some ns => simp

theorem limit_of_mem_withTimeout {p : Parser} (member : p ∈ (pool.withTimeout limit).parsers) :
    p.limit = limitOf limit := by
  obtain ⟨_, _, rfl⟩ := List.mem_map.mp member
  rfl

/-- A reachable pool tells the limit it was given last, unless that is nothing, and its parsers have it in
microseconds. -/
theorem Reachable.limits (reach : Reachable r limit pool) :
    pool.timeout = limit.filter (· > 0) ∧ ∀ p ∈ pool.parsers, p.limit = limitOf limit := by
  obtain ⟨skipped, rfl⟩ := reach.fresh
  exact ⟨rfl, fun p => limit_of_mem_withTimeout⟩

/-- A pool has parsers with a limit from a microsecond on. -/
theorem Reachable.armed_iff (reach : Reachable r limit pool) :
    pool.Armed ↔ pool.parsers = [] ∨ 1000 ≤ limit.getD 0 := by
  have limits := reach.limits.2
  constructor
  · intro armed
    rcases List.eq_nil_or_concat pool.parsers with none | ⟨front, p, parsers⟩
    · exact .inl none
    · have member : p ∈ pool.parsers := by simp [parsers]
      exact .inr (limitOf_pos.mp (limits p member ▸ armed p member))
  · rintro (none | long) p member
    · simp [none] at member
    · exact limits p member ▸ limitOf_pos.mpr long

theorem Reachable.timeout_isSome_iff (reach : Reachable r limit pool) :
    pool.timeout.isSome = true ↔ 0 < limit.getD 0 := by
  rw [reach.limits.1, isSome_filter_pos]

end Pool

theorem Config.parseTimeout_getD (c : Config) :
    c.buildOptions.parseTimeout.getD 0 = c.graph.parseTimeoutMs * nsPerMs := by
  rw [buildOptions]
  dsimp only
  split
  · rfl
  · have zero : c.graph.parseTimeoutMs = 0 := by omega
    rw [zero]
    rfl

theorem Builder.reachable_pool {r : Registry} {options : BuildOptions} {b : Builder}
    (made : (ofRegistry r options).value = .ok b) : Pool.Reachable r options.parseTimeout b.pool := by
  rw [ofRegistry_pool made]
  exact .limited _ (.load r)

/-- A builder has a language, and a parser for it. -/
theorem Builder.parsers_ne_nil {r : Registry} {options : BuildOptions} {b : Builder}
    (made : (ofRegistry r options).value = .ok b) : b.pool.parsers ≠ [] := by
  intro none
  rw [ofRegistry_value] at made
  dsimp only at made
  split at made
  · contradiction
  · rename_i nonempty
    cases made
    have bare : (Pool.ofEntries r.entries).parsers = [] := List.map_eq_nil_iff.mp none
    have aligned := (Pool.ofEntries_indexed r.entries).aligned
    rw [bare, List.forall₂_nil_right_iff] at aligned
    exact nonempty (List.isEmpty_iff.mpr aligned)

/-- However a pool was loaded, limited and rebuilt, with `limit` for its last limit: its parsers have that
limit in whole microseconds, capped by what they can count, and the pool tells the limit unless it is
nothing. So what a pool with parsers tells is what they keep to, except for a limit of less than a
microsecond. The limit of a project is one of milliseconds: the parsers of its builder have it if it is
not zero, and then the builder tells it. -/
theorem Pool.told_limit_armed_from_microsecond (r : Registry) (limit : Option Nat) (pool : Pool)
    (reach : Reachable r limit pool) :
    (∀ p ∈ pool.parsers, p.limit = min (limit.getD 0 / 1000) (2 ^ 64 - 1)) ∧
    pool.timeout = limit.filter (· > 0) ∧
    (pool.parsers ≠ [] → ((pool.timeout.isSome = true ↔ pool.Armed) ↔
      ¬(0 < limit.getD 0 ∧ limit.getD 0 < 1000))) ∧
    ∀ (c : Config) b, (Builder.ofRegistry r c.buildOptions).value = .ok b →
      b.pool.parsers ≠ [] ∧
      (∀ p ∈ b.pool.parsers, p.limit = min (c.graph.parseTimeoutMs * 1000) (2 ^ 64 - 1)) ∧
      (b.pool.Armed ↔ 0 < c.graph.parseTimeoutMs) ∧
      (b.pool.timeout.isSome = true ↔ 0 < c.graph.parseTimeoutMs) := by
  refine ⟨reach.limits.2, reach.limits.1, fun parsers => ?_, fun c b made => ?_⟩
  · rw [reach.timeout_isSome_iff, reach.armed_iff, or_iff_right parsers]
    omega
  · have reach := Builder.reachable_pool made
    have parsers := Builder.parsers_ne_nil made
    have milliseconds := c.parseTimeout_getD
    rw [Config.nsPerMs] at milliseconds
    refine ⟨parsers, fun p member => ?_, ?_, ?_⟩
    · rw [reach.limits.2 p member, limitOf, milliseconds]
      omega
    · rw [reach.armed_iff, or_iff_right parsers, milliseconds]
      omega
    · rw [reach.timeout_isSome_iff, milliseconds]
      omega

/-- A pool made for workers from one whose limit is no whole number of microseconds, and a builder whose
limit is more than parsers can count. -/
theorem Pool.told_limit_armed_rounded_and_capped :
    let python : LanguageEntry := ⟨"python", ["py"], [], "name", "call", "function", .python⟩
    let r : Registry := ⟨[python]⟩
    let pool := (ofLoaded ((load r).value.withTimeout none).loaded (some 2999)).value
    let c : Config := { graph := { parseTimeoutMs := 2 ^ 64 - 1 } }
    let b : Builder := ⟨fresh r c.buildOptions.parseTimeout, c.buildOptions⟩
    Reachable r (some 2999) pool ∧ pool.parsers ≠ [] ∧ pool.timeout = some 2999 ∧ pool.Armed ∧
      (∀ p ∈ pool.parsers, p.limit = 2) ∧
      (Builder.ofRegistry r c.buildOptions).value = .ok b ∧ b.pool.Armed ∧
      ∀ p ∈ b.pool.parsers, p.limit = 2 ^ 64 - 1 := by
  intro python r pool c b
  have reach : Reachable r (some 2999) pool := .rebuilt _ (.limited none (.load r))
  have parsers : pool.parsers ≠ [] := by decide
  have made : (Builder.ofRegistry r c.buildOptions).value = .ok b := by rfl
  obtain ⟨limits, told, kept, project⟩ := told_limit_armed_from_microsecond r (some 2999) pool reach
  obtain ⟨_, capped, armed, _⟩ := project c b made
  have told : pool.timeout = some 2999 := told
  refine ⟨reach, parsers, told, ((kept parsers).mpr (by decide)).mp (by rw [told]; rfl), fun p member => ?_, made,
    armed.mpr (by decide), fun p member => ?_⟩
  · exact (limits p member).trans (by decide)
  · exact (capped p member).trans (by decide)

/-- A limit of half a microsecond is told by a pool none of whose parsers has a limit. -/
theorem Pool.told_limit_unarmed :
    let python : LanguageEntry := ⟨"python", ["py"], [], "name", "call", "function", .python⟩
    let r : Registry := ⟨[python]⟩
    let pool := (load r).value.withTimeout (some 500)
    Reachable r (some 500) pool ∧ pool.parsers ≠ [] ∧ pool.timeout = some 500 ∧
      ∀ p ∈ pool.parsers, p.limit = 0 := by
  intro python r pool
  exact ⟨.limited _ (.load r), by decide, by decide, by decide⟩

end CodeAtlas
