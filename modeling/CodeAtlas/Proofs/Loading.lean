import CodeAtlas.Proofs.IdlePool
import CodeAtlas.Registry

namespace CodeAtlas

def LanguageEntry.binds (e : LanguageEntry) : Bool :=
  (Parser.bind e).toOption.isSome

def LanguageEntry.failure? (e : LanguageEntry) : Option LoadFailure :=
  match Parser.bind e with
  | .ok _ => none
  | .error f => some f

namespace Pool

/-- Entries pushed one after another, each with a parser that has done nothing. -/
def pushAll (pool : Pool) (entries : List LanguageEntry) : Pool :=
  entries.foldl (fun pool e => pool.push e { language := e.language }) pool

/-- The pool over some entries, the failures of those that cannot be bound noted. -/
def ofEntries (entries : List LanguageEntry) : Pool :=
  { pushAll {} (entries.filter (·.binds)) with skipped := entries.filterMap (·.failure?) }

theorem pushAll_loaded (pool : Pool) (entries : List LanguageEntry) :
    (pool.pushAll entries).loaded = pool.loaded ++ entries := by
  induction entries generalizing pool with
  | nil => exact (List.append_nil _).symm
  | cons e entries ih =>
    rw [pushAll, List.foldl_cons, ← pushAll, ih, push, List.append_assoc, List.singleton_append]

theorem pushAll_skipped (pool : Pool) (failures : List LoadFailure)
    (entries : List LanguageEntry) :
    { pool with skipped := failures }.pushAll entries =
      { pool.pushAll entries with skipped := failures } := by
  induction entries generalizing pool with
  | nil => rfl
  | cons e entries ih => exact ih (pool.push e { language := e.language })

theorem pushAll_idle {pool : Pool} (idle : pool.Idle) (entries : List LanguageEntry) :
    (pool.pushAll entries).Idle := by
  induction entries generalizing pool with
  | nil => exact idle
  | cons e entries ih =>
    refine ih fun p member => ?_
    rcases List.mem_append.mp member with old | new
    · exact idle p old
    · cases List.mem_singleton.mp new
      rfl

theorem bind_eq_ok {e : LanguageEntry} {p : Parser} (bound : Parser.bind e = .ok p) :
    p = { language := e.language } := by
  unfold Parser.bind at bound
  split at bound
  · cases bound
    rfl
  · contradiction

/-- One entry of a registry is pushed or its failure is noted. -/
theorem add_value (pool : Pool) (e : LanguageEntry) :
    (pool.add e).value =
      { pool.pushAll ([e].filter (·.binds)) with
        skipped := pool.skipped ++ [e].filterMap (·.failure?) } := by
  unfold add
  cases bound : Parser.bind e with
  | ok p =>
    have binds : e.binds = true := by simp [LanguageEntry.binds, bound, Except.toOption]
    have good : e.failure? = none := by simp [LanguageEntry.failure?, bound]
    rw [List.filter_cons_of_pos binds, List.filterMap_cons_none good, bind_eq_ok bound]
    simp [pushAll, push]
  | error f =>
    have binds : ¬e.binds = true := by simp [LanguageEntry.binds, bound, Except.toOption]
    have bad : e.failure? = some f := by simp [LanguageEntry.failure?, bound]
    rw [List.filter_cons_of_neg binds, List.filterMap_cons_some bad]
    rfl

/-- Entries taken one after another, whatever is put on record beside. -/
theorem value_foldlM_add {step : Pool → LanguageEntry → Logged Pool}
    (same : ∀ pool e, (step pool e).value = (pool.add e).value) (pool : Pool)
    (entries : List LanguageEntry) :
    (entries.foldlM step pool).value =
      { pool.pushAll (entries.filter (·.binds)) with
        skipped := pool.skipped ++ entries.filterMap (·.failure?) } := by
  rw [Logged.value_foldlM]
  induction entries generalizing pool with
  | nil => simp [pushAll]
  | cons e entries ih =>
    rw [List.foldl_cons, ih, same, add_value, pushAll_skipped]
    have pushed : (pool.pushAll ([e].filter (·.binds))).pushAll (entries.filter (·.binds)) =
        pool.pushAll ((e :: entries).filter (·.binds)) := by
      rw [pushAll, pushAll, ← List.foldl_append, ← List.filter_append]
      rfl
    rw [pushed, List.append_assoc, ← List.filterMap_append, List.singleton_append]

theorem load_value (r : Registry) : (load r).value = ofEntries r.entries :=
  value_foldlM_add (fun _ _ => rfl) {} r.entries

theorem ofLoaded_value (entries : List LanguageEntry) (timeout : Option Nat) :
    (ofLoaded entries timeout).value = (ofEntries entries).withTimeout timeout := by
  rw [ofLoaded, Logged.value_bind, value_foldlM_add (fun pool e => ?_)]
  · rfl
  · unfold add
    cases Parser.bind e <;> rfl

theorem ofEntries_loaded (entries : List LanguageEntry) :
    (ofEntries entries).loaded = entries.filter (·.binds) :=
  pushAll_loaded {} _

theorem ofEntries_idle (entries : List LanguageEntry) : (ofEntries entries).Idle :=
  pushAll_idle (fun _ member => absurd member List.not_mem_nil) _

theorem withTimeout_idle {pool : Pool} (idle : pool.Idle) (timeout : Option Nat) :
    (pool.withTimeout timeout).Idle := by
  intro p member
  obtain ⟨q, old, rfl⟩ := List.mem_map.mp member
  exact idle q old

/-- A limit of nothing and no limit come to the same in every parser. -/
theorem limitOf_filter (timeout : Option Nat) :
    limitOf (timeout.filter (· > 0)) = limitOf timeout := by
  cases timeout with
  | none => rfl
  | some ns => cases ns <;> rfl

theorem withTimeout_filter (pool : Pool) (timeout : Option Nat) :
    pool.withTimeout (timeout.filter (· > 0)) = pool.withTimeout timeout := by
  simp only [withTimeout, limitOf_filter, Option.filter_filter, Bool.and_self]

/-- Of the entries that were bound, none fails when a pool is rebuilt. -/
theorem ofEntries_bound (entries : List LanguageEntry) :
    ofEntries (entries.filter (·.binds)) = { ofEntries entries with skipped := [] } := by
  have none : (entries.filter (·.binds)).filterMap (·.failure?) = [] := by
    refine List.filterMap_eq_nil_iff.mpr fun e member => ?_
    have binds := (List.mem_filter.mp member).2
    unfold LanguageEntry.binds at binds
    unfold LanguageEntry.failure?
    cases bound : Parser.bind e with
    | ok p => rfl
    | error f => simp [bound, Except.toOption] at binds
  rw [ofEntries, none, List.filter_filter]
  simp only [Bool.and_self]
  rfl

/-- A worker's pool is the pool it was made from, but for the failures noted there. -/
theorem ofLoaded_rebuilds (entries : List LanguageEntry) (timeout : Option Nat) :
    let pool := (ofEntries entries).withTimeout timeout
    (ofLoaded pool.loaded pool.timeout).value = { pool with skipped := [] } := by
  intro pool
  have loaded : pool.loaded = entries.filter (·.binds) := ofEntries_loaded entries
  have limit : pool.timeout = timeout.filter (· > 0) := rfl
  have rebuilt : (ofLoaded pool.loaded pool.timeout).value =
      (ofEntries (entries.filter (·.binds))).withTimeout timeout := by
    rw [ofLoaded_value, loaded, limit, withTimeout_filter]
  rw [rebuilt, ofEntries_bound]
  rfl

end Pool

end CodeAtlas
