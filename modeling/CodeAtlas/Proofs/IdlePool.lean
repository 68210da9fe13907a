import CodeAtlas.Analysis
import CodeAtlas.Proofs.Logged

namespace CodeAtlas

/-- A parser that was idle is so again once it has answered, or once it is reset. -/
theorem Parser.parse_idle (clock : Clock) {p : Parser} (text : String)
    (idle : p.suspended = none) :
    (p.parse clock text).2.reset = p ∧
      ((p.parse clock text).1.isSome = true → (p.parse clock text).2 = p) := by
  obtain ⟨language, limit, suspended⟩ := p
  cases idle
  by_cases late : (limit > 0 && clock.exceeds language limit text) = true
  · simp [parse, late, reset]
  · simp [parse, late, reset]

def Pool.Idle (pool : Pool) : Prop :=
  ∀ p ∈ pool.parsers, p.suspended = none

theorem Pool.set_same {pool : Pool} {i : Nat} {p : Parser} (atPlace : pool.parsers[i]? = some p) :
    { pool with parsers := pool.parsers.set i p } = pool := by
  obtain ⟨inside, value⟩ := List.getElem?_eq_some_iff.mp atPlace
  subst value
  rw [List.set_getElem_self]

theorem Pool.parserFor_eq_some {pool : Pool} {ext : String} {p : Parser} {e : LanguageEntry} :
    pool.parserFor ext = some (p, e) ↔
      ∃ i, pool.place? ext = some i ∧ pool.parsers[i]? = some p ∧ pool.loaded[i]? = some e := by
  simp [parserFor, Option.bind_eq_some_iff]

/-- Parsing leaves an idle pool as it is, on every way out. -/
theorem Pool.parseText_pool {clock : Clock} {pool : Pool} (idle : pool.Idle) (text ext : String) :
    (pool.parseText clock text ext).2 = pool := by
  unfold parseText
  split
  · rename_i i parser entry place found
    obtain ⟨j, same, atPlace, _⟩ := parserFor_eq_some.mp found
    cases place.symm.trans same
    have parserIdle := idle parser (List.mem_of_getElem? atPlace)
    obtain ⟨reset, answered⟩ := parser.parse_idle clock text parserIdle
    split
    · rename_i source parsed after run
      rw [run] at answered
      have same : after = parser := answered rfl
      rw [same]
      exact set_same atPlace
    · rename_i after run
      rw [run] at reset
      simp only [reset]
      exact set_same atPlace
  · rfl

theorem Pool.parseFile_pool {clock : Clock} {fs : FileSystem} {pool : Pool} (idle : pool.Idle)
    (path : Path) : (pool.parseFile clock fs path).value.2 = pool := by
  unfold parseFile
  dsimp only
  split
  · rfl
  · split
    · rfl
    · split
      · rfl
      · exact parseText_pool idle _ _

/-- An analysis answers what parsing answers, of a unit its extraction, and leaves the pool that
parsing leaves. -/
theorem Analysis.value_analyze (clock : Clock) (fs : FileSystem) (pool : Pool)
    (source : SourceFile) :
    (analyze clock fs pool source).value =
      (⟨source.relative,
        (pool.parseFile clock fs source.path).value.1.map ParsedUnit.extraction,
        clock.spent source.path⟩, (pool.parseFile clock fs source.path).value.2) := by
  unfold analyze
  rw [Logged.value_bind]
  obtain ⟨parsed, left⟩ := (pool.parseFile clock fs source.path).value
  cases parsed <;> rfl

theorem Analysis.analyze_pool {clock : Clock} {fs : FileSystem} {pool : Pool} (idle : pool.Idle)
    (source : SourceFile) : (analyze clock fs pool source).value.2 = pool := by
  rw [value_analyze]
  exact Pool.parseFile_pool idle source.path

/-- What failed to load has no part in an answer. -/
theorem Pool.parseText_skipped (clock : Clock) (pool : Pool) (skipped : List LoadFailure)
    (text ext : String) :
    ({ pool with skipped }.parseText clock text ext).1 = (pool.parseText clock text ext).1 := by
  unfold parseText
  have place : { pool with skipped }.place? ext = pool.place? ext := rfl
  have parser : { pool with skipped }.parserFor ext = pool.parserFor ext := rfl
  rw [place, parser]
  split
  · split <;> rfl
  · rfl

theorem Pool.parseFile_skipped (clock : Clock) (fs : FileSystem) (pool : Pool)
    (skipped : List LoadFailure) (path : Path) :
    ({ pool with skipped }.parseFile clock fs path).value.1 =
      (pool.parseFile clock fs path).value.1 := by
  unfold parseFile
  have supported (ext : String) :
      { pool with skipped }.supportsExtension ext = pool.supportsExtension ext := rfl
  simp only [supported]
  split
  · rfl
  · split
    · rfl
    · split
      · rfl
      · exact parseText_skipped clock pool skipped _ _

end CodeAtlas
