import CodeAtlas.Config.Basic
import CodeAtlas.Proofs.Restriction
import CodeAtlas.Proofs.Scheduling

namespace CodeAtlas.Config

/-- What validation says of a language that is not there. -/
def refusal (language : String) : InvalidSetting :=
  ⟨"graph.languages", "Unknown language '" ++ language ++
    "'. Expected one of: python, javascript, typescript, tsx, java, rust."⟩

/-- The listed languages that are none of the built-in ones, as spelled in the settings. -/
def unknown (c : Config) : List String :=
  c.graph.languages.filter (Text.lowerAscii · ∉ Registry.builtin.ids)

theorem isKnown_eq (language : String) : isKnown language = Registry.builtin.knows language := by
  unfold isKnown
  cases known : Registry.builtin.knows language with
  | false => rw [Registry.get_unknown known]; rfl
  | true =>
    obtain ⟨e, got⟩ := Registry.get_known known
    rw [got]
    rfl

theorem unknown_eq (c : Config) :
    c.unknown = c.graph.languages.filter (!Registry.builtin.knows ·) := by
  simp only [unknown, Registry.builtin_knows, decide_not]

theorem invalidLanguages_eq (c : Config) : c.invalidLanguages = c.unknown.map refusal := by
  have expected : "'. Expected one of: " ++ (", ".intercalate Registry.builtin.ids ++ ".") =
      "'. Expected one of: python, javascript, typescript, tsx, java, rust." := by decide
  simp only [invalidLanguages, isKnown_eq, unknown_eq]
  refine List.map_congr_left fun language _ => ?_
  rw [refusal, ← expected, String.append_assoc, String.append_assoc, String.append_assoc]
  rfl

/-- Of the flaws that validation finds, those with the languages are the refusals of unknown ones. -/
theorem languageFlaws_eq (c : Config) :
    c.validate.filter (·.field == "graph.languages") = c.unknown.map refusal := by
  have own : (c.unknown.map refusal).filter (·.field == "graph.languages") = c.unknown.map refusal :=
    List.filter_eq_self.mpr (by simp [refusal])
  have jobs : c.invalidJobs.filter (·.field == "graph.languages") = [] :=
    List.filter_eq_nil_iff.mpr (by simp [invalidJobs])
  have dirs : c.invalidIgnoreDirs.filter (·.field == "graph.languages") = [] :=
    List.filter_eq_nil_iff.mpr (List.forall_mem_map.mpr fun name _ => by simp)
  have output : c.invalidOutput.filter (·.field == "graph.languages") = [] :=
    List.filter_eq_nil_iff.mpr (by simp [invalidOutput])
  simp only [validate, invalidLanguages_eq, List.filter_append, own, jobs, dirs, output,
    List.append_nil]

theorem registry_of_unknown {c : Config} {language : String}
    (first : c.unknown.head? = some language) :
    c.registry = .error ⟨"Invalid [graph] languages", ["Unknown language: " ++ language]⟩ := by
  rw [unknown_eq, List.head?_filter] at first
  have listed : ¬c.graph.languages.isEmpty = true := by
    rw [List.isEmpty_iff]
    intro none
    rw [none] at first
    contradiction
  rw [registry, if_neg listed, Registry.restrict_unknown first]
  rfl

theorem registry_of_known {c : Config} (known : c.unknown = []) :
    ∃ r, c.registry = .ok r ∧ r.entries ≠ [] ∧ (∀ e ∈ r.entries, e ∈ Registry.builtin.entries) ∧
      r.ids = if c.graph.languages = [] then Registry.builtin.ids
        else c.graph.languages.map Text.lowerAscii := by
  by_cases listed : c.graph.languages = []
  · refine ⟨.builtin, ?_, List.cons_ne_nil _ _, fun _ member => member, (if_pos listed).symm⟩
    rw [registry, listed]
    rfl
  · have all : ∀ id ∈ c.graph.languages, Registry.builtin.knows id = true := by
      rw [unknown_eq, List.filter_eq_nil_iff] at known
      simpa using known
    obtain ⟨r, restricted, each⟩ := Registry.restrict_known all
    obtain ⟨ids, builtin⟩ := Registry.builtin_ids_of_get each
    have listed' : ¬c.graph.languages.isEmpty = true := by rwa [List.isEmpty_iff]
    refine ⟨r, ?_, ?_, builtin, ids.trans (if_neg listed).symm⟩
    · rw [registry, if_neg listed', restricted]
      rfl
    · intro none
      rw [none, List.forall₂_nil_right_iff] at each
      exact listed each

/-- The registry is refused for the first unknown language, and for nothing else. -/
theorem registry_eq_error {c : Config} {f : Failure} :
    c.registry = .error f ↔ ∃ language, c.unknown.head? = some language ∧
      f = ⟨"Invalid [graph] languages", ["Unknown language: " ++ language]⟩ := by
  constructor
  · intro failed
    cases first : c.unknown.head? with
    | none =>
      obtain ⟨r, ok, _⟩ := registry_of_known (List.head?_eq_none_iff.mp first)
      rw [ok] at failed
      contradiction
    | some language =>
      rw [registry_of_unknown first] at failed
      exact ⟨language, rfl, (Except.error.inj failed).symm⟩
  · rintro ⟨language, first, rfl⟩
    exact registry_of_unknown first

/-- Validation and use decide alike. The registry of some settings is refused just where validation
finds a flaw with the languages, by the first unknown one, which is the one of the first such flaw;
and there is a flaw for each language that is unknown. With settings in which no flaw is found there
is a registry, of the languages listed and in their order or of all there are; there is a builder;
and builds fail only for a root that is no directory. -/
theorem validation_agrees_with_use (c : Config) :
    let flaws := c.validate.filter (·.field == "graph.languages")
    ((∃ f, c.registry = .error f) ↔ flaws ≠ []) ∧
    (∀ f, c.registry = .error f → ∃ language, c.unknown.head? = some language ∧
      f = ⟨"Invalid [graph] languages", ["Unknown language: " ++ language]⟩ ∧
      flaws.head? = some (refusal language)) ∧
    flaws.length = c.unknown.length ∧
    (c.validate = [] → ∃ r, c.registry = .ok r ∧
      (r.entries ≠ [] ∧ (∀ e ∈ r.entries, e ∈ Registry.builtin.entries) ∧
        r.ids = if c.graph.languages = [] then Registry.builtin.ids
          else c.graph.languages.map Text.lowerAscii) ∧
      ∃ b, (Builder.ofRegistry r c.buildOptions).value = .ok b ∧ b.pool.loaded = r.entries ∧
        ∀ host fs root url e, (b.build host fs root url).value.1 = .error e ↔
          fs.isDirectory root = false ∧ e = .rootNotDirectory root) := by
  intro flaws
  have refusals : flaws = c.unknown.map refusal := c.languageFlaws_eq
  have heads : flaws.head? = c.unknown.head?.map refusal := by rw [refusals, List.head?_map]
  refine ⟨?_, ?_, by rw [refusals, List.length_map], ?_⟩
  · simp only [registry_eq_error]
    constructor
    · rintro ⟨f, language, first, -⟩ none
      rw [none, first] at heads
      contradiction
    · intro some
      have known : c.unknown ≠ [] := fun none => some (by rw [refusals, none, List.map_nil])
      obtain ⟨language, first⟩ := Option.isSome_iff_exists.mp (List.isSome_head?.mpr known)
      exact ⟨_, language, first, rfl⟩
  · intro f failed
    obtain ⟨language, first, message⟩ := registry_eq_error.mp failed
    rw [first] at heads
    exact ⟨language, first, message, heads⟩
  · intro valid
    have none : flaws = [] := by simp [flaws, valid]
    have known : c.unknown = [] := List.map_eq_nil_iff.mp (refusals.symm.trans none)
    obtain ⟨r, ok, some, builtin, ids⟩ := registry_of_known known
    -- A restricted registry has nothing but built-in entries, all of which can be loaded.
    have binds : ∀ e ∈ r.entries, e.binds = true := fun e member =>
      Registry.builtin_binds e (builtin e member)
    obtain ⟨b, made, loaded⟩ := Builder.ofRegistry_bound binds some c.buildOptions
    exact ⟨r, ok, ⟨some, builtin, ids⟩, b, made, loaded, fun host fs root url e =>
      Builder.build_eq_error host fs b root url e⟩

/-- The settings by default, but for the languages. -/
def ofLanguages (languages : List String) : Config where
  graph := { languages }

/-- A language listed twice, in capitals and not, passes; of several unknown ones the first is
named. -/
theorem validation_agrees_with_use_in_any_case :
    (∃ r b, (ofLanguages ["Rust", "python", "RUST"]).registry = .ok r ∧
      r.ids = ["rust", "python", "rust"] ∧
      (Builder.ofRegistry r (ofLanguages ["Rust", "python", "RUST"]).buildOptions).value = .ok b ∧
      ∀ host fs root url e, (b.build host fs root url).value.1 = .error e →
        fs.isDirectory root = false) ∧
    (ofLanguages ["Python", "cobol", "PASCAL", "c"]).registry =
      .error ⟨"Invalid [graph] languages", ["Unknown language: cobol"]⟩ := by
  have known : (ofLanguages ["Rust", "python", "RUST"]).unknown = [] := by decide
  have dirs : (ofLanguages ["Rust", "python", "RUST"]).invalidIgnoreDirs = [] := by
    simp [invalidIgnoreDirs, isOneName, ofLanguages]
  have flawless : (ofLanguages ["Rust", "python", "RUST"]).validate = [] := by
    rw [validate, invalidLanguages_eq, known, dirs]
    decide
  have unknown : (ofLanguages ["Python", "cobol", "PASCAL", "c"]).unknown =
      ["cobol", "PASCAL", "c"] := by decide
  constructor
  · obtain ⟨-, -, -, usable⟩ := validation_agrees_with_use (ofLanguages ["Rust", "python", "RUST"])
    obtain ⟨r, ok, ⟨-, -, ids⟩, b, made, -, fails⟩ := usable flawless
    exact ⟨r, b, ok, ids.trans (by decide), made, fun host fs root url e failed =>
      ((fails host fs root url e).mp failed).1⟩
  · obtain ⟨refused, named, count, -⟩ :=
      validation_agrees_with_use (ofLanguages ["Python", "cobol", "PASCAL", "c"])
    obtain ⟨f, failed⟩ := refused.mpr (List.ne_nil_of_length_pos (by rw [count, unknown]; decide))
    obtain ⟨language, first, rfl, -⟩ := named f failed
    rw [unknown] at first
    cases first
    exact failed

end CodeAtlas.Config
