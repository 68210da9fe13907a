import CodeAtlas.Proofs.Containment
import CodeAtlas.Proofs.History

namespace CodeAtlas

/-- A parser that does not go on with another text makes a tree of its own language. -/
theorem Parser.parse_eq_some {clock : Clock} {p : Parser} (idle : p.suspended = none)
    {text : String} {source : Source} {parsed : Parsed}
    (made : (p.parse clock text).1 = some (source, parsed)) :
    source = Source.ofString text ∧
      ∃ grammar, p.language.load = .ok grammar ∧ grammar.tree? source = some parsed := by
  rw [parse, idle, Option.getD_none] at made
  split at made
  · contradiction
  · cases load : p.language.load with
    | error reason => simp [load] at made
    | ok grammar =>
      simp only [load, Option.map_eq_some_iff, Prod.mk.injEq] at made
      obtain ⟨tree, grown, rfl, rfl⟩ := made
      exact ⟨rfl, grammar, rfl, grown⟩

namespace Pool

/-- What a pool answers to a file in a language it has, and when. -/
inductive Reply (fs : FileSystem) (pool : Pool) (p : Path) (e : LanguageEntry) :
    Except ParseError ParsedUnit → Prop
  | unread {reason} (unread : fs.read p = .error reason) : Reply fs pool p e (.error (.read reason))
  | notText {content} (read : fs.read p = .ok content) (noText : Text.decode? content = none) :
      Reply fs pool p e (.error .invalidEncoding)
  | timeout {content text ns} (read : fs.read p = .ok content)
      (isText : Text.decode? content = some text) (limited : pool.timeout = some ns) :
      Reply fs pool p e (.error (.timeout ns))
  | parseFailed {content text} (read : fs.read p = .ok content)
      (isText : Text.decode? content = some text) (unlimited : pool.timeout = none) :
      Reply fs pool p e (.error .parseFailed)
  | parsed {content text grammar tree} (read : fs.read p = .ok content)
      (isText : Text.decode? content = some text) (loads : e.language.load = .ok grammar)
      (grown : grammar.tree? (Source.ofString text) = some tree) :
      Reply fs pool p e (.ok ⟨e, text, Source.ofString text, tree⟩)

variable {fs : FileSystem} {pool : Pool} {p : Path} {e : LanguageEntry}

theorem Reply.supported {answer : Except ParseError ParsedUnit} (reply : Reply fs pool p e answer)
    (ext : String) : answer ≠ .error (.unsupportedExtension ext) := by
  cases reply <;> simp

theorem parseFile_reply {ext : String} {parser : Parser} (extension : textExtension? p = some ext)
    (found : pool.parserFor ext = some (parser, e)) (idle : parser.suspended = none)
    (own : parser.language = e.language) (clock : Clock) (fs : FileSystem) :
    Reply fs pool p e (pool.parseFile clock fs p).value.1 := by
  obtain ⟨i, place, _⟩ := parserFor_eq_some.mp found
  have supports : pool.supportsExtension ext = true := by rw [supportsExtension, place]; rfl
  simp only [parseFile, extension, Option.getD_some, supports, Bool.not_true, Bool.false_eq_true,
    if_false]
  cases read : fs.read p with
  | error reason => exact .unread read
  | ok content =>
    dsimp only
    cases isText : Text.decode? content with
    | none => exact .notText read isText
    | some text =>
      simp only [Logged.value_bind, Logged.value_pure, parseText, place, found]
      split
      · rename_i source tree after run
        have made : (parser.parse clock text).1 = some (source, tree) := congrArg Prod.fst run
        obtain ⟨rfl, grammar, loads, grown⟩ := parser.parse_eq_some idle made
        exact .parsed read isText (own ▸ loads) grown
      · cases limit : pool.timeout with
        | some ns => exact .timeout read isText limit
        | none => exact .parseFailed read isText limit

/-- A path without an extension and one with the empty extension come to the same. -/
theorem supportsPath_eq (unclaimed : pool.supportsExtension "" = false) (p : Path) :
    pool.supportsPath p = pool.supportsExtension ((textExtension? p).getD "") := by
  rw [supportsPath]
  cases textExtension? p with
  | none => rw [Option.any_none, Option.getD_none, unclaimed]
  | some ext => rfl

theorem parseFile_unsupported (unclaimed : pool.supportsExtension "" = false)
    (unsupported : pool.supportsPath p = false) (clock : Clock) (fs : FileSystem) :
    pool.parseFile clock fs p =
      pure (.error (.unsupportedExtension ((textExtension? p).getD "")), pool) := by
  rw [supportsPath_eq unclaimed] at unsupported
  simp only [parseFile, unsupported, Bool.not_false, if_true]

/-- The parsers of a fresh pool are in the languages of their entries, and have done nothing. -/
theorem fresh_parserFor {r : Registry} {limit : Option Nat} {ext : String} {parser : Parser}
    (found : (fresh r limit).parserFor ext = some (parser, e)) :
    parser = { language := e.language, limit := limitOf limit } := by
  rw [fresh, load_value, parserFor_eq_some] at found
  obtain ⟨i, _, atParser, atEntry⟩ := found
  rw [withTimeout, List.getElem?_map, Option.map_eq_some_iff] at atParser
  obtain ⟨unlimited, atUnlimited, rfl⟩ := atParser
  obtain ⟨inside, rfl⟩ := List.getElem?_eq_some_iff.mp atEntry
  obtain ⟨parserInside, rfl⟩ := List.getElem?_eq_some_iff.mp atUnlimited
  have bound := bind_eq_ok ((ofEntries_indexed r.entries).aligned.get inside parserInside)
  exact congrArg (fun parser : Parser => { parser with limit := limitOf limit }) bound

theorem fresh_served (r : Registry) (limit : Option Nat) : (fresh r limit).Served := by
  rw [fresh, load_value]
  exact withTimeout_served (ofEntries_served r.entries) limit

theorem fresh_unclaimed {r : Registry} (unclaimed : ∀ e ∈ r.entries, "" ∉ e.extensions)
    (limit : Option Nat) : (fresh r limit).supportsExtension "" = false := by
  have handled (e : LanguageEntry) (member : e ∈ r.entries) : e.handles "" = false := by
    rw [LanguageEntry.handles, List.any_eq_false]
    intro ext claimed same
    have lower : Text.lowerAscii ext = Text.lowerAscii "" := by
      rw [← beq_iff_eq, Text.lowerAscii_beq]
      exact same
    have empty : ext = "" := by
      have chars := congrArg String.toList lower
      simpa [Text.lowerAscii] using chars
    exact unclaimed e member (empty ▸ claimed)
  have nowhere : (load r).value.place? "" = none := by
    rw [load_value, (ofEntries_indexed r.entries).place?, List.findIdx?_eq_none_iff,
      ofEntries_loaded]
    exact fun e member => handled e (List.mem_filter.mp member).1
  have same : (fresh r limit).place? "" = (load r).value.place? "" := rfl
  rw [supportsExtension, same, nowhere]
  rfl

/-- What a reachable pool does with a path is told by whether it supports it. -/
theorem Reachable.parseFile {r : Registry} {limit : Option Nat} (reach : Reachable r limit pool)
    (unclaimed : ∀ e ∈ r.entries, "" ∉ e.extensions) (p : Path) :
    (pool.supportsPath p = false → ∀ clock fs, pool.parseFile clock fs p =
      pure (.error (.unsupportedExtension ((textExtension? p).getD "")), pool)) ∧
    (pool.supportsPath p = true → ∃ ext parser e, textExtension? p = some ext ∧
      pool.parserFor ext = some (parser, e) ∧ parser.language = e.language ∧
      ∀ clock fs, Reply fs pool p e (pool.parseFile clock fs p).value.1) := by
  obtain ⟨skipped, rfl⟩ := reach.fresh
  have nowhere : { Pool.fresh r limit with skipped }.supportsExtension "" = false :=
    fresh_unclaimed unclaimed limit
  refine ⟨fun unsupported => parseFile_unsupported nowhere unsupported, fun supports => ?_⟩
  obtain ⟨ext, extension, supported⟩ := (Option.any_eq_true _ _).mp supports
  obtain ⟨⟨parser, e⟩, found⟩ :=
    Option.isSome_iff_exists.mp (fresh_served r limit ext supported)
  have own := fresh_parserFor found
  have language : parser.language = e.language := by rw [own]
  exact ⟨ext, parser, e, extension, found, language,
    parseFile_reply extension found (by rw [own]) language⟩

end Pool

/-- No source is left out of a graph for its extension. -/
theorem Visit.skipped_supported {r : Registry} {options : BuildOptions} {b : Builder}
    (made : (Builder.ofRegistry r options).value = .ok b) {v : Visit} {g : Graph}
    {report : BuildReport} (answer : (v.run b).1 = .ok (g, report)) {failure : SkippedFile}
    (member : failure ∈ report.skippedFiles) (ext : String) :
    failure.error ≠ .unsupportedExtension ext := by
  have served : b.pool.Served := by
    rw [Builder.ofRegistry_pool made]
    exact Pool.fresh_served r options.parseTimeout
  cases isDirectory : v.fs.isDirectory v.root with
  | false =>
    have refused := (Builder.build_eq_error v.host v.fs b v.root v.url _).mpr ⟨isDirectory, rfl⟩
    cases refused.symm.trans answer
  | true =>
    have built := (Builder.build_made made v.host v.url isDirectory).symm.trans answer
    rw [Builder.merge_value] at built
    cases built
    have each := Builder.skipped_perm b v.host.clock v.fs v.root
    obtain ⟨e, _, fails⟩ := List.mem_map.mp (each.mem_iff.mp (List.mem_map_of_mem member))
    exact Builder.failure?_supported served fails ext

/-- The filter of a walk and the parsing of a file agree on what is supported: builds leave no file
out for its extension; and where no language claims the empty extension, a pool refuses a path by
its extension exactly if it does not support it, whatever file is there, and otherwise reads the
file and parses it in the language it finds for the extension. -/
theorem support_agrees :
    (∀ r options b, (Builder.ofRegistry r options).value = .ok b → ∀ visits g report,
      .ok (g, report) ∈ b.answers visits → ∀ failure ∈ report.skippedFiles, ∀ ext,
        failure.error ≠ .unsupportedExtension ext) ∧
    ∀ r limit pool, Pool.Reachable r limit pool → (∀ e ∈ r.entries, "" ∉ e.extensions) → ∀ p,
      (∀ clock fs, (∃ ext, (pool.parseFile clock fs p).value.1 =
        .error (.unsupportedExtension ext)) ↔ pool.supportsPath p = false) ∧
      (pool.supportsPath p = false → ∀ clock fs, pool.parseFile clock fs p =
        pure (.error (.unsupportedExtension ((Pool.textExtension? p).getD "")), pool)) ∧
      (pool.supportsPath p = true → ∃ ext parser e, Pool.textExtension? p = some ext ∧
        pool.parserFor ext = some (parser, e) ∧ parser.language = e.language ∧
        ∀ clock fs, Pool.Reply fs pool p e (pool.parseFile clock fs p).value.1) := by
  constructor
  · intro r options b made visits g report member failure skipped
    have idle : b.pool.Idle := by
      rw [Builder.ofRegistry_pool made]
      exact Pool.fresh_idle r options.parseTimeout
    rw [Builder.answers_of_idle idle] at member
    obtain ⟨v, _, answer⟩ := List.mem_map.mp member
    exact Visit.skipped_supported made answer skipped
  · intro r limit pool reach unclaimed p
    obtain ⟨refused, taken⟩ := reach.parseFile unclaimed p
    refine ⟨fun clock fs => ⟨fun ⟨ext, unsupported⟩ => ?_, fun unsupported => ?_⟩, refused, taken⟩
    · rw [← Bool.not_eq_true]
      intro supports
      obtain ⟨_, _, _, _, _, _, reply⟩ := taken supports
      exact (reply clock fs).supported ext unsupported
    · rw [refused unsupported]
      exact ⟨_, rfl⟩

/-- An extension in other letters behind two points, against a leading point, a trailing point and
an extension that is no text; and a build that leaves a file out. -/
theorem support_agrees_for_pointed_names :
    let python : LanguageEntry := ⟨"python", ["pY"], [], "name", "call", "function", .python⟩
    let r : Registry := ⟨[python]⟩
    let pool := (Pool.load r).value
    let b : Builder := ⟨pool, {}⟩
    let fs : FileSystem := ⟨.directory [(Text.encode "a.py", .file [0xff])], []⟩
    let visit : Visit := ⟨{}, fs, ⟨[Path.slash]⟩, "repo"⟩
    let script := Path.ofString "a.b.PY"
    (Builder.ofRegistry r {}).value = .ok b ∧
      (∃ g report, .ok (g, report) ∈ b.answers [visit] ∧
        report.skippedFiles = [⟨"a.py", .invalidEncoding⟩] ∧
        ∀ failure ∈ report.skippedFiles, ∀ ext, failure.error ≠ .unsupportedExtension ext) ∧
      Pool.Reachable r none pool ∧ (∀ e ∈ r.entries, "" ∉ e.extensions) ∧
      (∀ p ∈ [.ofString ".py", .ofString "a.", ⟨[0x61, Path.point, 0xff]⟩],
        pool.supportsPath p = false ∧ ∀ clock fs, pool.parseFile clock fs p =
          pure (.error (.unsupportedExtension ((Pool.textExtension? p).getD "")), pool)) ∧
      pool.supportsPath script = true ∧
      ∀ clock fs, Pool.Reply fs pool script python (pool.parseFile clock fs script).value.1 := by
  intro python r pool b fs visit script
  have made : (Builder.ofRegistry r {}).value = .ok b := by rfl
  have reach : Pool.Reachable r none pool := .load r
  have unclaimed : ∀ e ∈ r.entries, "" ∉ e.extensions := by decide
  obtain ⟨builds, pools⟩ := support_agrees
  have files := pools r none pool reach unclaimed
  refine ⟨made, ?_, reach, unclaimed, fun p member => ?_, by decide +kernel, fun clock fs' => ?_⟩
  · let e : Entry := ⟨[], Text.encode "a.py", .file [0xff]⟩
    have met : b.met fs visit.root = [e] := by cbv
    have isSource : (Listing.sourceOf? fs pool visit.root e).isSome = true := by decide +kernel
    have relative : Walk.relative visit.root (e.path visit.root) = "a.py" := by cbv
    have read : fs.read (e.path visit.root) = .ok [0xff] := by cbv
    have fails : b.failure? visit.host.clock fs visit.root e =
        some ⟨"a.py", .invalidEncoding⟩ := by
      have extension : Pool.textExtension? (e.path visit.root) = some "py" := by cbv
      have supported : pool.supportsExtension "py" = true := by rfl
      have noText : Text.decode? [0xff] = none := by cbv
      refine Builder.failure?_eq_some.mpr ⟨isSource, relative.symm, ?_⟩
      simp [Pool.parseFile, b, extension, supported, read, noText]
    have isDirectory : fs.isDirectory visit.root = true := by cbv
    have all := Builder.failing_of_met met fails (List.forall_mem_nil _)
    obtain ⟨⟨g, report⟩, answer, skipped, _⟩ :=
      Builder.build_of_failing made visit.host visit.url isDirectory all fails
    have member : .ok (g, report) ∈ b.answers [visit] := List.mem_singleton.mpr answer.symm
    exact ⟨g, report, member, skipped, builds r {} b made [visit] g report member⟩
  · have refused : pool.supportsPath p = false := by
      revert p
      decide +kernel
    exact ⟨refused, (files p).2.1 refused⟩
  · obtain ⟨ext, parser, e, extension, found, _, reply⟩ := (files script).2.2 (by decide +kernel)
    have spelled : Pool.textExtension? script = some "PY" := by decide +kernel
    cases spelled.symm.trans extension
    have own : pool.parserFor "PY" = some ({ language := .python }, python) := by rfl
    cases own.symm.trans found
    exact reply clock fs'

end CodeAtlas
