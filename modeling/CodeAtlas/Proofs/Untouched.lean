import CodeAtlas.Proofs.Repeating
import CodeAtlas.Proofs.Unsaid

namespace CodeAtlas

open FileSystem

namespace Command

open Act

variable {host : Host} {c : Config} {dir : Option Path} {a : BuildArguments} {fs fs' : FileSystem}
  {f : Failure} {output : String}

/-- The root of a build, as a path without links where it leads anywhere. -/
def rootOf (c : Config) (dir : Option Path) (a : BuildArguments) (fs : FileSystem) : Path :=
  (fs.canonical? (a.path.getD (c.resolveRoot dir))).getD (a.path.getD (c.resolveRoot dir))

/-- Why a build breaks off before its graph is known: its settings are no settings for a build, its
languages are not there, no grammar of them can be loaded, or its root is no directory. -/
inductive Barred (c : Config) (dir : Option Path) (a : BuildArguments) (fs : FileSystem) : Failure → Prop where
  | settings (invalid : (settingsFor a c).validate ≠ []) :
    Barred c dir a fs
      { message := "Configuration has " ++ Nat.repr (settingsFor a c).validate.length ++ " error(s)" }
  | languages {f : Failure} (valid : (settingsFor a c).validate = []) (unknown : c.registry = .error f) :
    Barred c dir a fs f
  | grammars {r : Registry} {e : BuildError} (valid : (settingsFor a c).validate = [])
    (known : c.registry = .ok r)
    (unloaded : (Builder.ofRegistry r (settingsFor a c).buildOptions).value = .error e) :
    Barred c dir a fs (refused e)
  | root {r : Registry} {b : Builder} (valid : (settingsFor a c).validate = []) (known : c.registry = .ok r)
    (loaded : (Builder.ofRegistry r (settingsFor a c).buildOptions).value = .ok b)
    (astray : fs.isDirectory (rootOf c dir a fs) = false) :
    Barred c dir a fs (refused (.rootNotDirectory (rootOf c dir a fs)))

theorem checkSettings_ends {c : Config} (valid : c.validate = []) : Ends (checkSettings c) fs () fs "" := by
  refine (quiet_checkSettings c).ends ?_
  rw [checkSettings, valid]
  rfl

theorem checkSettings_fails {c : Config} (invalid : c.validate ≠ []) : Fails (checkSettings c) fs
    { message := "Configuration has " ++ Nat.repr c.validate.length ++ " error(s)" } fs "" := by
  rw [checkSettings]
  split
  · contradiction
  · exact (note_each _ _ _ _).fails ((Quiet.ofExcept _).fails rfl)

theorem canonical_ends (c : Config) (dir : Option Path) (a : BuildArguments) (fs : FileSystem) :
    Ends (canonical (a.path.getD (c.resolveRoot dir))) fs (rootOf c dir a fs) fs "" :=
  (quiet_canonical _).ends rfl

theorem Barred.fails (barred : Barred c dir a fs f) (host : Host) : Fails (runBuild host c dir a) fs f fs "" := by
  have rooted := canonical_ends c dir a fs
  cases barred with
  | settings invalid => exact (checkSettings_fails invalid).bind
  | languages valid unknown =>
    refine (checkSettings_ends valid).fails (Fails.bind (rooted.fails ?_))
    exact Fails.bind ((Quiet.ofExcept _).fails unknown)
  | grammars valid known unloaded =>
    refine (checkSettings_ends valid).fails (Fails.bind (rooted.fails ?_))
    refine ((Quiet.ofExcept _).ends known).fails (((Quiet.ofLogged _).ends (congrArg Except.ok unloaded)).fails ?_)
    exact Fails.bind ((Quiet.ofExcept _).fails rfl)
  | @root r b valid known loaded astray =>
    refine (checkSettings_ends valid).fails (Fails.bind (rooted.fails ?_))
    refine ((Quiet.ofExcept _).ends known).fails (((Quiet.ofLogged _).ends (congrArg Except.ok loaded)).fails ?_)
    refine ((Quiet.ofExcept _).ends rfl).fails (((Quiet.note _ _).ends rfl).fails ?_)
    refine (Quiet.files.ends rfl).fails (((Quiet.ofLogged _).ends rfl).fails ((Quiet.ofExcept _).fails ?_))
    have notBuilt (url : String) : (b.build host fs (rootOf c dir a fs) url).value.1 =
        .error (.rootNotDirectory (rootOf c dir a fs)) := by
      rw [Builder.build, astray]
      rfl
    exact congrArg (Except.mapError refused) (notBuilt _)

/-- A build that nothing bars has its graph. -/
theorem barred_or_built (host : Host) (c : Config) (dir : Option Path) (a : BuildArguments) (fs : FileSystem) :
    (∃ f, Barred c dir a fs f) ∨ (settingsFor a c).validate = [] ∧
      ∃ g report, Ends (buildGraph host (settingsFor a c) dir a) fs (g, report) fs "" := by
  by_cases valid : (settingsFor a c).validate = []
  · cases registry : c.registry with
    | error f => exact .inl ⟨f, .languages valid registry⟩
    | ok r =>
      cases made : (Builder.ofRegistry r (settingsFor a c).buildOptions).value with
      | error e => exact .inl ⟨_, .grammars valid registry made⟩
      | ok b =>
        cases isDirectory : fs.isDirectory (rootOf c dir a fs) with
        | false => exact .inl ⟨_, .root valid registry made isDirectory⟩
        | true =>
          obtain ⟨base, found⟩ := find_of_isDirectory isDirectory
          have builds : Builds c dir a fs b (rootOf c dir a fs) base :=
            ⟨⟨r, registry, made⟩, canonical_of_isDirectory isDirectory, found⟩
          exact .inr ⟨valid, _, _, ends_buildGraph builds (Builder.build_made made host _ isDirectory)⟩
  · exact .inl ⟨_, .settings valid⟩

theorem Builds.unbarred {b : Builder} {root : Path} {base : Place} (builds : Builds c dir a fs b root base)
    (valid : (settingsFor a c).validate = []) : ¬Barred c dir a fs f := by
  obtain ⟨r, registry, made⟩ := builds.made
  intro barred
  cases barred with
  | settings invalid => exact invalid valid
  | languages _ unknown => rw [registry] at unknown; contradiction
  | grammars _ known unloaded =>
    rw [registry] at known
    cases known
    rw [made] at unloaded
    contradiction
  | root _ _ _ astray =>
    rw [rootOf, builds.canonical] at astray
    exact Bool.false_ne_true (astray.symm.trans builds.isDirectory)

/-- What a build says whose document cannot be written. -/
inductive Unwritten (p : Path) : Failure → Prop where
  | directory {above : Path} {e : FileError} (above_eq : p.parent? = some above) :
    Unwritten p ⟨"Failed to create output directory: " ++ above.display, [e.message]⟩
  | document (e : DocumentError) : Unwritten p (DocumentError.failure ("Failed to write graph: " ++ p.display) e)

theorem makeDirectoryOf_fails {p : Path} (fails : Fails (makeDirectoryOf p) fs f fs' output) : Unwritten p f := by
  rw [makeDirectoryOf] at fails
  split at fails
  · have value := fails.value
    contradiction
  · rename_i above parent
    obtain ⟨e, rfl⟩ := error_of_mapError (change_fails fails)
    exact .directory parent

theorem writeGraph_fails {g : Graph} {p : Path} {pretty : Bool}
    (fails : Fails (writeGraph g p pretty) fs f fs' output) : Unwritten p f := by
  rcases bind_fails fails with making | ⟨_, between, _, _, _, rest, _⟩
  · exact makeDirectoryOf_fails making
  · rcases bind_fails rest with writing | ⟨_, after, _, _, _, noting, _⟩
    · obtain ⟨e, rfl⟩ := error_of_mapError (change_fails writing)
      exact .document e
    · have value := noting.value
      contradiction

section
variable (valid : (settingsFor a c).validate = []) {g : Graph} {report : BuildReport}
  (built : Ends (buildGraph host (settingsFor a c) dir a) fs (g, report) fs "")

include valid built

theorem runBuild_prints (printed : a.stdout = true) :
    Ends (runBuild host c dir a) fs () fs (g.toText c.output.pretty ++ "\n") := by
  refine (checkSettings_ends valid).bind (built.bind ((note_each _ _ _ _).bind ?_))
  refine ((Quiet.note _ _).ends rfl).bind ?_
  rw [if_pos printed]
  exact ⟨rfl, rfl, rfl⟩

/-- A build that has its graph can fail only where it writes it. -/
theorem runBuild_fails (fails : Fails (runBuild host c dir a) fs f fs' output) :
    a.stdout = false ∧ Unwritten (documentPath c dir a) f := by
  have delivering := ((fails.rest (checkSettings_ends valid)).rest built).rest (note_each _ _ _ _)
  have delivering := delivering.rest ((Quiet.note _ _).ends rfl)
  dsimp only at delivering
  split at delivering
  · have value := delivering.value
    contradiction
  · rename_i unprinted
    exact ⟨by simpa using unprinted, writeGraph_fails delivering⟩

end

end Command

namespace Run

open Command

variable {s : Surroundings} {line : CommandLine} {a : BuildArguments} {c : Config} {dir : Option Path}
  {fs fs' : FileSystem}

/-- A file reads as it did, unless it is where the log is written to. -/
theorem OnlyLogs.read (logged : OnlyLogs s c dir fs fs') {p : Path} {q : Place} {content : Bytes}
    (found : fs.find true p = .ok (q, some (.file content)))
    (apart : ∀ log ∈ logFiles s c dir, ¬fs'.LeadsTo log q) : fs'.read p = .ok content := by
  have spared : ¬∃ log ∈ logFiles s c dir, fs'.LeadsTo log q := by
    rintro ⟨log, member, leads⟩
    exact apart log member leads
  rw [read_of_find (logged.find_file found spared)]
  rfl

/-- A tree is left as it was, but for the log of a run where one is kept. -/
structure Spared (s : Surroundings) (c : Config) (dir : Option Path) (fs fs' : FileSystem) : Prop where
  logs : OnlyLogs s c dir fs fs'
  unlogged : c.logging.dir = none → fs' = fs
  reads : ∀ p q content, fs.find true p = .ok (q, some (.file content)) →
    (∀ log ∈ logFiles s c dir, ¬fs'.LeadsTo log q) → fs'.read p = .ok content

/-- A run has written a file, and then at most its log. -/
def Wrote (s : Surroundings) (c : Config) (dir : Option Path) (p : Path) (content : Bytes) (r : RunResult) : Prop :=
  ∃ left q, left.find true p = .ok (q, some (.file content)) ∧ OnlyLogs s c dir left r.files ∧
    ((∀ log ∈ logFiles s c dir, ¬r.files.LeadsTo log q) → r.files.read p = .ok content)

theorem spared_of_opened (s : Surroundings) (c : Config) (dir : Option Path) (fs : FileSystem) :
    Spared s c dir fs (opened s c dir fs) where
  logs := opened_onlyLogs s c dir fs
  unlogged := opened_of_none
  reads _ _ _ := (opened_onlyLogs s c dir fs).read

theorem spared_of_still (s : Surroundings) (c : Config) (dir : Option Path) (fs : FileSystem)
    (records : List LogRecord) : Spared s c dir fs (closed s c dir fs records (opened s c dir fs)) where
  logs := onlyLogs_of_still records
  unlogged none := (closed_of_none none records _).trans (opened_of_none none)
  reads _ _ _ := (onlyLogs_of_still records).read

theorem broken_command (loaded : loadConfig fs line.config = .ok (c, dir)) (broken : ¬LogOpens s c dir fs) :
    (command s line fs).exit = 101 ∧ (command s line fs).output = "" ∧
      Spared s c dir fs (command s line fs).files := by
  rw [command_broken loaded broken]
  exact ⟨rfl, rfl, spared_of_opened s c dir fs⟩

section
variable (isBuild : line.command = .build a) (loaded : loadConfig fs line.config = .ok (c, dir))
  (opens : LogOpens s c dir fs)

include isBuild loaded opens

theorem barred_command {f : Failure} (barred : Barred c dir a (opened s c dir fs) f) :
    (command s line fs).exit = 1 ∧ (command s line fs).error = some (errorText f) ∧
      Spared s c dir fs (command s line fs).files := by
  have fails := barred.fails s.host
  obtain ⟨exit, error, records, files⟩ := fails_command loaded opens isBuild fails
  exact ⟨exit, error, files ▸ spared_of_still s c dir fs records⟩

theorem printed_command (valid : (settingsFor a c).validate = []) {g : Graph} {report : BuildReport}
    (built : Act.Ends (buildGraph s.host (settingsFor a c) dir a) (opened s c dir fs) (g, report)
      (opened s c dir fs) "") (printed : a.stdout = true) :
    (command s line fs).exit = 0 ∧ (command s line fs).output = g.toText c.output.pretty ++ "\n" ∧
      Spared s c dir fs (command s line fs).files := by
  have ends := runBuild_prints valid built printed
  obtain ⟨exit, output, records, files⟩ := ends_command loaded opens isBuild ends
  exact ⟨exit, output, files ▸ spared_of_still s c dir fs records⟩

theorem written_command (valid : (settingsFor a c).validate = []) {g : Graph} {report : BuildReport}
    (built : Act.Ends (buildGraph s.host (settingsFor a c) dir a) (opened s c dir fs) (g, report)
      (opened s c dir fs) "") (unprinted : a.stdout = false) :
    ((command s line fs).exit = 0 ∧ Wrote s c dir (documentPath c dir a)
      (Text.encode (g.toText c.output.pretty)) (command s line fs)) ∨
      (command s line fs).exit = 1 ∧
        ∃ f, Unwritten (documentPath c dir a) f ∧ (command s line fs).error = some (errorText f) := by
  rcases Act.ends_or_fails (runBuild s.host c dir a) (opened s c dir fs) with ⟨_, ends⟩ | ⟨f, fails⟩
  · obtain ⟨exit, _, records, files⟩ := ends_command loaded opens isBuild ends
    obtain ⟨g', report', built', delivers⟩ := runBuild_ends ends
    have same : (g', report') = (g, report) := Except.ok.inj (built'.value.symm.trans built.value)
    cases same
    obtain ⟨place, found⟩ := delivers.written unprinted
    have logged : OnlyLogs s c dir _ (command s line fs).files := files ▸ closed_onlyLogs s c dir fs records _
    exact .inl ⟨exit, _, place, found, logged, logged.read found⟩
  · obtain ⟨exit, error, _⟩ := fails_command loaded opens isBuild fails
    exact .inr ⟨exit, f, (runBuild_fails valid built fails).2, error⟩

end

/-- A build that breaks off before its graph is known, or that prints it, changes nothing but the log of
the run; one that is printed fails for no other reason, and prints what it would write. Where the log
cannot be opened the run ends there. -/
theorem build_spares_files_before_writing {words : List String}
    (parsed : Arguments.parse (s.lookUp? "CODESKEL_REPO_URL") words = .ok line)
    (isBuild : line.command = .build a) (fs : FileSystem) :
    let r := Run.words s words fs
    let r' := Run.words s (words.filter (· ≠ "--stdout")) fs
    (∀ f, loadConfig fs line.config = .error f →
      r.exit = 1 ∧ r.error = some (errorText f) ∧ r.files = fs) ∧
    ∀ c dir, loadConfig fs line.config = .ok (c, dir) →
      (¬LogOpens s c dir fs → r.exit = 101 ∧ r.output = "") ∧
      (LogOpens s c dir fs →
        ∀ f, Barred c dir a (opened s c dir fs) f → r.exit = 1 ∧ r.error = some (errorText f)) ∧
      (¬LogOpens s c dir fs ∨ (∃ f, Barred c dir a (opened s c dir fs) f) ∨ a.stdout = true →
        Spared s c dir fs r.files) ∧
      (r.exit ≠ 0 → ¬LogOpens s c dir fs ∨ (∃ f, Barred c dir a (opened s c dir fs) f) ∨
        a.stdout = false ∧ ∃ f, Unwritten (documentPath c dir a) f ∧ r.error = some (errorText f)) ∧
      (a.stdout = true → r.exit = 0 → ∃ text, r.output = text ++ "\n" ∧
        (r'.exit = 0 ∧ Wrote s c dir (documentPath c dir a) (Text.encode text) r' ∨
          r'.exit = 1 ∧ ∃ f, Unwritten (documentPath c dir a) f ∧ r'.error = some (errorText f))) := by
  intro r r'
  have isRun : r = command s line fs := words_of_parsed parsed
  have isRun' : r' = command s { line with command := .build { a with stdout := false } } fs :=
    words_of_parsed (Arguments.parse_unsaid parsed isBuild)
  rw [isRun, isRun']
  refine ⟨fun f unloaded => unloaded_command unloaded, fun c dir loaded => ?_⟩
  by_cases opens : LogOpens s c dir fs
  case neg =>
    obtain ⟨exit, silent, spared⟩ := broken_command loaded opens
    refine ⟨fun _ => ⟨exit, silent⟩, fun isOpen => absurd isOpen opens, fun _ => spared,
      fun _ => .inl opens, fun _ succeeds => ?_⟩
    rw [exit] at succeeds
    contradiction
  refine ⟨fun broken => absurd opens broken, fun _ f barred =>
    (barred_command isBuild loaded opens barred).imp_right And.left, ?_⟩
  rcases barred_or_built s.host c dir a (opened s c dir fs) with ⟨f, barred⟩ | ⟨valid, g, report, built⟩
  · obtain ⟨exit, _, spared⟩ := barred_command isBuild loaded opens barred
    refine ⟨fun _ => spared, fun _ => .inr (.inl ⟨f, barred⟩), fun _ succeeds => ?_⟩
    rw [exit] at succeeds
    contradiction
  · refine ⟨?_, fun fails => ?_, fun printed _ => ?_⟩
    · rintro (broken | ⟨f, barred⟩ | printed)
      · exact absurd opens broken
      · exact (barred_command isBuild loaded opens barred).2.2
      · exact (printed_command isBuild loaded opens valid built printed).2.2
    · cases unprinted : a.stdout with
      | true => exact absurd (printed_command isBuild loaded opens valid built unprinted).1 fails
      | false =>
        rcases written_command isBuild loaded opens valid built unprinted with
          ⟨exit, _⟩ | ⟨_, f, unwritten, error⟩
        · exact absurd exit fails
        · exact .inr (.inr ⟨rfl, f, unwritten, error⟩)
    · refine ⟨_, (printed_command isBuild loaded opens valid built printed).2.1, ?_⟩
      have isBuild' : ({ line with command := .build { a with stdout := false } } : CommandLine).command =
        .build { a with stdout := false } := rfl
      exact written_command isBuild' loaded opens valid built rfl

theorem build_spares_document_of_directory :
    let s : Surroundings := { today := "" }
    let files := insideFiles (some (Text.encode "kept"))
    let printed := Run.words s ["build", "--stdout"] files
    let written := Run.words s ["build"] files
    let astray := Run.words s ["build", "--path", "nowhere"] files
    astray.exit = 1 ∧ astray.error = some "Error: Not a directory: nowhere" ∧ astray.files = files ∧
      printed.exit = 0 ∧ printed.files = files ∧ ∃ text, printed.output = text ++ "\n" ∧
        written.files.read (.ofString "skeleton_graph.json") = .ok (Text.encode text) := by
  intro s files printed written astray
  have loaded : loadConfig files none = .ok ({}, none) := sample_inside.settings _
  have parsed : Arguments.parse (s.lookUp? "CODESKEL_REPO_URL") ["build", "--stdout"] =
      .ok { command := .build { stdout := true } } := by rfl
  have parsed' : Arguments.parse (s.lookUp? "CODESKEL_REPO_URL") ["build", "--path", "nowhere"] =
      .ok { command := .build { path := some (.ofString "nowhere") } } := by rfl
  obtain ⟨_, forPrinted⟩ := build_spares_files_before_writing parsed rfl files
  have opens : LogOpens s {} none files := logOpens_of_none rfl
  obtain ⟨_, _, spared, fails, prints⟩ := forPrinted {} none loaded
  obtain ⟨_, forAstray⟩ := build_spares_files_before_writing parsed' rfl files
  obtain ⟨_, bars, spared', _⟩ := forAstray {} none loaded
  have leadsNowhere : files.canonical? (.ofString "nowhere") = none := by cbv
  have root : rootOf {} none { path := some (.ofString "nowhere") } files = .ofString "nowhere" := by
    rw [rootOf, Option.getD_some, leadsNowhere, Option.getD_none]
  have missing : files.isDirectory (rootOf {} none { path := some (.ofString "nowhere") } files) = false := by
    rw [root]
    cbv
  have barred : Barred {} none { path := some (.ofString "nowhere") } files _ :=
    .root sample_inside.valid rfl plainBuilder_made missing
  rw [root] at barred
  have builds : Builds {} none { stdout := true } files plainBuilder (.ofString "/") [] := by
    obtain ⟨made, canonical, found⟩ := sample_inside.builds (some (Text.encode "kept"))
    exact ⟨made, canonical, found⟩
  have exit : printed.exit = 0 := by
    by_contra failed
    rcases fails failed with broken | ⟨_, barred⟩ | ⟨unprinted, _⟩
    · exact broken opens
    · exact builds.unbarred sample_inside.valid barred
    · contradiction
  have unsaid : ["build", "--stdout"].filter (· ≠ "--stdout") = ["build"] := by decide
  rw [unsaid] at prints
  have exit' : written.exit = 0 := (sample_inside.build s _).1
  obtain ⟨failed, error⟩ := bars opens _ barred
  have told : errorText (refused (.rootNotDirectory (.ofString "nowhere"))) =
      "Error: Not a directory: nowhere" := by
    decide +kernel
  have still : printed.files = files := (spared (.inr (.inr rfl))).unlogged rfl
  have still' : astray.files = files := (spared' (.inr (.inl ⟨_, barred⟩))).unlogged rfl
  refine ⟨failed, error.trans (congrArg some told), still', exit, still, ?_⟩
  obtain ⟨text, output, ⟨_, _, _, _, _, reads⟩ | ⟨failed', _⟩⟩ := prints rfl exit
  · exact ⟨text, output, reads fun _ none => absurd none List.not_mem_nil⟩
  · exact absurd (exit'.symm.trans failed') (by decide)

end Run

end CodeAtlas
