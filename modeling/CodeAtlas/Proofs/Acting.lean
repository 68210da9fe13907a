import CodeAtlas.Proofs.Containment
import CodeAtlas.Proofs.Framing

namespace CodeAtlas

namespace Act

variable {α β : Type}

/-- A step comes to its end: with what, and with which files and which text printed. -/
structure Ends (x : Act α) (fs : FileSystem) (a : α) (fs' : FileSystem) (output : String) : Prop where
  value : (x fs).value = .ok a
  files : (x fs).files = fs'
  output : (x fs).output = output

/-- A step breaks off: why, and with which files and which text printed. -/
structure Fails (x : Act α) (fs : FileSystem) (f : Failure) (fs' : FileSystem) (output : String) : Prop where
  value : (x fs).value = .error f
  files : (x fs).files = fs'
  output : (x fs).output = output

variable {fs fs' : FileSystem} {output : String}

theorem Ends.of_value {x : Act α} {a : α} (done : (x fs).value = .ok a) :
    Ends x fs a (x fs).files (x fs).output :=
  ⟨done, rfl, rfl⟩

theorem ends_or_fails (x : Act α) (fs : FileSystem) :
    (∃ a, Ends x fs a (x fs).files (x fs).output) ∨ ∃ f, Fails x fs f (x fs).files (x fs).output := by
  cases value : (x fs).value with
  | ok a => exact .inl ⟨a, value, rfl, rfl⟩
  | error f => exact .inr ⟨f, value, rfl, rfl⟩

theorem bind_ends {x : Act α} {f : α → Act β} {b : β} (ends : Ends (x >>= f) fs b fs' output) :
    ∃ a between first second, Ends x fs a between first ∧ Ends (f a) between b fs' second ∧
      output = first ++ second := by
  obtain ⟨value, files, printed⟩ := ends
  simp only [bind] at value files printed
  cases first : (x fs).value with
  | error e => simp [first] at value
  | ok a =>
    simp only [first] at value files printed
    exact ⟨a, _, _, _, .of_value first, ⟨value, files, rfl⟩, printed.symm⟩

/-- Changes no file and prints nothing. -/
def Quiet (x : Act α) : Prop :=
  ∀ fs, (x fs).files = fs ∧ (x fs).output = ""

theorem Quiet.pure (a : α) : Quiet (pure a) := fun _ => ⟨rfl, rfl⟩

theorem Quiet.files : Quiet files := fun _ => ⟨rfl, rfl⟩

theorem Quiet.note (level : Level) (message : String) : Quiet (note level message) := fun _ => ⟨rfl, rfl⟩

theorem Quiet.ofExcept (r : Except Failure α) : Quiet (ofExcept r) := fun _ => ⟨rfl, rfl⟩

theorem Quiet.ofLogged (x : Logged α) : Quiet (ofLogged x) := fun _ => ⟨rfl, rfl⟩

theorem Quiet.bind {x : Act α} {f : α → Act β} (first : Quiet x) (second : ∀ a, Quiet (f a)) :
    Quiet (x >>= f) := by
  intro fs
  obtain ⟨files, printed⟩ := first fs
  simp only [Bind.bind]
  cases (x fs).value with
  | error e => exact ⟨files, printed⟩
  | ok a =>
    obtain ⟨files', printed'⟩ := second a (x fs).files
    exact ⟨files'.trans files, by simp only [printed, printed', String.append_empty]⟩

theorem Quiet.forM {f : α → Act PUnit} (each : ∀ a, Quiet (f a)) (l : List α) : Quiet (l.forM f) := by
  induction l with
  | nil => exact .pure _
  | cons a l ih => exact (each a).bind fun _ => ih

/-- A quiet step hands on what it came to, and nothing else. -/
theorem Quiet.next {x : Act α} (quiet : Quiet x) {f : α → Act β} {b : β}
    (ends : Ends (x >>= f) fs b fs' output) : ∃ a, Ends x fs a fs "" ∧ Ends (f a) fs b fs' output := by
  obtain ⟨a, between, nothing, printed, first, second, rfl⟩ := bind_ends ends
  have same : between = fs := first.files.symm.trans (quiet fs).1
  have silent : nothing = "" := first.output.symm.trans (quiet fs).2
  subst same silent
  rw [String.empty_append]
  exact ⟨a, first, second⟩

theorem Ends.bind {x : Act α} {f : α → Act β} {a : α} {b : β} {between : FileSystem}
    (ends : Ends x fs a between "") (rest : Ends (f a) between b fs' output) :
    Ends (x >>= f) fs b fs' output := by
  obtain ⟨value, rfl, silent⟩ := ends
  obtain ⟨value', rfl, rfl⟩ := rest
  constructor <;> simp only [Bind.bind, value]
  · exact value'
  · rw [silent, String.empty_append]

theorem Quiet.ends {x : Act α} (quiet : Quiet x) {a : α} (value : (x fs).value = .ok a) :
    Ends x fs a fs "" :=
  ⟨value, (quiet fs).1, (quiet fs).2⟩

theorem Fails.bind {x : Act α} {g : α → Act β} {f : Failure} (fails : Fails x fs f fs' output) :
    Fails (x >>= g) fs f fs' output := by
  obtain ⟨value, rfl, rfl⟩ := fails
  constructor <;> simp only [Bind.bind, value]

theorem Ends.fails {x : Act α} {g : α → Act β} {a : α} {f : Failure} {between : FileSystem}
    (ends : Ends x fs a between "") (rest : Fails (g a) between f fs' output) :
    Fails (x >>= g) fs f fs' output := by
  obtain ⟨value, rfl, silent⟩ := ends
  obtain ⟨value', rfl, rfl⟩ := rest
  constructor <;> simp only [Bind.bind, value]
  · exact value'
  · rw [silent, String.empty_append]

/-- What breaks off breaks off at its first step, or behind it. -/
theorem bind_fails {x : Act α} {g : α → Act β} {f : Failure} (fails : Fails (x >>= g) fs f fs' output) :
    Fails x fs f fs' output ∨ ∃ a between first second, Ends x fs a between first ∧
      Fails (g a) between f fs' second ∧ output = first ++ second := by
  rcases ends_or_fails x fs with ⟨a, ends⟩ | ⟨e, first⟩
  · obtain ⟨value, files, printed⟩ := fails
    simp only [Bind.bind, ends.value] at value files printed
    exact .inr ⟨a, _, _, _, ends, ⟨value, files, rfl⟩, printed.symm⟩
  · obtain ⟨value, files, printed⟩ := first.bind (g := g)
    rw [fails.value] at value
    cases value
    rw [← fails.files, ← fails.output, files, printed]
    exact .inl first

theorem Fails.rest {x : Act α} {g : α → Act β} {a : α} {f : Failure} {between : FileSystem}
    (fails : Fails (x >>= g) fs f fs' output) (ends : Ends x fs a between "") :
    Fails (g a) between f fs' output := by
  rcases bind_fails fails with ⟨value, _⟩ | ⟨a', between', first, second, ends', rest, rfl⟩
  · rw [ends.value] at value
    contradiction
  · have same : a' = a := Except.ok.inj (ends'.value.symm.trans ends.value)
    have nowhere : between' = between := ends'.files.symm.trans ends.files
    have silent : first = "" := ends'.output.symm.trans ends.output
    subst same nowhere silent
    rwa [String.empty_append]

theorem Quiet.fails {x : Act α} (quiet : Quiet x) {f : Failure} (value : (x fs).value = .error f) :
    Fails x fs f fs "" :=
  ⟨value, (quiet fs).1, (quiet fs).2⟩

theorem note_each (level : Level) (message : α → String) (l : List α) (fs : FileSystem) :
    Ends (l.forM fun a => note level (message a)) fs ⟨⟩ fs "" := by
  induction l with
  | nil => exact ⟨rfl, rfl, rfl⟩
  | cons a l ih => exact ((Quiet.note level (message a)).ends rfl).bind ih

theorem change_ends {f : FileSystem → Except Failure FileSystem} (ends : Ends (change f) fs () fs' output) :
    f fs = .ok fs' ∧ output = "" := by
  obtain ⟨value, files, printed⟩ := ends
  rw [change] at value files printed
  cases changed : f fs with
  | error e => simp [changed] at value
  | ok made =>
    simp only [changed] at files printed
    exact ⟨congrArg _ files, printed.symm⟩

theorem change_fails {g : FileSystem → Except Failure FileSystem} {f : Failure}
    (fails : Fails (change g) fs f fs' output) : g fs = .error f := by
  have value := fails.value
  rw [change] at value
  split at value
  · contradiction
  · rename_i failed
    cases value
    exact failed

end Act

theorem ok_of_mapError {ε ε' α : Type} {r : Except ε α} {f : ε → ε'} {a : α}
    (done : r.mapError f = .ok a) : r = .ok a := by
  cases r with
  | error e => contradiction
  | ok b => exact congrArg _ (Except.ok.inj done)

theorem error_of_mapError {ε ε' α : Type} {r : Except ε α} {f : ε → ε'} {e' : ε'}
    (failed : r.mapError f = .error e') : ∃ e, e' = f e := by
  cases r with
  | error e => exact ⟨e, (Except.error.inj failed).symm⟩
  | ok a => contradiction

theorem Graph.writeTo_ok {g : Graph} {fs fs' : FileSystem} {p : Path} {pretty : Bool}
    (done : g.writeTo fs p pretty = .ok fs') : fs.write p (Text.encode (g.toText pretty)) = .ok fs' := by
  rw [writeTo] at done
  split at done
  · rename_i wrote
    rw [wrote, Except.ok.inj done]
  · contradiction

theorem Builder.isDirectory_of_built {b : Builder} {host : Host} {fs : FileSystem} {root : Path}
    {url : String} {m : Merged} (built : (b.build host fs root url).value.1 = .ok m) :
    fs.isDirectory root = true := by
  by_contra notDirectory
  rw [build, if_pos (by simpa using notDirectory)] at built
  contradiction

/-- A directory is known by a path without links. -/
theorem FileSystem.canonical_of_isDirectory {fs : FileSystem} {p : Path}
    (isDirectory : fs.isDirectory ((fs.canonical? p).getD p) = true) :
    fs.canonical? p = some ((fs.canonical? p).getD p) := by
  cases canonical : fs.canonical? p with
  | some root => rfl
  | none =>
    rw [canonical, Option.getD_none] at isDirectory
    obtain ⟨_, _, found, _⟩ := find_of_isDirectory isDirectory
    rw [canonical?, found] at canonical
    contradiction

namespace Command

open Act

variable {host : Host} {c : Config} {dir : Option Path} {a : BuildArguments} {fs fs' : FileSystem}
  {output : String}

/-- The settings of a build once its arguments are heeded. -/
def settingsFor (a : BuildArguments) (c : Config) : Config :=
  { c with graph := { c.graph with jobs := a.jobs.getD c.graph.jobs } }

/-- Where the document of a build goes. -/
def documentPath (c : Config) (dir : Option Path) (a : BuildArguments) : Path :=
  a.output.getD (c.resolveOutput dir)

/-- The builder of a build, and the root it starts from. -/
structure Builds (c : Config) (dir : Option Path) (a : BuildArguments) (fs : FileSystem) (b : Builder)
    (root : Path) (base : Place) : Prop where
  made : ∃ r, c.registry = .ok r ∧ (Builder.ofRegistry r (settingsFor a c).buildOptions).value = .ok b
  canonical : fs.canonical? (a.path.getD (c.resolveRoot dir)) = some root
  found : ∃ n, fs.find true root = .ok (base, some n) ∧ n.isDirectory = true

theorem Builds.isDirectory {b : Builder} {root : Path} {base : Place}
    (builds : Builds c dir a fs b root base) : fs.isDirectory root = true := by
  obtain ⟨_, found, isDirectory⟩ := builds.found
  rwa [FileSystem.isDirectory, FileSystem.node?, found]

theorem quiet_checkSettings (c : Config) : Quiet (checkSettings c) := by
  rw [checkSettings]
  split
  · exact .pure _
  · exact (Quiet.forM (fun _ => .note _ _) _).bind fun _ => .ofExcept _

theorem quiet_canonical (p : Path) : Quiet (canonical p) :=
  Quiet.files.bind fun _ => .pure _

theorem quiet_buildGraph (host : Host) (c : Config) (dir : Option Path) (a : BuildArguments) :
    Quiet (buildGraph host c dir a) := by
  refine (quiet_canonical _).bind fun root => (Quiet.ofExcept _).bind fun r => ?_
  refine (Quiet.ofLogged _).bind fun made => (Quiet.ofExcept _).bind fun builder => ?_
  refine (Quiet.note _ _).bind fun _ => Quiet.files.bind fun fs => (Quiet.ofLogged _).bind ?_
  exact fun (built, _) => .ofExcept _

theorem buildGraph_ends {m : Graph × BuildReport}
    (ends : Ends (buildGraph host (settingsFor a c) dir a) fs m fs' output) :
    ∃ b root base, Builds c dir a fs b root base ∧
      (b.build host fs root (a.repoUrl.getD c.project.repositoryUrl)).value.1 = .ok m := by
  obtain ⟨root, isRoot, ends⟩ := (quiet_canonical _).next ends
  obtain ⟨r, registry, ends⟩ := (Quiet.ofExcept _).next ends
  obtain ⟨made, isMade, ends⟩ := (Quiet.ofLogged _).next ends
  obtain ⟨b, isBuilder, ends⟩ := (Quiet.ofExcept _).next ends
  obtain ⟨_, _, ends⟩ := (Quiet.note _ _).next ends
  obtain ⟨now, isNow, ends⟩ := Quiet.files.next ends
  obtain ⟨⟨built, _⟩, isBuilt, ends⟩ := (Quiet.ofLogged _).next ends
  have isNow : fs = now := Except.ok.inj isNow.value
  have answered : built = .ok m := ok_of_mapError ends.value
  have isMade : (Builder.ofRegistry r (settingsFor a c).buildOptions).value = .ok b :=
    (Except.ok.inj isMade.value).trans (ok_of_mapError isBuilder.value)
  have isBuilt : (b.build host fs root (a.repoUrl.getD c.project.repositoryUrl)).value.1 = .ok m :=
    isNow ▸ (congrArg Prod.fst (Except.ok.inj isBuilt.value)).trans answered
  have isDirectory := Builder.isDirectory_of_built isBuilt
  obtain ⟨base, found⟩ := FileSystem.find_of_isDirectory isDirectory
  refine ⟨b, root, base, ⟨⟨r, registry.value, isMade⟩, ?_, found⟩, isBuilt⟩
  have isRoot : (fs.canonical? (a.path.getD (c.resolveRoot dir))).getD
      (a.path.getD (c.resolveRoot dir)) = root := Except.ok.inj isRoot.value
  subst isRoot
  exact FileSystem.canonical_of_isDirectory isDirectory

theorem ends_buildGraph {b : Builder} {root : Path} {base : Place} {m : Graph × BuildReport}
    (builds : Builds c dir a fs b root base)
    (built : (b.build host fs root (a.repoUrl.getD c.project.repositoryUrl)).value.1 = .ok m) :
    Ends (buildGraph host (settingsFor a c) dir a) fs m fs "" := by
  obtain ⟨⟨r, registry, made⟩, canonical, _⟩ := builds
  have isRoot : (Command.canonical (a.path.getD (c.resolveRoot dir)) fs).value = .ok root := by
    change Except.ok ((fs.canonical? _).getD _) = _
    rw [canonical, Option.getD_some]
  refine ((quiet_canonical _).ends isRoot).bind (((Quiet.ofExcept _).ends registry).bind ?_)
  refine ((Quiet.ofLogged _).ends (congrArg Except.ok made)).bind (((Quiet.ofExcept _).ends rfl).bind ?_)
  refine ((Quiet.note _ _).ends rfl).bind ((Quiet.files.ends rfl).bind (((Quiet.ofLogged _).ends rfl).bind ?_))
  refine ⟨?_, rfl, rfl⟩
  change (b.build host fs root (a.repoUrl.getD c.project.repositoryUrl)).value.1.mapError refused = _
  rw [built]
  rfl

theorem makeDirectoryOf_ends (written : Place → Prop) {p : Path}
    (ends : Ends (makeDirectoryOf p) fs () fs' output) :
    FileSystem.Grown written fs fs' ∧ output = "" := by
  rw [makeDirectoryOf] at ends
  split at ends
  · obtain ⟨-, rfl, rfl⟩ := ends
    exact ⟨.refl fs, rfl⟩
  · obtain ⟨made, silent⟩ := change_ends ends
    exact ⟨FileSystem.makeDirectories_grown (ok_of_mapError made), silent⟩

theorem writeGraph_ends {g : Graph} {p : Path} {pretty : Bool}
    (ends : Ends (writeGraph g p pretty) fs () fs' output) :
    FileSystem.Grown (fs'.LeadsTo p) fs fs' ∧ output = "" ∧
      ∃ place, fs'.find true p = .ok (place, some (.file (Text.encode (g.toText pretty)))) := by
  obtain ⟨_, between, _, _, made, rest, rfl⟩ := bind_ends ends
  obtain ⟨_, after, _, _, written, noted, rfl⟩ := bind_ends rest
  obtain ⟨done, rfl⟩ := change_ends written
  obtain ⟨grown, rfl⟩ := makeDirectoryOf_ends (after.LeadsTo p) made
  obtain ⟨-, rfl, rfl⟩ := noted
  obtain ⟨place, found, grown'⟩ := FileSystem.write_grown (Graph.writeTo_ok (ok_of_mapError done))
  exact ⟨grown.trans (grown'.mono fun q same => ⟨_, same ▸ found⟩), rfl, place, found⟩

/-- A build whose graph is known has printed it or written it, and changed nothing else. -/
structure Delivers (a : BuildArguments) (p : Path) (text : String) (fs fs' : FileSystem)
    (output : String) : Prop where
  output : output = if a.stdout then text ++ "\n" else ""
  grown : FileSystem.Grown (fun q => a.stdout = false ∧ fs'.LeadsTo p q) fs fs'
  written : a.stdout = false → ∃ place, fs'.find true p = .ok (place, some (.file (Text.encode text)))

theorem runBuild_ends (ends : Ends (runBuild host c dir a) fs () fs' output) :
    ∃ g report, Ends (buildGraph host (settingsFor a c) dir a) fs (g, report) fs "" ∧
      Delivers a (documentPath c dir a) (g.toText c.output.pretty) fs fs' output := by
  obtain ⟨_, _, ends⟩ := (quiet_checkSettings _).next ends
  obtain ⟨⟨g, report⟩, built, ends⟩ := (quiet_buildGraph _ _ _ _).next ends
  obtain ⟨_, _, ends⟩ := (Quiet.forM (fun _ => .note _ _) _).next ends
  obtain ⟨_, _, ends⟩ := (Quiet.note _ _).next ends
  refine ⟨g, report, built, ?_⟩
  dsimp only at ends
  split at ends
  · rename_i printed
    obtain ⟨-, rfl, rfl⟩ := ends
    exact ⟨by rw [if_pos printed]; rfl, .refl _, fun unprinted => absurd printed (by simp [unprinted])⟩
  · rename_i unprinted
    obtain ⟨grown, rfl, written⟩ := writeGraph_ends ends
    exact ⟨by rw [if_neg unprinted], grown.mono fun _ leads => ⟨by simpa using unprinted, leads⟩,
      fun _ => written⟩

/-- A build of valid settings comes to its end if its document can be written. -/
theorem ends_runBuild (valid : (settingsFor a c).validate = []) (unprinted : a.stdout = false)
    {g : Graph} {report : BuildReport}
    (built : Ends (buildGraph host (settingsFor a c) dir a) fs (g, report) fs "") {between : FileSystem}
    (made : Ends (makeDirectoryOf (documentPath c dir a)) fs () between "")
    (wrote : between.write (documentPath c dir a) (Text.encode (g.toText c.output.pretty)) = .ok fs') :
    Ends (runBuild host c dir a) fs () fs' "" := by
  have checked : (checkSettings (settingsFor a c) fs).value = .ok () := by
    rw [checkSettings, valid]
    rfl
  refine ((quiet_checkSettings _).ends checked).bind (built.bind ?_)
  refine (note_each _ _ _ _).bind (((Quiet.note _ _).ends rfl).bind ?_)
  rw [if_neg (by simp [unprinted])]
  have written : Ends (change fun fs => (g.writeTo fs (documentPath c dir a) c.output.pretty).mapError
      (DocumentError.failure ("Failed to write graph: " ++ (documentPath c dir a).display)))
        between () fs' "" := by
    constructor <;> simp [change, Graph.writeTo, wrote, Except.mapError]
  exact made.bind (written.bind ⟨rfl, rfl, rfl⟩)

end Command

namespace Run

open Act

variable {s : Surroundings} {line : CommandLine} {c : Config} {dir : Option Path} {fs : FileSystem}

/-- The log files that a run writes to. -/
def logFiles (s : Surroundings) (c : Config) (dir : Option Path) : List Path :=
  ((c.resolveLogDir dir).map (logFile s)).toList

/-- The files after a run has opened its log, or has failed to. -/
def opened (s : Surroundings) (c : Config) (dir : Option Path) (fs : FileSystem) : FileSystem :=
  (openLog s (c.resolveLogDir dir) fs).2

/-- The log file of the day can be opened, unless no log is kept. -/
def LogOpens (s : Surroundings) (c : Config) (dir : Option Path) (fs : FileSystem) : Prop :=
  ∀ reason, (openLog s (c.resolveLogDir dir) fs).1 ≠ .broken reason

/-- The directory that the settings name for logs, and the paths above it. -/
def logDirectories (c : Config) (dir : Option Path) : List Path :=
  (c.resolveLogDir dir).toList.flatMap fun logs => logs :: logs.above

/-- A tree has grown by the directory for logs, with those above it, and by the log file of the day, and
nothing but that file has changed. -/
def OnlyLogs (s : Surroundings) (c : Config) (dir : Option Path) (fs fs' : FileSystem) : Prop :=
  FileSystem.Framed (fun q => ∃ p ∈ logDirectories c dir, fs'.LeadsTo p q)
    (fun q => ∃ p ∈ logFiles s c dir, fs'.LeadsTo p q) fs fs'

theorem OnlyLogs.trans {between fs' : FileSystem} (first : OnlyLogs s c dir fs between)
    (second : OnlyLogs s c dir between fs') : OnlyLogs s c dir fs fs' := by
  refine FileSystem.Framed.trans (FileSystem.Framed.mono first ?_ ?_) second
  all_goals
    rintro q ⟨p, member, leads⟩
    exact ⟨p, member, second.leadsTo leads⟩

theorem opened_onlyLogs (s : Surroundings) (c : Config) (dir : Option Path) (fs : FileSystem) :
    OnlyLogs s c dir fs (opened s c dir fs) := by
  rw [OnlyLogs, opened, logDirectories, logFiles]
  cases c.resolveLogDir dir with
  | none => exact .refl fs
  | some logs => simpa using openLog_framed s logs fs

theorem opened_grown (s : Surroundings) (c : Config) (dir : Option Path) (fs : FileSystem) :
    FileSystem.Grown (fun q => ∃ p ∈ logFiles s c dir, (opened s c dir fs).LeadsTo p q) fs
      (opened s c dir fs) :=
  (opened_onlyLogs s c dir fs).toGrown

/-- Without a directory for logs no file changes. -/
theorem opened_of_none (none : c.logging.dir = none) : opened s c dir fs = fs := by
  rw [opened, Config.resolveLogDir, none]
  rfl

theorem logOpens_of_none (none : c.logging.dir = none) : LogOpens s c dir fs := by
  intro reason
  rw [Config.resolveLogDir, none]
  exact Log.noConfusion

/-- What a command left, once the log is closed. -/
def closed (s : Surroundings) (c : Config) (dir : Option Path) (fs : FileSystem)
    (records : List LogRecord) (left : FileSystem) : FileSystem :=
  closeLog s records left (openLog s (c.resolveLogDir dir) fs).1

theorem closed_onlyLogs (s : Surroundings) (c : Config) (dir : Option Path) (fs : FileSystem)
    (records : List LogRecord) (left : FileSystem) :
    OnlyLogs s c dir left (closed s c dir fs records left) := by
  rw [OnlyLogs, closed, logFiles]
  cases c.resolveLogDir dir with
  | none => exact .refl left
  | some logs =>
    cases log : (openLog s (some logs) fs).1 with
    | silent reason => exact .refl left
    | broken reason => exact .refl left
    | kept file =>
      obtain rfl := eq_of_openLog_kept log
      simpa using closeLog_framed s (logFile s logs) records left

theorem closed_of_none (none : c.logging.dir = none) (records : List LogRecord) (left : FileSystem) :
    closed s c dir fs records left = left := by
  rw [closed, Config.resolveLogDir, none]
  rfl

/-- Where a command has changed no file, only the log of its run has. -/
theorem onlyLogs_of_still (records : List LogRecord) :
    OnlyLogs s c dir fs (closed s c dir fs records (opened s c dir fs)) :=
  (opened_onlyLogs s c dir fs).trans (closed_onlyLogs s c dir fs records _)

theorem words_of_parsed {words : List String}
    (parsed : Arguments.parse (s.lookUp? "CODESKEL_REPO_URL") words = .ok line) :
    Run.words s words fs = command s line fs := by
  rw [Run.words, parsed]

theorem announce_ends (dir : Option Path) (fs : FileSystem) : Ends (announce dir) fs () fs "" := by
  cases dir <;> exact ⟨rfl, rfl, rfl⟩

/-- A run whose log cannot be opened ends there. -/
theorem command_broken (loaded : loadConfig fs line.config = .ok (c, dir))
    (broken : ¬LogOpens s c dir fs) :
    command s line fs = { exit := 101, files := opened s c dir fs } := by
  rw [command, loaded, opened]
  dsimp only
  rw [under]
  split
  · rename_i log
    rw [log]
  · rename_i unbroken log
    exact absurd (fun reason isBroken => unbroken reason ((congrArg Prod.fst log).symm.trans isBroken)) broken

section
variable (loaded : loadConfig fs line.config = .ok (c, dir)) (opens : LogOpens s c dir fs)
include loaded opens

/-- What a run answers, by what its command did. -/
theorem command_acts :
    let acted := (announce dir >>= fun _ => line.command.perform s.host c dir) (opened s c dir fs)
    let r := command s line fs
    r.exit = (if acted.value.toOption.isSome then 0 else 1) ∧ r.output = acted.output ∧
      r.error = (match acted.value with
        | .ok _ => none
        | .error f => some (errorText f)) ∧
      r.files = closed s c dir fs r.records acted.files := by
  have performed : command s line fs =
      perform s line c dir (openLog s (c.resolveLogDir dir) fs).1 (opened s c dir fs) := by
    rw [command, loaded, opened]
    dsimp only
    rw [under]
    split
    · rename_i reason fs' log
      exact absurd (congrArg Prod.fst log) (opens reason)
    · rename_i log
      rw [log]
  rw [performed]
  exact ⟨rfl, rfl, rfl, rfl⟩

/-- A run succeeds whose command comes to its end. -/
theorem ends_command {k : Command} (isCommand : line.command = k) {left : FileSystem} {output : String}
    (ends : Ends (k.perform s.host c dir) (opened s c dir fs) () left output) :
    (command s line fs).exit = 0 ∧ (command s line fs).output = output ∧
      ∃ records, (command s line fs).files = closed s c dir fs records left := by
  subst isCommand
  obtain ⟨exit, printed, _, files⟩ := command_acts loaded opens
  obtain ⟨value, left, output⟩ := (announce_ends dir _).bind (f := fun _ => line.command.perform s.host c dir) ends
  rw [value] at exit
  exact ⟨exit, printed.trans output, _, files.trans (by rw [left])⟩

/-- A run fails whose command breaks off, and tells why. -/
theorem fails_command {k : Command} (isCommand : line.command = k) {f : Failure} {left : FileSystem}
    {output : String}
    (fails : Fails (k.perform s.host c dir) (opened s c dir fs) f left output) :
    (command s line fs).exit = 1 ∧ (command s line fs).error = some (errorText f) ∧
      ∃ records, (command s line fs).files = closed s c dir fs records left := by
  subst isCommand
  obtain ⟨exit, _, error, files⟩ := command_acts loaded opens
  obtain ⟨value, left, _⟩ := (announce_ends dir _).fails (g := fun _ => line.command.perform s.host c dir) fails
  rw [value] at exit error
  exact ⟨exit, error, _, files.trans (by rw [left])⟩

/-- What a run leaves is what its command left, with the log closed. -/
theorem command_leaves : ∃ records, (command s line fs).files =
    closed s c dir fs records (line.command.perform s.host c dir (opened s c dir fs)).files := by
  rcases ends_or_fails (line.command.perform s.host c dir) (opened s c dir fs) with ⟨_, ends⟩ | ⟨f, fails⟩
  · exact (ends_command loaded opens rfl ends).2.2
  · exact (fails_command loaded opens rfl fails).2.2

end

theorem logOpens_of_success (loaded : loadConfig fs line.config = .ok (c, dir))
    (succeeds : (command s line fs).exit = 0) : LogOpens s c dir fs := by
  by_contra broken
  rw [command_broken loaded broken] at succeeds
  contradiction

/-- A run that succeeds has performed its command, and its log file is all that was written
afterwards. -/
theorem command_ends (loaded : loadConfig fs line.config = .ok (c, dir))
    (succeeds : (command s line fs).exit = 0) :
    ∃ acted, Ends (line.command.perform s.host c dir) (opened s c dir fs) () acted
        (command s line fs).output ∧ OnlyLogs s c dir acted (command s line fs).files := by
  have opens := logOpens_of_success loaded succeeds
  rcases ends_or_fails (line.command.perform s.host c dir) (opened s c dir fs) with ⟨_, ends⟩ | ⟨f, fails⟩
  · obtain ⟨_, printed, records, left⟩ := ends_command loaded opens rfl ends
    rw [printed, left]
    exact ⟨_, ends, closed_onlyLogs s c dir fs records _⟩
  · rw [(fails_command loaded opens rfl fails).1] at succeeds
    contradiction

/-- Without settings that can be loaded no file changes. -/
theorem unloaded_command {f : Failure} (unloaded : loadConfig fs line.config = .error f) :
    (command s line fs).exit = 1 ∧ (command s line fs).error = some (errorText f) ∧
      (command s line fs).files = fs := by
  rw [command, unloaded]
  exact ⟨rfl, rfl, rfl⟩

end Run

end CodeAtlas
