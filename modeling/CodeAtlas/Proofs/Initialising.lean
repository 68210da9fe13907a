import CodeAtlas.Proofs.Discovery
import CodeAtlas.Proofs.Settings
import CodeAtlas.Proofs.Untouched

namespace CodeAtlas

namespace FileSystem

variable {fs : FileSystem} {place : Place} {entries : List (Bytes × Node)} {name : Bytes}

/-- From a directory a name leads to the entry of that name. -/
theorem turn_name (there : fs.root.at? place = some (.directory entries)) (isName : Path.IsName name)
    (short : ¬name.length > maxName) :
    fs.turn place name = .ofChild (place ++ [name]) (fs.root.at? (place ++ [name])) := by
  rw [turn_eq_fromDirectory there, Turn.fromDirectory_name isName.1, if_neg short]

/-- A file that is there can be written over. -/
theorem write_over {p : Path} {old : Bytes} (found : fs.find true p = .ok (place, some (.file old)))
    (content : Bytes) : ∃ written, fs.write p content = .ok written := by
  obtain ⟨_, _, _, led⟩ := find_eq_ok found
  have free : writeError? (fs.root.at? place) = none := by
    rw [← find_at found]
    rfl
  have isOpen := open_of_follow (Path.pieces_ne_nil _) led free
  obtain ⟨_, again, _⟩ := (isOpen.grown content).find found
  exact ⟨_, (write_of_find found rfl).1 _ again⟩

end FileSystem

namespace Config

open FileSystem

variable {fs fs' : FileSystem}

/-- The file of settings of the directory a run takes place in. -/
def ownFile : Path :=
  home.join fileName

theorem find_ownFile : fs.find true ownFile = fs.follow true maxLinks fs.current [home.bytes, fileName.bytes] :=
  find_eq_follow (by decide) (by decide) (by decide) true

section
variable {entries : List (Bytes × Node)} (inside : fs.root.at? fs.current = some (.directory entries))
include inside

theorem turn_home : fs.turn fs.current home.bytes =
    .ofChild (homePlace fs.current) (fs.root.at? (homePlace fs.current)) := by
  obtain ⟨isName, _, short⟩ := way_names home.bytes (by simp)
  exact turn_name inside isName short

theorem find_home (last : Bool) (unlinked : ∀ target, fs.root.at? (homePlace fs.current) ≠ some (.link target)) :
    fs.find last home = .ok (homePlace fs.current, fs.root.at? (homePlace fs.current)) := by
  have led : fs.find last home = fs.follow last maxLinks fs.current [home.bytes] :=
    find_eq_follow (by decide) (by decide) (by decide) last
  rw [led, follow_cons, turn_home inside]
  cases there : fs.root.at? (homePlace fs.current) with
  | none => rfl
  | some n =>
    cases n with
    | link target => exact absurd there (unlinked target)
    | file | directory | pipe | locked => exact (follow_nil ..).trans (by rw [there])

theorem find_file_of_no_home (nothing : fs.root.at? (homePlace fs.current) = none) :
    fs.find true ownFile = .error .notFound := by
  rw [find_ownFile, follow_cons, turn_home inside, nothing]
  rfl

theorem find_file {own : List (Bytes × Node)} (atHome : fs.root.at? (homePlace fs.current) = some (.directory own))
    (unlinked : ∀ target, fs.root.at? (filePlace fs.current) ≠ some (.link target)) :
    fs.find true ownFile = .ok (filePlace fs.current, fs.root.at? (filePlace fs.current)) := by
  obtain ⟨isName, _, short⟩ := way_names fileName.bytes (by simp)
  rw [find_ownFile, follow_cons, turn_home inside, atHome]
  change fs.follow true maxLinks (homePlace fs.current) [fileName.bytes] = _
  rw [follow_cons, turn_name atHome isName short, ← filePlace_eq]
  cases there : fs.root.at? (filePlace fs.current) with
  | none => rfl
  | some n =>
    cases n with
    | link target => exact absurd there (unlinked target)
    | file | directory | pipe | locked => exact (follow_nil ..).trans (by rw [there])

end

/-- The directory a run takes place in has room for settings: nothing is in the way of their directory,
nor of their file. -/
structure Room (fs : FileSystem) : Prop where
  inside : ∃ entries, fs.root.at? fs.current = some (.directory entries)
  atHome : fs.root.at? (homePlace fs.current) = none ∨
    ∃ own, fs.root.at? (homePlace fs.current) = some (.directory own)
  atFile : fs.root.at? (filePlace fs.current) = none ∨
    ∃ q content, fs.find true ownFile = .ok (q, some (.file content))

theorem Room.pathExists_home (room : Room fs) :
    fs.pathExists home = (fs.root.at? (homePlace fs.current)).isSome := by
  obtain ⟨entries, inside⟩ := room.inside
  rw [pathExists, node?, find_home inside true]
  intro target linked
  rcases room.atHome with nothing | ⟨own, there⟩
  · cases nothing.symm.trans linked
  · cases there.symm.trans linked

theorem Room.pathExists_of_free (room : Room fs) (nothing : fs.root.at? (filePlace fs.current) = none) :
    fs.pathExists ownFile = false := by
  obtain ⟨entries, inside⟩ := room.inside
  rw [pathExists, node?]
  rcases room.atHome with noHome | ⟨own, there⟩
  · rw [find_file_of_no_home inside noHome]
    rfl
  · rw [find_file inside there (by simp [nothing]), nothing]
    rfl

theorem pathExists_of_found {p : Path} {q : Place} {n : Node} (found : fs.find true p = .ok (q, some n)) :
    fs.pathExists p = true := by
  rw [pathExists, node?, found]
  rfl

theorem Room.free (room : Room fs) (missing : fs.pathExists ownFile = false) :
    fs.root.at? (filePlace fs.current) = none := by
  rcases room.atFile with nothing | ⟨q, content, found⟩
  · exact nothing
  · exact absurd (pathExists_of_found found) (by simp [missing])

/-- A file of settings that can be read is found. -/
theorem Room.found (room : Room fs) {content : Bytes} (read : fs.read ownFile = .ok content) :
    ∃ q, fs.find true ownFile = .ok (q, some (.file content)) := by
  rcases room.atFile with nothing | ⟨q, content', found⟩
  · have missing := room.pathExists_of_free nothing
    cases led : fs.find true ownFile with
    | error e => rw [read_of_error led] at read; contradiction
    | ok answer =>
      obtain ⟨q, n⟩ := answer
      cases n with
      | none => rw [read_of_find led] at read; contradiction
      | some n => exact absurd (pathExists_of_found led) (by simp [missing])
  · rw [read_of_find found] at read
    cases read
    exact ⟨q, found⟩

/-- In a directory of settings their file can be written. -/
theorem Room.write (room : Room fs) {own : List (Bytes × Node)}
    (atHome : fs.root.at? (homePlace fs.current) = some (.directory own)) (content : Bytes) :
    ∃ written, fs.write ownFile content = .ok written := by
  obtain ⟨entries, inside⟩ := room.inside
  rcases room.atFile with nothing | ⟨q, old, found⟩
  · have isOpen : fs.Open (filePlace fs.current) := by
      refine ⟨⟨homePlace fs.current, fileName.bytes, own, filePlace_eq fs.current, atHome⟩, ?_⟩
      rw [nothing]
      rfl
    have grown := isOpen.grown content
    obtain ⟨_, inside'⟩ := grown.at_directory inside
    obtain ⟨_, atHome'⟩ := grown.at_directory atHome
    have found := find_file inside atHome (by simp [nothing])
    have written := isOpen.written content
    have again : (fs.withFile (filePlace fs.current) content).find true ownFile = .ok _ :=
      find_file inside' atHome' (by simp [FileSystem.withFile] at written ⊢; simp [written])
    exact ⟨_, (write_of_find found isOpen.free).1 _ again⟩
  · exact write_over found content

/-- Where the directory of settings is missing it can be made. -/
theorem Room.makeHome (room : Room fs) (nothing : fs.root.at? (homePlace fs.current) = none) :
    ∃ made, fs.makeDirectories home = .ok made ∧ Room made ∧
      made.root.at? (homePlace made.current) = some (.directory []) := by
  obtain ⟨entries, inside⟩ := room.inside
  have found := find_home inside false (by simp [nothing])
  rw [nothing] at found
  have made : fs.makeDirectory home =
      .ok { fs with root := fs.root.alter (some (.directory [])) (homePlace fs.current) } := by
    rw [makeDirectory, found]
    rfl
  have grown : Grown (fun _ => False) fs _ := makeDirectory_grown made
  have atHome := (Node.at?_alter inside home.bytes (.directory []) []).1
  refine ⟨_, ?_, ⟨grown.at_directory inside, .inr ⟨[], atHome⟩, .inl ?_⟩, atHome⟩
  · have spelled : home.bytes.isEmpty = false := by decide
    rw [makeDirectories, makeDirectories.go, spelled, made]
    rfl
  · rw [filePlace_eq, Node.at?_append]
    change ((fs.root.alter (some (.directory [])) (fs.current ++ [home.bytes])).at?
      (fs.current ++ [home.bytes])).bind _ = none
    rw [atHome]
    rfl

end Config

namespace Command

open Act Config FileSystem

variable {fs : FileSystem}

/-- What a run says that finds settings where it would write new ones. -/
def existing : Failure :=
  { message := ".codeskel/config.toml already exists. Use --force to overwrite." }

/-- The last steps of an initialisation. -/
def writeTemplate : Act Unit := do
  change fun fs => (fs.write ownFile (Text.encode template)).mapError plainFailure
  note .info ("Created " ++ ownFile.display)
  nextSteps.forM (note .info)

/-- The steps of an initialisation once it is allowed. -/
def establish : Act Unit := do
  if !(← files).pathExists home then
    change fun fs => (fs.makeDirectories home).mapError plainFailure
    note .info ("Created " ++ home.display ++ "/")
  writeTemplate

theorem initialise_eq (force : Bool) : initialise force = (do
    if (← files).pathExists ownFile && !force then fail existing
    establish) :=
  rfl

theorem initialise_fails (there : fs.pathExists ownFile = true) : Fails (initialise false) fs existing fs "" := by
  rw [initialise_eq]
  refine (Quiet.files.ends rfl).fails ?_
  dsimp only
  rw [if_pos (by rw [there]; rfl)]
  exact ((Quiet.ofExcept _).fails rfl).bind

theorem writeTemplate_ends (room : Room fs) {own : List (Bytes × Node)}
    (atHome : fs.root.at? (homePlace fs.current) = some (.directory own)) :
    ∃ written q, Ends writeTemplate fs () written "" ∧
      written.find true ownFile = .ok (q, some (.file (Text.encode template))) := by
  obtain ⟨written, done⟩ := room.write atHome (Text.encode template)
  obtain ⟨q, found, _⟩ := write_grown done
  refine ⟨written, q, ?_, found⟩
  have writing : Ends (change fun fs => (fs.write ownFile (Text.encode template)).mapError plainFailure) fs ()
      written "" := by
    constructor <;> simp [change, done, Except.mapError]
  exact writing.bind (((Quiet.note _ _).ends rfl).bind (note_each _ _ _ _))

theorem establish_ends (room : Room fs) : ∃ written q, Ends establish fs () written "" ∧
    written.find true ownFile = .ok (q, some (.file (Text.encode template))) := by
  have exists_home := room.pathExists_home
  rcases room.atHome with nothing | ⟨own, atHome⟩
  · obtain ⟨made, done, room', atHome⟩ := room.makeHome nothing
    obtain ⟨written, q, ends, found⟩ := writeTemplate_ends room' atHome
    refine ⟨written, q, (Quiet.files.ends rfl).bind ?_, found⟩
    dsimp only
    rw [if_pos (by rw [exists_home, nothing]; rfl)]
    have making : Ends (change fun fs => (fs.makeDirectories home).mapError plainFailure) fs () made "" := by
      constructor <;> simp [change, done, Except.mapError]
    exact making.bind (((Quiet.note _ _).ends rfl).bind ends)
  · obtain ⟨written, q, ends, found⟩ := writeTemplate_ends room atHome
    refine ⟨written, q, (Quiet.files.ends rfl).bind ?_, found⟩
    dsimp only
    rw [if_neg (by rw [exists_home, atHome]; simp)]
    exact ends

theorem initialise_ends {force : Bool} (room : Room fs) (free : force = true ∨ fs.pathExists ownFile = false) :
    ∃ written q, Ends (initialise force) fs () written "" ∧
      written.find true ownFile = .ok (q, some (.file (Text.encode template))) := by
  obtain ⟨written, q, ends, found⟩ := establish_ends room
  refine ⟨written, q, ?_, found⟩
  rw [initialise_eq]
  refine (Quiet.files.ends rfl).bind ?_
  dsimp only
  have allowed : ¬(fs.pathExists ownFile && !force) = true := by
    rcases free with rfl | nothing
    · simp
    · simp [nothing]
  rw [if_neg allowed]
  exact ends

/-- What is there stays, whatever comes of a step. -/
def Grows {α : Type} (x : Act α) : Prop :=
  ∀ fs, Grown (fun _ => True) fs (x fs).files

theorem Grows.of_quiet {α : Type} {x : Act α} (quiet : Quiet x) : Grows x := fun fs => by
  rw [(quiet fs).1]
  exact .refl fs

theorem Grows.bind {α β : Type} {x : Act α} {f : α → Act β} (first : Grows x) (second : ∀ a, Grows (f a)) :
    Grows (x >>= f) := fun fs => by
  rcases ends_or_fails x fs with ⟨a, ends⟩ | ⟨e, fails⟩
  · have files : ((x >>= f) fs).files = (f a (x fs).files).files := by
      simp only [Bind.bind, ends.value]
    rw [files]
    exact (first fs).trans (second a _)
  · rw [fails.bind.files]
    exact first fs

theorem Grows.change {ε : Type} {g : FileSystem → Except ε FileSystem} {say : ε → Failure}
    (grows : ∀ fs fs', g fs = .ok fs' → Grown (fun _ => True) fs fs') :
    Grows (Act.change fun fs => (g fs).mapError say) := fun fs => by
  rw [Act.change]
  split
  · rename_i changed
    exact grows _ _ (ok_of_mapError changed)
  · exact .refl fs

theorem initialise_grows (force : Bool) : Grows (initialise force) := by
  have making : Grows (Act.change fun fs => (fs.makeDirectories home).mapError plainFailure) :=
    .change fun _ _ => makeDirectories_grown
  have writing : Grows (Act.change fun fs => (fs.write ownFile (Text.encode template)).mapError plainFailure) :=
    .change fun _ _ done => (write_grown done).choose_spec.2.mono fun _ _ => trivial
  have noted (message : String) : Grows (note .info message) := .of_quiet (.note _ _)
  have last : Grows writeTemplate := writing.bind fun _ => (noted _).bind fun _ =>
    .of_quiet (.forM (fun _ => .note _ _) _)
  have rest : Grows establish := by
    refine (Grows.of_quiet .files).bind fun now => ?_
    dsimp only
    split
    · exact making.bind fun _ => (noted _).bind fun _ => last
    · exact last
  rw [initialise_eq]
  refine (Grows.of_quiet .files).bind fun now => ?_
  dsimp only
  split
  · exact (Grows.of_quiet (.ofExcept _)).bind fun _ => rest
  · exact rest

end Command

namespace Run

open Act Command Config FileSystem

variable {s : Surroundings} {line : CommandLine} {c : Config} {dir : Option Path} {fs fs' : FileSystem}

/-- The log of a run is kept clear of the settings of the directory it takes place in. -/
structure LogsApart (s : Surroundings) (c : Config) (dir : Option Path) (fs : FileSystem) : Prop where
  home : ∀ log ∈ logFiles s c dir, ¬fs.LeadsTo log (homePlace fs.current)
  file : ∀ log ∈ logFiles s c dir, ∀ q, fs.LeadsTo ownFile q → ¬fs.LeadsTo log q
  directory : ∀ logs ∈ logDirectories c dir, ¬fs.LeadsTo logs (filePlace fs.current)

theorem LogsApart.before {written : Place → Prop} (apart : LogsApart s c dir fs') (grown : Grown written fs fs') :
    LogsApart s c dir fs where
  home log member leads := apart.home log member (grown.current ▸ grown.leadsTo leads)
  file log member q own leads := apart.file log member q (grown.leadsTo own) (grown.leadsTo leads)
  directory logs member leads := apart.directory logs member (grown.current ▸ grown.leadsTo leads)

section
variable (logged : OnlyLogs s c dir fs fs') (apart : LogsApart s c dir fs')
include logged apart

/-- A file of settings is where it was once the log is open. -/
theorem LogsApart.found {q : Place} {content : Bytes} (found : fs.find true ownFile = .ok (q, some (.file content))) :
    fs'.find true ownFile = .ok (q, some (.file content)) := by
  refine logged.find_file found ?_
  rintro ⟨log, member, leads⟩
  exact apart.file log member q (logged.leadsTo ⟨_, found⟩) leads

theorem LogsApart.atHome (room : Room fs) : fs'.root.at? (homePlace fs'.current) = none ∨
    ∃ own, fs'.root.at? (homePlace fs'.current) = some (.directory own) := by
  have current : fs'.current = fs.current := logged.current
  rcases room.atHome with nothing | ⟨own, there⟩
  · cases there : fs'.root.at? (homePlace fs'.current) with
    | none => exact .inl rfl
    | some n =>
      rw [current] at there
      rcases logged.fresh _ n nothing there with ⟨_, kind⟩ | ⟨⟨log, member, leads⟩, _⟩
      · have kind : n.kind = (Node.directory []).kind := kind
        obtain ⟨own, rfl⟩ := Node.kind_eq_directory kind
        exact .inr ⟨own, rfl⟩
      · exact absurd (current ▸ leads) (apart.home log member)
  · exact .inr (current ▸ logged.at_directory there)

/-- Where there was no file of settings the log is not put. -/
theorem LogsApart.free (room : Room fs) (nothing : fs.root.at? (filePlace fs.current) = none) :
    fs'.root.at? (filePlace fs'.current) = none := by
  have current : fs'.current = fs.current := logged.current
  by_contra something
  obtain ⟨n, there⟩ := Option.ne_none_iff_exists'.mp something
  rw [current] at there
  rcases logged.fresh _ n nothing there with ⟨⟨logs, member, leads⟩, _⟩ | ⟨⟨log, member, leads⟩, kind⟩
  · exact apart.directory logs member (current ▸ leads)
  · -- The log would be the file of settings itself.
    have unlinked (target : Bytes) : fs'.root.at? (filePlace fs'.current) ≠ some (.link target) := by
      rw [current, there]
      rintro ⟨⟩
      contradiction
    obtain ⟨_, inside⟩ := room.inside
    obtain ⟨_, here⟩ := logged.at_directory inside
    rcases apart.atHome logged room with noHome | ⟨own, atHome⟩
    · rw [← current, filePlace_eq, Node.at?_append, noHome] at there
      contradiction
    · have found := find_file (current ▸ here) atHome unlinked
      rw [current, there] at found
      exact apart.file log member _ ⟨n, found⟩ leads

theorem LogsApart.room (room : Room fs) : Room fs' where
  inside := by
    obtain ⟨_, inside⟩ := room.inside
    rw [logged.current]
    exact logged.at_directory inside
  atHome := apart.atHome logged room
  atFile := by
    rcases room.atFile with nothing | ⟨q, content, found⟩
    · exact .inl (apart.free logged room nothing)
    · exact .inr ⟨q, content, apart.found logged found⟩

end

/-- Without a path for the settings, those that cannot be loaded are the nearest ones. -/
theorem unloaded_iff {f : Failure} : loadConfig fs none = .error f ↔
    ∃ steps holder, Nearest fs (pathOf fs.current) steps holder ∧ fromFile fs (fileIn holder) = .error f := by
  rw [← findFrom_eq_error, loadConfig]
  cases findFrom fs (pathOf fs.current) with
  | error e => simp [bind, Except.bind]
  | ok answer => cases answer <;> simp [bind, Except.bind, pure, Except.pure]

/-- An initialisation under settings that cannot be loaded changes nothing, and one whose log cannot be
opened nothing but what the log has made; otherwise it leaves the file of settings as new ones are, unless
there was one and no force is asked for. -/
theorem init_writes_template_under_loaded_settings {words : List String} {force : Bool}
    (parsed : Arguments.parse (s.lookUp? "CODESKEL_REPO_URL") words = .ok line)
    (isInit : line.command = .init force) (fs : FileSystem) :
    let r := Run.words s words fs
    (∀ f, loadConfig fs line.config = .error f →
      r.exit = 1 ∧ r.error = some (errorText f) ∧ r.files = fs) ∧
    (line.config = none → ∀ f, loadConfig fs line.config = .error f ↔
      ∃ steps holder, Nearest fs (pathOf fs.current) steps holder ∧ fromFile fs (fileIn holder) = .error f) ∧
    ∀ c dir, loadConfig fs line.config = .ok (c, dir) →
      (¬LogOpens s c dir fs → r.exit = 101 ∧ OnlyLogs s c dir fs r.files) ∧
      (LogOpens s c dir fs → Room fs → LogsApart s c dir r.files →
        (force = true ∨ fs.pathExists ownFile = false →
          r.exit = 0 ∧ r.files.read ownFile = .ok (Text.encode template)) ∧
        ∀ content, force = false → fs.read ownFile = .ok content →
          r.exit = 1 ∧ r.error = some (errorText existing) ∧ r.files.read ownFile = .ok content) := by
  intro r
  have isRun : r = command s line fs := words_of_parsed parsed
  rw [isRun]
  refine ⟨fun f unloaded => unloaded_command unloaded, fun nearest f => ?_, fun c dir loaded => ?_⟩
  · rw [nearest]
    exact unloaded_iff
  · refine ⟨fun broken => ?_, fun opens room apart => ?_⟩
    · rw [command_broken loaded broken]
      exact ⟨rfl, opened_onlyLogs s c dir fs⟩
    obtain ⟨records, left⟩ := command_leaves loaded opens
    rw [isInit] at left
    have growing : Grown (fun _ => True) (opened s c dir fs) (command s line fs).files := by
      refine (initialise_grows force _).trans ?_
      exact left ▸ (closed_onlyLogs s c dir fs records _).toGrown.mono fun _ _ => trivial
    have opening := opened_onlyLogs s c dir fs
    have apart' : LogsApart s c dir (opened s c dir fs) := apart.before growing
    have room' := apart'.room opening room
    constructor
    · intro allowed
      have allowed' := allowed.imp_right fun missing => room'.pathExists_of_free
        (apart'.free opening room (room.free missing))
      obtain ⟨written, q, ends, found⟩ := initialise_ends room' allowed'
      obtain ⟨exit, _, records, files⟩ := ends_command loaded opens isInit ends
      have logged : OnlyLogs s c dir written (command s line fs).files := files ▸ closed_onlyLogs ..
      exact ⟨exit, logged.read found fun log member =>
        apart.file log member q (logged.leadsTo ⟨_, found⟩)⟩
    · rintro content rfl read
      obtain ⟨q, found⟩ := room.found read
      have found' := apart'.found opening found
      have fails := initialise_fails (pathExists_of_found found')
      obtain ⟨exit, error, records, files⟩ := fails_command loaded opens isInit fails
      have logged : OnlyLogs s c dir (opened s c dir fs) (command s line fs).files := files ▸ closed_onlyLogs ..
      exact ⟨exit, error, logged.read found' fun log member =>
        apart.file log member q (logged.leadsTo ⟨_, found'⟩)⟩

/-- A directory with a file of settings. -/
def settledFiles (content : Bytes) : FileSystem where
  root := .directory [(home.bytes, .directory [(fileName.bytes, .file content)])]
  current := []

theorem room_settledFiles (content : Bytes) : Room (settledFiles content) where
  inside := ⟨_, rfl⟩
  atHome := .inr ⟨_, by cbv⟩
  atFile := .inr ⟨_, content, by cbv⟩

theorem init_replaces_empty_settings_by_force :
    let s : Surroundings := { today := "" }
    let forced := Run.words s ["init", "--force"] (settledFiles [])
    let unforced := Run.words s ["init"] (settledFiles [])
    Room (settledFiles []) ∧ forced.exit = 0 ∧ forced.files.read ownFile = .ok (Text.encode template) ∧
      unforced.exit = 1 ∧ unforced.files.read ownFile = .ok [] := by
  intro s forced unforced
  have loaded : loadConfig (settledFiles []) none = .ok ({}, some (.ofString "/.codeskel")) := by cbv
  have apart (fs : FileSystem) : LogsApart s {} (some (.ofString "/.codeskel")) fs :=
    ⟨fun _ none => absurd none List.not_mem_nil, fun _ none => absurd none List.not_mem_nil,
      fun _ none => absurd none List.not_mem_nil⟩
  have parsed : Arguments.parse (s.lookUp? "CODESKEL_REPO_URL") ["init", "--force"] =
      .ok { command := .init true } := by rfl
  have parsed' : Arguments.parse (s.lookUp? "CODESKEL_REPO_URL") ["init"] = .ok { command := .init false } := by rfl
  obtain ⟨_, _, answers⟩ := init_writes_template_under_loaded_settings parsed rfl (settledFiles [])
  obtain ⟨_, _, answers'⟩ := init_writes_template_under_loaded_settings parsed' rfl (settledFiles [])
  have room := room_settledFiles []
  have opens : LogOpens s {} (some (.ofString "/.codeskel")) (settledFiles []) := logOpens_of_none rfl
  obtain ⟨exit, written⟩ := ((answers _ _ loaded).2 opens room (apart _)).1 (.inl rfl)
  obtain ⟨failed, _, kept⟩ := ((answers' _ _ loaded).2 opens room (apart _)).2 [] rfl (by cbv)
  exact ⟨room, exit, written, failed, kept⟩

/-- Force does not replace settings that are no text. -/
theorem init_force_keeps_unreadable_settings :
    let s : Surroundings := { today := "" }
    let forced := Run.words s ["init", "--force"] (settledFiles [0xff])
    Room (settledFiles [0xff]) ∧ forced.exit = 1 ∧ forced.files.read ownFile = .ok [0xff] ∧
      [0xff] ≠ Text.encode template := by
  intro s forced
  have parsed : Arguments.parse (s.lookUp? "CODESKEL_REPO_URL") ["init", "--force"] =
      .ok { command := .init true } := by rfl
  have isRun : forced = command s { command := .init true } (settledFiles [0xff]) := words_of_parsed parsed
  have unloaded : loadConfig (settledFiles [0xff]) ({ command := .init true } : CommandLine).config = .error
      ⟨"Failed to read config file: /.codeskel/config.toml", ["stream did not contain valid UTF-8"]⟩ := by
    cbv
  obtain ⟨exit, _, files⟩ := unloaded_command (s := s) unloaded
  have noText : [0xff] ≠ Text.encode template := fun same => by
    have none : Text.decode? [0xff] = none := by cbv
    rw [same, Text.decode?_encode] at none
    exact Option.some_ne_none _ none
  rw [isRun, files]
  exact ⟨room_settledFiles _, exit, by cbv, noText⟩

end Run

end CodeAtlas
