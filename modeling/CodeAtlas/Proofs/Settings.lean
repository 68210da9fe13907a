import CodeAtlas.Command.Run
import CodeAtlas.Proofs.Location
import Mathlib.Data.List.Permutation

namespace CodeAtlas

open CodeAtlas.Path

def FileSystem.Finds (fs : FileSystem) (p : Path) (place : Place) : Prop :=
  ∃ n, fs.find true p = .ok (place, some n)

namespace Config

def homePlace (holder : Place) : Place :=
  holder ++ [home.bytes]

def filePlace (holder : Place) : Place :=
  holder ++ [home.bytes, fileName.bytes]

theorem filePlace_eq (holder : Place) : filePlace holder = homePlace holder ++ [fileName.bytes] := by
  rw [homePlace, List.append_assoc]
  rfl

/-- A directory holds settings, in a tree without links. -/
structure Held (fs : FileSystem) (holder : Place) (c : Config) : Prop where
  unlinked : ∀ q target, fs.root.at? q ≠ some (.link target)
  written : ∃ content text, fs.root.at? (filePlace holder) = some (.file content) ∧
    Text.decode? content = some text ∧ FromToml.document ofToml text = .ok c

variable {fs : FileSystem} {holder : Place} {c : Config} {p dir : Path}

/-- The settings are read from a path that leads to their file. -/
theorem Held.fromFile (held : Held fs holder c) {place : Place} {n : Node}
    (found : fs.find true p = .ok (place, some n)) (atFile : place = filePlace holder) :
    fromFile fs p = .ok c := by
  obtain ⟨content, text, there, decoded, read⟩ := held.written
  have isFile : some n = some (.file content) := by
    rw [FileSystem.find_at found, atFile, there]
  have readText : fs.readText p = .ok text := by
    simp only [FileSystem.readText, FileSystem.read_of_find found, isFile, FileSystem.contentOf, bind,
      Except.bind, decoded]
    rfl
  rw [Config.fromFile, readText]
  simp only [read]
  rfl

/-- The way to the settings is asked for by names that can be asked for. -/
theorem way_names : ∀ name ∈ [home.bytes, fileName.bytes],
    IsName name ∧ name.contains 0 = false ∧ ¬name.length > FileSystem.maxName := by
  decide

/-- Below a directory on the way, its path goes on to the file. -/
theorem Held.find_file (held : Held fs holder c) {base : Place} {names : List Bytes}
    (onWay : names ⊆ [home.bytes, fileName.bytes]) (below : base ++ names = filePlace holder) {n : Node}
    (found : fs.find true p = .ok (base, some n))
    (short : (Entry.pathOf p names).bytes.length ≤ FileSystem.maxPath) :
    ∃ n, fs.find true (Entry.pathOf p names) = .ok (filePlace holder, some n) := by
  obtain ⟨content, _, there, _⟩ := held.written
  have each := fun name member => way_names name (onWay member)
  have areNames : ∀ name ∈ names, IsName name := fun name member => (each name member).1
  have clean : ¬names.any (·.contains 0) = true := by
    rw [List.any_eq_true]
    rintro ⟨name, member, isZero⟩
    exact Bool.false_ne_true ((each name member).2.1.symm.trans isZero)
  have fits : ¬((Entry.pathOf p names).bytes.length > FileSystem.maxPath ∨
      names.any (·.length > FileSystem.maxName) = true) := by
    rw [not_or, Nat.not_lt, List.any_eq_true]
    refine ⟨short, ?_⟩
    rintro ⟨name, member, long⟩
    exact (each name member).2.2 (of_decide_eq_true long)
  obtain ⟨noZero, spelled, _⟩ := FileSystem.find_eq_ok found
  have granted : Entry.refusal? p names = none := by
    rw [FileSystem.refusal?_eq spelled noZero areNames, if_neg clean, if_neg fits]
  rw [← below] at there ⊢
  exact ⟨_, by rw [FileSystem.find_pathOf found there rfl areNames, granted, Option.elim_none]⟩

/-- The nearest settings of a directory that holds settings are its own. -/
theorem Held.findFrom (held : Held fs holder c) (found : fs.Finds p holder)
    (short : (fileIn p).bytes.length ≤ FileSystem.maxPath) :
    findFrom fs p = .ok (some (c, homeIn p)) := by
  obtain ⟨n, found⟩ := found
  obtain ⟨m, atFile⟩ := held.find_file (List.Subset.refl _) rfl found short
  have atFile : fs.find true (fileIn p) = .ok (filePlace holder, some m) := atFile
  have there : fs.pathExists (fileIn p) = true := by
    rw [FileSystem.pathExists, FileSystem.node?, atFile]
    rfl
  have nearest : (p :: p.above).find? (fun dir => fs.pathExists (fileIn dir)) = some p :=
    List.find?_cons_of_pos there
  rw [Config.findFrom, nearest]
  simp only [held.fromFile atFile rfl]
  rfl

theorem Held.isDirectory (held : Held fs holder c) {n : Node}
    (found : fs.find true p = .ok (homePlace holder, some n)) : fs.isDirectory p = true := by
  obtain ⟨content, _, there, _⟩ := held.written
  rw [filePlace_eq, Node.at?_append, ← FileSystem.find_at found] at there
  obtain ⟨m, same, child⟩ := Option.bind_eq_some_iff.mp there
  cases same
  rw [FileSystem.isDirectory, FileSystem.node?, found]
  cases n with
  | directory => rfl
  | file | link | pipe | locked => cases child

theorem Held.isFile (held : Held fs holder c) {n : Node}
    (found : fs.find true p = .ok (filePlace holder, some n)) :
    fs.isDirectory p = false ∧ p.fileName?.isSome = true := by
  obtain ⟨content, _, there, _⟩ := held.written
  rw [← FileSystem.find_at found] at there
  cases there
  constructor
  · rw [FileSystem.isDirectory, FileSystem.node?, found]
    rfl
  · obtain ⟨_, _, _, led⟩ := FileSystem.find_eq_ok found
    obtain ⟨_, name, _, last⟩ := FileSystem.follow_name held.unlinked (pieces_ne_nil p.bytes) led
    rw [fileName?_eq_some.mpr last]
    rfl

/-- What is taken for the directory of settings that a path names. -/
def namedHome (fs : FileSystem) (p : Path) : Path :=
  (if fs.isDirectory p then p.join fileName else p).parent?.getD p

/-- Settings that are named by their directory or by their file are loaded, and what is taken for their
directory is where they are. -/
theorem Held.loadConfig (held : Held fs holder c)
    (named : fs.Finds p (homePlace holder) ∧ (p.join fileName).bytes.length ≤ FileSystem.maxPath ∨
      fs.Finds p (filePlace holder)) :
    Run.loadConfig fs (some p) = .ok (c, some (namedHome fs p)) ∧
      (namedHome fs p).placeFrom fs.current = homePlace holder := by
  rcases named with ⟨⟨n, found⟩, short⟩ | ⟨n, found⟩
  · obtain ⟨m, atFile⟩ := held.find_file (p := p)
      (show [fileName.bytes] ⊆ [home.bytes, fileName.bytes] by simp) (List.append_assoc holder _ _) found short
    have atFile : fs.find true (p.join fileName) = .ok (filePlace holder, some m) := atFile
    obtain ⟨dir, parent, same⟩ := parent?_join (p := p) (show IsName fileName.bytes by decide)
      (FileSystem.find_eq_ok found).2.1
    have parent : (p.join fileName).parent? = some dir := parent
    simp only [namedHome, Run.loadConfig, held.isDirectory found, if_true, held.fromFile atFile rfl, parent,
      Option.getD_some]
    refine ⟨rfl, ?_⟩
    rw [placeFrom, same, ← placeFrom, ← FileSystem.find_placeFrom held.unlinked found]
  · obtain ⟨notDirectory, hasName⟩ := held.isFile found
    simp only [namedHome, Run.loadConfig, notDirectory, Bool.false_eq_true, if_false, held.fromFile found rfl]
    have atFile : p.placeFrom fs.current = homePlace holder ++ [fileName.bytes] := by
      rw [← FileSystem.find_placeFrom held.unlinked found, filePlace_eq]
    exact ⟨rfl, (parent?_placeFrom atFile).mpr hasName⟩

theorem resolve_placeFrom (q dir : Path) (start : Place) :
    (resolve q (some dir)).placeFrom start = q.placeFrom (dir.placeFrom start) := by
  rw [resolve]
  split_ifs with absolute
  · rw [placeFrom_eq, placeFrom_eq, absolute, if_pos rfl, if_pos rfl]
  · exact placeFrom_join start dir q

/-- Relative paths of the settings start at the directory where they are. -/
structure StartsAt (fs : FileSystem) (c : Config) (dir : Path) (place : Place) : Prop where
  output : (c.resolveOutput (some dir)).placeFrom fs.current = c.output.path.placeFrom place
  logs : (c.resolveLogDir (some dir)).map (placeFrom fs.current) = c.logging.dir.map (placeFrom place)

theorem startsAt {place : Place} (c : Config) (atPlace : dir.placeFrom fs.current = place) :
    StartsAt fs c dir place where
  output := atPlace ▸ resolve_placeFrom ..
  logs := by
    rw [resolveLogDir, Option.map_map]
    congr 1
    funext logs
    exact atPlace ▸ resolve_placeFrom ..

theorem resolveRoot_placeFrom (c : Config) (dir : Path) (start : Place) :
    (c.resolveRoot (some dir)).placeFrom start =
      c.project.root.placeFrom ((dir.parent?.getD dir).placeFrom start) :=
  resolve_placeFrom ..

/-- Settings that are named by a path, by their directory or by their file, are loaded; what is written
goes where it goes if they are found from the directory that holds them. So does the project itself if
the path names the directory of the settings with its name at the end, and only then: before any other
end, such as a point or two, or nothing, the directory that holds them is not looked for. -/
theorem settings_named_by_path (held : Held fs holder c)
    (named : fs.Finds p (homePlace holder) ∧ (p.join fileName).bytes.length ≤ FileSystem.maxPath ∨
      fs.Finds p (filePlace holder)) :
    (∃ dir, Run.loadConfig fs (some p) = .ok (c, some dir) ∧ dir = namedHome fs p ∧
      StartsAt fs c dir (homePlace holder) ∧
      (c.resolveRoot (some dir)).placeFrom fs.current =
        c.project.root.placeFrom ((dir.parent?.getD dir).placeFrom fs.current) ∧
      ((dir.parent?.getD dir).placeFrom fs.current = holder ↔ dir.fileName?.isSome = true)) ∧
    ∀ start, fs.Finds start holder → (fileIn start).bytes.length ≤ FileSystem.maxPath →
      findFrom fs start = .ok (some (c, homeIn start)) ∧ StartsAt fs c (homeIn start) (homePlace holder) ∧
        (c.resolveRoot (some (homeIn start))).placeFrom fs.current = c.project.root.placeFrom holder := by
  constructor
  · obtain ⟨loaded, atHome⟩ := held.loadConfig named
    exact ⟨namedHome fs p, loaded, rfl, startsAt c atHome, resolveRoot_placeFrom c _ fs.current,
      parent?_placeFrom atHome⟩
  · rintro start ⟨n, found⟩ short
    have components : (homeIn start).components = start.components ++ [.name home.bytes] :=
      components_join (by decide) (FileSystem.find_eq_ok found).2.1
    have atHome : (homeIn start).placeFrom fs.current = homePlace holder := by
      rw [placeFrom, components, List.foldl_append, ← placeFrom, ← FileSystem.find_placeFrom held.unlinked found]
      rfl
    have hasName : (homeIn start).fileName?.isSome = true := by
      rw [fileName?, components, List.getLast?_concat]
      rfl
    refine ⟨held.findFrom ⟨n, found⟩ short, startsAt c atHome, ?_⟩
    rw [resolveRoot_placeFrom, (parent?_placeFrom atHome).mpr hasName]

/-- Settings by which the sources of a project are below it. -/
def ofSources : Config :=
  { project := { root := .ofString "src" } }

def homeOfSources : Node :=
  .directory [(fileName.bytes, .file (Text.encode "[project]\nroot = \x22src\x22\n"))]

/-- A project with these settings, seen from their directory. -/
def smallProject : FileSystem where
  root := .directory [(home.bytes, homeOfSources),
    (Text.encode "src", .directory [(Text.encode "app.py", .file (Text.encode "def f(): pass"))])]
  current := homePlace []

theorem ofSources_read : FromToml.document ofToml "[project]\nroot = \x22src\x22\n" = .ok ofSources := by
  rfl

theorem held_smallProject : Held smallProject [] ofSources where
  unlinked := by
    have all : smallProject.root.Everywhere fun n => n.isLink = false := .of_every (by rfl)
    intro q target there
    exact Bool.noConfusion (all q _ there)
  written := ⟨_, _, rfl, Text.decode?_encode _, ofSources_read⟩

/-- The way from inside a directory of settings to the one above it and back. -/
def roundabout : Path :=
  .ofString "../.codeskel"

theorem settings_named_roundabout :
    smallProject.Finds roundabout (homePlace []) ∧
      (roundabout.join fileName).bytes.length ≤ FileSystem.maxPath ∧
      Run.loadConfig smallProject (some roundabout) = .ok (ofSources, some roundabout) ∧
      (ofSources.resolveRoot (some roundabout)).placeFrom smallProject.current =
        ofSources.project.root.placeFrom [] ∧
      findFrom smallProject (.ofString "..") = .ok (some (ofSources, homeIn (.ofString ".."))) := by
  have found : smallProject.Finds roundabout (homePlace []) := ⟨homeOfSources, by cbv⟩
  have short : (roundabout.join fileName).bytes.length ≤ FileSystem.maxPath := by decide
  have above : smallProject.Finds (.ofString "..") [] := ⟨smallProject.root, by cbv⟩
  have reachable : (fileIn (.ofString "..")).bytes.length ≤ FileSystem.maxPath := by decide
  have same : namedHome smallProject roundabout = roundabout := by cbv
  obtain ⟨⟨dir, loaded, isNamed, -, root, beside⟩, discovered⟩ :=
    settings_named_by_path held_smallProject (.inl ⟨found, short⟩)
  rw [isNamed, same] at loaded root beside
  have hasName : roundabout.fileName?.isSome = true := by rfl
  rw [beside.mpr hasName] at root
  exact ⟨found, short, loaded, root, (discovered _ above reachable).1⟩

/-- Settings named from inside their directory by their file alone put the sources into the directory of
the settings. -/
theorem settings_named_by_file_alone :
    Held smallProject [] ofSources ∧ smallProject.Finds fileName (filePlace []) ∧
      ∃ dir, Run.loadConfig smallProject (some fileName) = .ok (ofSources, some dir) ∧
        (ofSources.resolveRoot (some dir)).placeFrom smallProject.current ≠ ofSources.project.root.placeFrom [] := by
  have found : smallProject.Finds fileName (filePlace []) := ⟨_, by cbv⟩
  have same : namedHome smallProject fileName = ⟨[]⟩ := by cbv
  refine ⟨held_smallProject, found, ⟨[]⟩, ?_, by decide⟩
  rw [(held_smallProject.loadConfig (.inr found)).1, same]

end Config

end CodeAtlas
