import CodeAtlas.Config.File
import CodeAtlas.Proofs.Location

namespace CodeAtlas

namespace Path

/-- The path after a number of steps up, if there are as many. -/
def up? (p : Path) : Nat → Option Path
  | 0 => some p
  | n + 1 => p.parent?.bind (·.up? n)

theorem up?_succ (p : Path) (n : Nat) : p.up? (n + 1) = (p.up? n).bind parent? := by
  induction n generalizing p with
  | zero => cases parent : p.parent? <;> simp [up?, parent]
  | succ n ih =>
    rw [up?]
    cases parent : p.parent? with
    | none => simp [up?, parent]
    | some q => simpa [up?, parent] using ih q

/-- The paths above are those that steps up come to, in the order of the steps. -/
theorem getElem?_above (p : Path) (n : Nat) : (p :: p.above)[n]? = p.up? n := by
  induction n generalizing p with
  | zero => rfl
  | succ n ih =>
    rw [List.getElem?_cons_succ, above, up?]
    split
    · rename_i q parent
      rw [parent, Option.bind_some, ih]
    · rename_i parent
      rw [parent, Option.bind_none, List.getElem?_nil]

theorem isSome_up? (p : Path) (n : Nat) : (p.up? n).isSome = true ↔ n ≤ p.above.length := by
  rw [← getElem?_above, isSome_getElem?, List.length_cons, Nat.lt_succ_iff]

/-- Each step up takes the last component away. -/
theorem up?_components {p q : Path} {n : Nat} (reached : p.up? n = some q) :
    q.components = p.components.take (p.components.length - n) := by
  induction n generalizing p with
  | zero => cases reached; rw [Nat.sub_zero, List.take_length]
  | succ n ih =>
    obtain ⟨above, parent, reached⟩ := Option.bind_eq_some_iff.mp reached
    have dropped := ((parent?_components p).2 above parent).2
    rw [List.dropLast_eq_take] at dropped
    have fewer : above.components.length - n = p.components.length - (n + 1) := by
      rw [dropped, List.length_take]
      omega
    rw [ih reached, fewer, dropped, List.take_take, Nat.min_eq_left (by omega)]

theorem getLast?_trimReversed (r : Bytes) : (trimReversed r).getLast? = r.getLast? := by
  fun_induction trimReversed r with
  | case1 | case2 | case5 => rfl
  | case3 _ _ ih | case4 _ _ _ _ _ ih => rw [ih, List.getLast?_cons_cons]

theorem endsAt_dropWhile (r : Bytes) :
    (r.dropWhile (· != slash)).getLast? = some slash ↔ r.getLast? = some slash := by
  induction r with
  | nil => rfl
  | cons b rest ih =>
    by_cases own : b = slash
    · rw [own, List.dropWhile_cons_of_neg (by simp)]
    · rw [List.dropWhile_cons_of_pos (by simpa using own), ih]
      cases rest with
      | nil => simp [own]
      | cons => rw [List.getLast?_cons_cons]

/-- A step up stays on this side of the root. -/
theorem parent?_isAbsolute {p q : Path} (parent : p.parent? = some q) : q.isAbsolute = p.isAbsolute := by
  simp only [parent?] at parent
  split at parent
  · contradiction
  · cases parent
    -- The first byte is the last one of the reversed path, which neither trimming nor dropping changes
    -- if it is a slash.
    rw [Bool.eq_iff_iff, isAbsolute, isAbsolute, beq_iff_eq, beq_iff_eq, List.head?_reverse,
      getLast?_trimReversed, endsAt_dropWhile, getLast?_trimReversed, List.getLast?_reverse]

theorem up?_isAbsolute {p q : Path} {n : Nat} (reached : p.up? n = some q) : q.isAbsolute = p.isAbsolute := by
  induction n generalizing p with
  | zero => cases reached; rfl
  | succ n ih =>
    obtain ⟨above, parent, reached⟩ := Option.bind_eq_some_iff.mp reached
    rw [ih reached, parent?_isAbsolute parent]

/-- Only the first component can be the root, and it is the root of a path that begins with a slash. -/
theorem head?_components (p : Path) : p.components.head? = some .root ↔ p.isAbsolute = true := by
  rw [components]
  split_ifs with absolute current
  · exact iff_of_true rfl absolute
  · exact iff_of_false (by simp) absolute
  · refine iff_of_false (fun first => ?_) absolute
    obtain ⟨part, -, said⟩ := List.mem_filterMap.mp (List.mem_of_mem_head? first)
    unfold componentOf at said
    split_ifs at said <;> cases said

/-- Steps up end at the root or, from a relative path, at the empty path. -/
theorem up?_last (p : Path) : ∃ last, p.up? p.above.length = some last ∧
    last.components = if p.isAbsolute then [.root] else [] := by
  obtain ⟨last, reached⟩ := Option.isSome_iff_exists.mp ((p.isSome_up? _).mpr (Nat.le_refl _))
  have stopped : last.parent? = none := by
    have further := p.isSome_up? (p.above.length + 1)
    rw [up?_succ, reached, Option.bind_some] at further
    simpa [Nat.not_succ_le_self] using further
  have first := head?_components last
  rw [up?_isAbsolute reached] at first
  refine ⟨last, reached, ?_⟩
  rcases (parent?_components last).1 stopped with empty | root
  · rw [empty] at first ⊢
    rw [if_neg fun absolute => by cases first.mpr absolute]
  · rw [root] at first ⊢
    rw [if_pos (first.mp rfl)]

end Path

namespace Config

open CodeAtlas.Path

variable {fs : FileSystem} {start dir : Path} {c : Config} {f : Failure}

/-- The nearest directory with a file of settings, by the number of steps up to it. -/
structure Nearest (fs : FileSystem) (start : Path) (steps : Nat) (dir : Path) : Prop where
  reached : start.up? steps = some dir
  there : fs.pathExists (fileIn dir) = true
  passed : ∀ i < steps, ∀ other, start.up? i = some other → fs.pathExists (fileIn other) = false

theorem fromFile_eq_ok {p : Path} : fromFile fs p = .ok c ↔
    ∃ text, fs.readText p = .ok text ∧ FromToml.document ofToml text = .ok c := by
  rw [fromFile]
  cases fs.readText p with
  | error e => simp
  | ok text => cases parsed : FromToml.document ofToml text <;> simp [Except.mapError, parsed]

theorem fromFile_eq_error {p : Path} : fromFile fs p = .error f ↔
    (∃ e, fs.readText p = .error e ∧ f = ⟨"Failed to read config file: " ++ p.display, [e.message]⟩) ∨
    ∃ text cause, fs.readText p = .ok text ∧ FromToml.document ofToml text = .error cause ∧
      f = ⟨"Failed to parse config file: " ++ p.display, [cause]⟩ := by
  rw [fromFile]
  cases fs.readText p with
  | error e => simp [eq_comm]
  | ok text => cases parsed : FromToml.document ofToml text <;> simp [Except.mapError, parsed, eq_comm]

theorem Nearest.found {steps : Nat} (nearest : Nearest fs start steps dir) :
    (start :: start.above).find? (fun dir => fs.pathExists (fileIn dir)) = some dir := by
  obtain ⟨reached, there, passed⟩ := nearest
  rw [← getElem?_above] at reached
  obtain ⟨within, own⟩ := List.getElem?_eq_some_iff.mp reached
  refine List.find?_eq_some_iff_getElem.mpr ⟨there, steps, within, own, fun i before => ?_⟩
  have earlier := List.getElem?_eq_getElem (l := start :: start.above) (Nat.lt_trans before within)
  rw [getElem?_above] at earlier
  rw [passed i before _ earlier, Bool.not_false]

theorem nearest_of_found
    (found : (start :: start.above).find? (fun dir => fs.pathExists (fileIn dir)) = some dir) :
    ∃ steps, Nearest fs start steps dir := by
  obtain ⟨there, steps, within, own, passed⟩ := List.find?_eq_some_iff_getElem.mp found
  refine ⟨steps, ?_, there, fun i before other reached => ?_⟩
  · rw [← getElem?_above, List.getElem?_eq_getElem within, own]
  · rw [← getElem?_above, List.getElem?_eq_getElem (Nat.lt_trans before within)] at reached
    cases reached
    simpa using passed i before

/-- No directory on the way up has a file of settings. -/
def Absent (fs : FileSystem) (start : Path) : Prop :=
  ∀ steps dir, start.up? steps = some dir → fs.pathExists (fileIn dir) = false

theorem absent_iff : Absent fs start ↔
    (start :: start.above).find? (fun dir => fs.pathExists (fileIn dir)) = none := by
  simp only [List.find?_eq_none, Absent, List.mem_iff_getElem?, getElem?_above, Bool.not_eq_true]
  exact ⟨fun absent dir ⟨steps, reached⟩ => absent steps dir reached,
    fun absent steps dir reached => absent dir ⟨steps, reached⟩⟩

/-- The search comes to the nearest file of settings and to what that file gives, or to nothing. -/
theorem findFrom_eq_iff {answer : Except Failure (Option (Config × Path))} :
    findFrom fs start = answer ↔
      (∃ steps dir, Nearest fs start steps dir ∧
        (fromFile fs (fileIn dir)).map (fun c => some (c, homeIn dir)) = answer) ∨
      Absent fs start ∧ answer = .ok none := by
  constructor
  · intro searched
    rw [findFrom] at searched
    split at searched
    · rename_i dir found
      obtain ⟨steps, nearest⟩ := nearest_of_found found
      exact .inl ⟨steps, dir, nearest, searched⟩
    · rename_i nowhere
      exact .inr ⟨absent_iff.mpr nowhere, searched.symm⟩
  · rintro (⟨steps, dir, nearest, rfl⟩ | ⟨absent, rfl⟩)
    · rw [findFrom, nearest.found]
    · rw [findFrom, absent_iff.mp absent]

theorem findFrom_eq_some {home : Path} : findFrom fs start = .ok (some (c, home)) ↔
    ∃ steps dir, Nearest fs start steps dir ∧ fromFile fs (fileIn dir) = .ok c ∧ home = homeIn dir := by
  have own (dir : Path) : (fromFile fs (fileIn dir)).map (fun c => some (c, homeIn dir)) =
      .ok (some (c, home)) ↔ fromFile fs (fileIn dir) = .ok c ∧ home = homeIn dir := by
    cases fromFile fs (fileIn dir) <;> simp [Except.map, eq_comm]
  simp [findFrom_eq_iff, own]

theorem findFrom_eq_error : findFrom fs start = .error f ↔
    ∃ steps dir, Nearest fs start steps dir ∧ fromFile fs (fileIn dir) = .error f := by
  have own (dir : Path) : (fromFile fs (fileIn dir)).map (fun c => some (c, homeIn dir)) = .error f ↔
      fromFile fs (fileIn dir) = .error f := by
    cases fromFile fs (fileIn dir) <;> simp [Except.map]
  simp [findFrom_eq_iff, own]

theorem findFrom_eq_none : findFrom fs start = .ok none ↔ Absent fs start := by
  have other (dir : Path) : (fromFile fs (fileIn dir)).map (fun c => some (c, homeIn dir)) ≠ .ok none := by
    cases fromFile fs (fileIn dir) <;> simp [Except.map]
  simp [findFrom_eq_iff, other]

/-- The search for settings takes steps up for as long as there are any, to the root or to the empty
path, and ends at the nearest directory with a file of settings: with the settings of that file, or with
the reason why it cannot be read or understood, whatever there is further up. It comes to nothing if
there is no such file on the whole way, its last directory included, and only then. -/
theorem discovery_finds_nearest (fs : FileSystem) (start : Path) :
    (∃ steps last, start.up? steps = some last ∧
      last.components = (if start.isAbsolute then [.root] else []) ∧
      ∀ n, (start.up? n).isSome = true ↔ n ≤ steps) ∧
    (∀ n dir, start.up? n = some dir →
      dir.components = start.components.take (start.components.length - n)) ∧
    (∀ c home, findFrom fs start = .ok (some (c, home)) ↔
      ∃ steps dir, Nearest fs start steps dir ∧
        (∃ text, fs.readText (fileIn dir) = .ok text ∧ FromToml.document ofToml text = .ok c) ∧
        home = homeIn dir) ∧
    (∀ f, findFrom fs start = .error f ↔ ∃ steps dir, Nearest fs start steps dir ∧
      ((∃ e, fs.readText (fileIn dir) = .error e ∧
          f = ⟨"Failed to read config file: " ++ (fileIn dir).display, [e.message]⟩) ∨
        ∃ text cause, fs.readText (fileIn dir) = .ok text ∧ FromToml.document ofToml text = .error cause ∧
          f = ⟨"Failed to parse config file: " ++ (fileIn dir).display, [cause]⟩)) ∧
    (findFrom fs start = .ok none ↔
      ∀ steps dir, start.up? steps = some dir → fs.pathExists (fileIn dir) = false) := by
  obtain ⟨last, reached, top⟩ := up?_last start
  refine ⟨⟨_, last, reached, top, start.isSome_up?⟩, fun _ _ => up?_components, fun c home => ?_, fun f => ?_, ?_⟩
  · rw [findFrom_eq_some]
    simp only [fromFile_eq_ok]
  · rw [findFrom_eq_error]
    simp only [fromFile_eq_error]
  · exact findFrom_eq_none

/-- Settings that can be used, and below them others that are no text. -/
def nested : FileSystem where
  root := .directory [(home.bytes, .directory [(fileName.bytes, .file [])]),
    (Text.encode "sub", .directory [(home.bytes, .directory [(fileName.bytes, .file [0xff])])])]
  current := []

example : findFrom nested (.ofString "/sub/deep/er") = .error
    ⟨"Failed to read config file: /sub/.codeskel/config.toml", ["stream did not contain valid UTF-8"]⟩ := by
  cbv

end Config

end CodeAtlas
