import CodeAtlas.Command.Run
import CodeAtlas.Proofs.Growth

namespace CodeAtlas

namespace FileSystem

variable {made written : Place → Prop} {fs fs' fs₁ fs₂ : FileSystem}

/-- The second tree has what the first one has, and besides directories at some places and files at
others; only at these others may a file have changed. -/
structure Framed (made written : Place → Prop) (fs fs' : FileSystem) : Prop extends
    Grown written fs fs' where
  fresh : ∀ q n, fs.root.at? q = none → fs'.root.at? q = some n →
    made q ∧ n.kind = .directory [] ∨ written q ∧ n.kind = .file []

theorem Framed.refl (fs : FileSystem) : Framed made written fs fs where
  toGrown := .refl fs
  fresh q n nothing there := by
    rw [nothing] at there
    contradiction

theorem Framed.trans (first : Framed made written fs fs₁) (second : Framed made written fs₁ fs₂) :
    Framed made written fs fs₂ where
  toGrown := first.toGrown.trans second.toGrown
  fresh q n nothing there := by
    cases between : fs₁.root.at? q with
    | none => exact second.fresh q n between there
    | some n₁ =>
      obtain ⟨n₂, there₂, kind, _⟩ := second.kept q n₁ between
      rw [there] at there₂
      cases there₂
      rw [kind]
      exact first.fresh q n₁ nothing between

theorem Framed.mono {more others : Place → Prop} (framed : Framed made written fs fs')
    (directories : ∀ q, made q → more q) (files : ∀ q, written q → others q) :
    Framed more others fs fs' where
  toGrown := framed.toGrown.mono files
  fresh q n nothing there :=
    (framed.fresh q n nothing there).imp (And.imp_left (directories q)) (And.imp_left (files q))

/-- What is put in a directory, with nothing below it, is all that comes to be. -/
theorem fresh_put {way : Place} {name : Bytes} {entries : List (Bytes × Node)} {new : Node}
    (above : fs.root.at? way = some (.directory entries)) (bare : ∀ first below, new.at? (first :: below) = none)
    {q : Place} {n : Node} (nothing : fs.root.at? q = none)
    (there : (fs.root.alter (some new) (way ++ [name])).at? q = some n) : q = way ++ [name] ∧ n = new := by
  obtain ⟨here, elsewhere⟩ := Node.at?_alter above name new q
  by_cases within : way ++ [name] <+: q
  · obtain ⟨below, rfl⟩ := within
    rw [Node.at?_append, here, Option.bind_some] at there
    cases below with
    | nil =>
      cases there
      exact ⟨List.append_nil _, rfl⟩
    | cons first below =>
      rw [bare] at there
      contradiction
  · have same := elsewhere within
    rw [nothing, there] at same
    contradiction

/-- Empty parts lead nowhere else from a directory. -/
theorem follow_empty {place : Place} {entries : List (Bytes × Node)}
    (there : fs.root.at? place = some (.directory entries)) {parts : List Bytes}
    (empty : parts.all List.isEmpty = true) (last : Bool) (links : Nat) :
    fs.follow last links place parts = .ok (place, some (.directory entries)) := by
  induction parts with
  | nil => rw [follow_nil, there]
  | cons part parts ih =>
    rw [List.all_cons, Bool.and_eq_true, List.isEmpty_iff] at empty
    obtain ⟨rfl, empty⟩ := empty
    rw [follow_cons, turn_directory there]
    exact ih empty

/-- A part that was missing leads to the directory that was made of its name. -/
theorem Grown.turn_made (grown : Grown written fs fs') {q : Place} {part : Bytes}
    (missing : fs.turn q part = .missing) {entries : List (Bytes × Node)}
    (made : fs'.root.at? (q ++ [part]) = some (.directory entries)) :
    fs'.turn q part = .goes (q ++ [part]) := by
  cases there : fs.root.at? q with
  | none => simp [FileSystem.turn, there] at missing
  | some n =>
    cases n with
    | file | link | pipe => simp [FileSystem.turn, there] at missing
    | locked isDirectory =>
      cases isDirectory with
      | false => simp [FileSystem.turn, there] at missing
      | true =>
        simp only [FileSystem.turn, there] at missing
        split at missing <;> contradiction
    | directory es =>
      obtain ⟨es', there'⟩ := grown.at_directory there
      have turned := turn_eq_fromDirectory there' part
      rcases Turn.fromDirectory_cases q part with same | named
      · rw [same _ (fs.root.at? (q ++ [part])), ← turn_eq_fromDirectory there, missing] at turned
        cases made.symm.trans (turn_tells.1 turned)
      · rw [turned, named, made]
        rfl

/-- A path that led nowhere leads to the directory that was made where it ends. -/
theorem Grown.follow_made (grown : Grown written fs fs') {last : Bool} {links : Nat} {q place : Place}
    {parts : List Bytes} {entries : List (Bytes × Node)} (nonempty : parts ≠ [])
    (led : fs.follow last links q parts = .ok (place, none))
    (made : fs'.root.at? place = some (.directory entries)) :
    fs'.follow true links q parts = .ok (place, some (.directory entries)) := by
  cases parts with
  | nil => contradiction
  | cons part rest =>
    rcases follow_next led with ⟨next, turned, on⟩ | ⟨turned, ended⟩ |
      ⟨target, turned, ⟨_, here⟩ | ⟨_, spelled, fewer, rfl, on⟩⟩
    · rcases eq_or_ne rest [] with rfl | more
      · obtain ⟨n, atNext, _⟩ := turn_there turned
        rw [follow_nil, atNext] at on
        cases on
      · rw [follow_cons, grown.turn.1 next turned]
        exact grown.follow_made more on made
    · obtain ⟨rfl, _⟩ := Prod.mk.inj ended
      rw [follow_cons, turned] at led
      dsimp only at led
      split at led
      · rename_i empty
        rw [follow_cons, grown.turn_made turned made]
        exact follow_empty made empty true links
      · contradiction
    · cases here
    · rw [follow_link (grown.turn.2 target turned) spelled]
      exact grown.follow_made (by simp [Path.pieces_ne_nil]) on made
termination_by (links, parts.length)

theorem Grown.find_made (grown : Grown written fs fs') {last : Bool} {p : Path} {place : Place}
    {entries : List (Bytes × Node)} (found : fs.find last p = .ok (place, none))
    (made : fs'.root.at? place = some (.directory entries)) :
    fs'.find true p = .ok (place, some (.directory entries)) := by
  obtain ⟨noZero, spelled, short, led⟩ := find_eq_ok found
  have led' := grown.follow_made (Path.pieces_ne_nil _) led made
  rwa [find_eq_follow noZero spelled short, grown.current]

theorem makeDirectory_framed {p : Path} (done : fs.makeDirectory p = .ok fs') :
    Framed (fs'.LeadsTo p) written fs fs' where
  toGrown := makeDirectory_grown done
  fresh q n nothing there := by
    have grown : Grown written fs fs' := makeDirectory_grown done
    obtain ⟨way, name, entries, found, _, above, rfl⟩ := makeDirectory_place done
    obtain ⟨rfl, rfl⟩ := fresh_put above (fun _ _ => rfl) nothing there
    exact .inl ⟨⟨_, grown.find_made found there⟩, rfl⟩

/-- Directories are made where the path leads, and the paths above it. -/
theorem makeDirectories_framed {p : Path} (done : fs.makeDirectories p = .ok fs') :
    Framed (fun q => ∃ p' ∈ p :: p.above, fs'.LeadsTo p' q) written fs fs' := by
  let upTo (after : FileSystem) := Framed (fun q => ∃ p' ∈ p :: p.above, after.LeadsTo p' q) written fs after
  have start : upTo fs := .refl fs
  change upTo fs'
  refine makeDirectories_steps start ?_ done
  intro p' onWay before after framed made
  have last : Framed (after.LeadsTo p') written before after := makeDirectory_framed made
  refine (framed.mono ?_ fun _ => id).trans (last.mono (fun q leads => ⟨p', onWay, leads⟩) fun _ => id)
  rintro q ⟨p'', earlier, leads⟩
  exact ⟨p'', earlier, last.leadsTo leads⟩

theorem write_framed {p : Path} {content : Bytes} (done : fs.write p content = .ok fs') :
    Framed made (fs'.LeadsTo p) fs fs' := by
  obtain ⟨place, found, grown⟩ := write_grown done
  obtain ⟨place', n, _, isOpen, rfl, all⟩ := write_place done
  obtain ⟨rfl, _⟩ := Prod.mk.inj (Except.ok.inj (found.symm.trans (all content).2))
  refine ⟨grown.mono fun q same => ⟨.file content, by rw [same]; exact found⟩, fun q m nothing there => ?_⟩
  obtain ⟨⟨way, name, entries, rfl, above⟩, _⟩ := isOpen
  obtain ⟨rfl, rfl⟩ := fresh_put above (fun _ _ => rfl) nothing there
  exact .inr ⟨⟨_, found⟩, rfl⟩

theorem tryWrite_framed (fs : FileSystem) (p : Path) (content : Bytes) :
    Framed made (((fs.write p content).toOption.getD fs).LeadsTo p) fs
      ((fs.write p content).toOption.getD fs) := by
  cases done : fs.write p content with
  | error e => exact .refl fs
  | ok fs' => exact write_framed done

end FileSystem

namespace Run

open FileSystem

variable {s : Surroundings} {dir : Path} {fs : FileSystem}

/-- The directory of a log is made, as far as it was missing, and its file in it. -/
theorem openLog_framed (s : Surroundings) (dir : Path) (fs : FileSystem) :
    let fs' := (openLog s (some dir) fs).2
    Framed (fun q => ∃ p ∈ dir :: dir.above, fs'.LeadsTo p q) (fs'.LeadsTo (logFile s dir)) fs fs' := by
  rw [openLog]
  cases made : fs.makeDirectories dir with
  | error e => exact .refl fs
  | ok fs₁ =>
    dsimp only
    cases wrote : fs₁.write (logFile s dir) ((fs₁.read (logFile s dir)).toOption.getD []) with
    | error e => exact makeDirectories_framed made
    | ok fs₂ =>
      have filed (made : Place → Prop) : Framed made (fs₂.LeadsTo (logFile s dir)) fs₁ fs₂ :=
        write_framed wrote
      refine ((makeDirectories_framed made).mono ?_ fun _ => id).trans (filed _)
      exact fun q ⟨p, member, leads⟩ => ⟨p, member, (filed fun _ => False).leadsTo leads⟩

/-- A log that is kept is kept in the file of the day. -/
theorem eq_of_openLog_kept {file : Path} (kept : (openLog s (some dir) fs).1 = .kept file) :
    file = logFile s dir := by
  rw [openLog] at kept
  split at kept
  · contradiction
  · dsimp only at kept
    split at kept
    · contradiction
    · exact (Log.kept.inj kept).symm

theorem closeLog_framed {made : Place → Prop} (s : Surroundings) (file : Path) (records : List LogRecord)
    (fs : FileSystem) :
    Framed made ((closeLog s records fs (.kept file)).LeadsTo file) fs
      (closeLog s records fs (.kept file)) :=
  tryWrite_framed ..

end Run

end CodeAtlas
