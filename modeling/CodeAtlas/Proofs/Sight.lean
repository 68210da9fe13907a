import CodeAtlas.FileSystem.Access
import Mathlib.Tactic.Common

namespace CodeAtlas

namespace Node

/-- A node without what lies below it. -/
def shape : Node → Node
  | directory _ => directory []
  | n => n

theorem at?_append (n : Node) (p q : Place) : n.at? (p ++ q) = (n.at? p).bind (·.at? q) := by
  induction p generalizing n with
  | nil => rfl
  | cons name p ih =>
    rw [List.cons_append, at?, at?]
    cases n.child? name with
    | none => rfl
    | some child => exact ih child

theorem at?_singleton (n : Node) (name : Bytes) : n.at? [name] = n.child? name := by
  rw [at?]
  cases n.child? name <;> rfl

theorem at?_child {n m : Node} {p : Place} (there : n.at? p = some m) (name : Bytes) :
    n.at? (p ++ [name]) = m.child? name := by
  rw [at?_append, there, Option.bind_some, at?_singleton]

theorem at?_below_leaf {n : Node} (leaf : n.isOpen = false) (name : Bytes) (q : Place) :
    n.at? (name :: q) = none := by
  cases n with
  | directory entries => contradiction
  | file | link | pipe | locked => rfl

theorem isDirectory_of_isOpen {n : Node} (isOpen : n.isOpen = true) : n.isDirectory = true := by
  cases n with
  | directory entries => rfl
  | file | link | pipe | locked => contradiction

theorem isOpen_of_below {n m : Node} {name : Bytes} {q : Place}
    (there : n.at? (name :: q) = some m) : n.isOpen = true := by
  by_contra leaf
  rw [at?_below_leaf (by simpa using leaf)] at there
  contradiction

/-- A fact of every node in a tree. -/
def Everywhere (P : Node → Prop) (n : Node) : Prop :=
  ∀ q m, n.at? q = some m → P m

section
variable {P : Node → Prop} {n m : Node}

theorem Everywhere.below (all : n.Everywhere P) {p : Place} (there : n.at? p = some m) :
    m.Everywhere P := by
  intro q k found
  refine all (p ++ q) k ?_
  rw [at?_append, there, Option.bind_some, found]

theorem Everywhere.child (all : n.Everywhere P) {name : Bytes} (named : n.child? name = some m) :
    m.Everywhere P :=
  all.below ((at?_singleton n name).trans named)

theorem Everywhere.leaf (leaf : n.isOpen = false) (here : P n) : n.Everywhere P := by
  intro q k found
  cases q with
  | nil =>
    cases found
    exact here
  | cons name q =>
    rw [at?_below_leaf leaf] at found
    contradiction

theorem Everywhere.directory {entries : List (Bytes × Node)} (here : P (.directory entries))
    (each : ∀ e ∈ entries, e.2.Everywhere P) : (Node.directory entries).Everywhere P := by
  intro q k found
  cases q with
  | nil =>
    cases found
    exact here
  | cons name q =>
    obtain ⟨child, named, inside⟩ := Option.bind_eq_some_iff.mp found
    obtain ⟨e, first, rfl⟩ := Option.map_eq_some_iff.mp named
    exact each e (List.mem_of_find?_eq_some first) q k inside

end

mutual

/-- A check of a node and of all that lies below it. -/
def every (check : Node → Bool) : Node → Bool
  | directory entries => check (directory entries) && everyEntry check entries
  | file content => check (file content)
  | link target => check (link target)
  | pipe => check pipe
  | locked sort => check (locked sort)

def everyEntry (check : Node → Bool) : List (Bytes × Node) → Bool
  | [] => true
  | (_, n) :: rest => n.every check && everyEntry check rest

end

section
variable {check : Node → Bool}

theorem every_here {n : Node} (each : n.every check = true) : check n = true := by
  cases n with
  | directory entries => exact (Bool.and_eq_true_iff.mp each).1
  | file | link | pipe | locked => exact each

theorem every_of_mem {entries : List (Bytes × Node)} (each : everyEntry check entries = true)
    {e : Bytes × Node} (member : e ∈ entries) : e.2.every check = true := by
  induction entries with
  | nil => contradiction
  | cons first rest ih =>
    obtain ⟨here, later⟩ := Bool.and_eq_true_iff.mp each
    rcases List.mem_cons.mp member with rfl | member
    · exact here
    · exact ih later member

/-- What a check finds at every node is so everywhere. -/
theorem Everywhere.of_every {P : Node → Prop} [DecidablePred P] {n : Node}
    (each : n.every (fun m => decide (P m)) = true) : n.Everywhere P := by
  intro q m there
  induction q generalizing n with
  | nil =>
    cases there
    exact of_decide_eq_true (every_here each)
  | cons name q ih =>
    obtain ⟨child, named, inside⟩ := Option.bind_eq_some_iff.mp there
    obtain ⟨e, first, rfl⟩ := Option.map_eq_some_iff.mp named
    have member := List.mem_of_find?_eq_some first
    cases n with
    | directory entries => exact ih (every_of_mem (Bool.and_eq_true_iff.mp each).2 member) inside
    | file | link | pipe | locked => contradiction

end

theorem isOpen_iff {n : Node} : n.isOpen = true ↔ ∃ entries, n = directory entries := by
  cases n with
  | directory entries => exact iff_of_true rfl ⟨entries, rfl⟩
  | file | link | pipe | locked => exact iff_of_false Bool.false_ne_true fun ⟨_, same⟩ => nomatch same

theorem shape_eq_directory {n : Node} (same : n.shape = directory []) :
    ∃ entries, n = directory entries := by
  cases n with
  | directory entries => exact ⟨entries, rfl⟩
  | file | link | pipe | locked => contradiction

/-- What has no entries is known by its shape. -/
theorem eq_of_shape {n m : Node} (same : n.shape = m.shape) (leaf : n.isOpen = false) :
    n = m := by
  cases n with
  | directory entries => contradiction
  | file | link | pipe | locked => cases m <;> simp_all [shape]

/-- The second tree holds what the first one holds, but for the files at some places. -/
structure AgreeBut (gone : Place → Prop) (n n' : Node) : Prop where
  kept : ∀ q, ¬gone q → (n.at? q).map shape = (n'.at? q).map shape
  lost : ∀ q, gone q → (∃ m, n.at? q = some m ∧ m.isFile = true) ∧ n'.at? q = none

variable {gone : Place → Prop} {n n' : Node}

theorem AgreeBut.present (agree : AgreeBut gone n n') {q : Place} {m' : Node}
    (there' : n'.at? q = some m') : ¬gone q := by
  intro lost
  cases there'.symm.trans (agree.lost q lost).2

theorem AgreeBut.at_none (agree : AgreeBut gone n n') {q : Place} (kept : ¬gone q)
    (nothing : n.at? q = none) : n'.at? q = none := by
  have same := agree.kept q kept
  rw [nothing] at same
  exact Option.map_eq_none_iff.mp same.symm

theorem AgreeBut.at_some (agree : AgreeBut gone n n') {q : Place} {m : Node} (kept : ¬gone q)
    (there : n.at? q = some m) : ∃ m', n'.at? q = some m' ∧ m.shape = m'.shape := by
  have same := agree.kept q kept
  rw [there] at same
  obtain ⟨m', there', shape⟩ := Option.map_eq_some_iff.mp same.symm
  exact ⟨m', there', shape.symm⟩

theorem AgreeBut.at_leaf (agree : AgreeBut gone n n') {q : Place} {m : Node} (kept : ¬gone q)
    (there : n.at? q = some m) (leaf : m.isOpen = false) : n'.at? q = some m := by
  obtain ⟨m', there', shape⟩ := agree.at_some kept there
  rw [there', eq_of_shape shape leaf]

theorem AgreeBut.at_directory (agree : AgreeBut gone n n') {q : Place}
    {entries : List (Bytes × Node)} (there : n.at? q = some (directory entries)) :
    ¬gone q ∧ ∃ entries', n'.at? q = some (directory entries') := by
  have kept : ¬gone q := by
    intro lost
    obtain ⟨⟨m, there', isFile⟩, _⟩ := agree.lost q lost
    cases there.symm.trans there'
    contradiction
  obtain ⟨m', there', shape⟩ := agree.at_some kept there
  obtain ⟨entries', rfl⟩ := shape_eq_directory shape.symm
  exact ⟨kept, entries', there'⟩

/-- What is below a place agrees as the whole trees do. -/
theorem AgreeBut.below (agree : AgreeBut gone n n') {p : Place} {m m' : Node}
    (there : n.at? p = some m) (there' : n'.at? p = some m') :
    AgreeBut (fun q => gone (p ++ q)) m m' where
  kept q notGone := by
    have same := agree.kept (p ++ q) notGone
    rwa [at?_append, at?_append, there, there'] at same
  lost q isGone := by
    have lost := agree.lost (p ++ q) isGone
    rwa [at?_append, at?_append, there, there'] at lost

end Node

namespace FileSystem

/-- Where a part of a path leads from a place. -/
inductive Turn where
  | goes (place : Place)
  | link (target : Bytes)
  | missing
  | fails (e : FileError)

def Turn.ofChild (next : Place) : Option Node → Turn
  | none => .missing
  | some (.link target) => .link target
  | some _ => .goes next

def turn (fs : FileSystem) (place : Place) (part : Bytes) : Turn :=
  match fs.root.at? place with
  | some (.directory es) =>
    if part = [] ∨ part = [Path.point] then .goes place
    else if part = [Path.point, Path.point] then .goes place.dropLast
    else if part.length > maxName then .fails .nameTooLong
    else .ofChild (place ++ [part]) ((Node.directory es).child? part)
  | some (.locked true) => if part = [] then .goes place else .fails .permissionDenied
  | some _ => .fails .notDirectory
  | none => .fails .notFound

theorem Turn.ofChild_file {n : Node} (isFile : n.isFile = true) (next : Place) :
    ofChild next (some n) = .goes next := by
  cases n with
  | file | locked => rfl
  | directory | link | pipe => contradiction

theorem Turn.ofChild_shape (next : Place) (n : Option Node) :
    ofChild next (n.map Node.shape) = ofChild next n := by
  cases n with
  | none => rfl
  | some n => cases n <;> rfl

/-- Where a part leads from a directory, with `child` for what is at the place of the part. -/
def Turn.fromDirectory (place : Place) (part : Bytes) (child : Option Node) : Turn :=
  if part = [] ∨ part = [Path.point] then .goes place
  else if part = [Path.point, Path.point] then .goes place.dropLast
  else if part.length > maxName then .fails .nameTooLong
  else .ofChild (place ++ [part]) child

theorem turn_eq_fromDirectory {fs : FileSystem} {place : Place} {entries : List (Bytes × Node)}
    (there : fs.root.at? place = some (.directory entries)) (part : Bytes) :
    fs.turn place part = .fromDirectory place part (fs.root.at? (place ++ [part])) := by
  rw [Node.at?_child there]
  simp only [turn, there, Turn.fromDirectory]

/-- What is at the place of the part does not matter, or is all that matters. -/
theorem Turn.fromDirectory_cases (place : Place) (part : Bytes) :
    (∀ child child', fromDirectory place part child = fromDirectory place part child') ∨
      ∀ child, fromDirectory place part child = ofChild (place ++ [part]) child := by
  unfold fromDirectory
  split
  · exact .inl fun _ _ => rfl
  · split
    · exact .inl fun _ _ => rfl
    · split
      · exact .inl fun _ _ => rfl
      · exact .inr fun _ => rfl

/-- Turns that tell what is at the place of the part. -/
theorem turn_tells {fs : FileSystem} {place : Place} {part : Bytes} :
    (fs.turn place part = .missing → fs.root.at? (place ++ [part]) = none) ∧
      ∀ target, fs.turn place part = .link target →
        fs.root.at? (place ++ [part]) = some (.link target) := by
  cases there : fs.root.at? place with
  | none => simp [turn, there]
  | some n =>
    cases n with
    | file | link | pipe => simp [turn, there]
    | locked sort =>
      cases sort with
      | false => simp [turn, there]
      | true =>
        simp only [turn, there]
        split <;> simp
    | directory es =>
      rw [Node.at?_child there]
      simp only [turn, there]
      split
      · simp
      · split
        · simp
        · split
          · simp
          · cases (Node.directory es).child? part with
            | none => simp [Turn.ofChild]
            | some child => cases child <;> simp [Turn.ofChild]

theorem follow_nil (fs : FileSystem) (last : Bool) (links : Nat) (place : Place) :
    fs.follow last links place [] = .ok (place, fs.root.at? place) := by
  rw [follow]

/-- One step of a descent. -/
theorem follow_cons (fs : FileSystem) (last : Bool) (links : Nat) (place : Place) (part : Bytes)
    (rest : List Bytes) :
    fs.follow last links place (part :: rest) =
      match fs.turn place part with
      | .goes next => fs.follow last links next rest
      | .missing =>
        if rest.all List.isEmpty then .ok (place ++ [part], none) else .error .notFound
      | .link target =>
        if rest.isEmpty && !last then .ok (place ++ [part], some (.link target))
        else match links with
          | 0 => .error .tooManyLinks
          | links + 1 =>
            if target = [] then .error .notFound
            else fs.follow last links (if target.head? = some Path.slash then [] else place)
              (Path.pieces target ++ rest)
      | .fails e => .error e := by
  rw [follow]
  cases there : fs.root.at? place with
  | none => simp only [turn, there]
  | some n =>
    cases n with
    | file | link | pipe => simp only [turn, there]
    | locked sort =>
      cases sort with
      | false => simp only [turn, there]
      | true =>
        simp only [turn, there]
        split <;> rfl
    | directory es =>
      simp only [turn, there]
      split
      · rfl
      · split
        · rfl
        · split
          · rfl
          · cases found : (Node.directory es).child? part with
            | none => rfl
            | some child => cases child <;> rfl

section
variable {gone : Place → Prop} {fs fs' : FileSystem}

/-- At a place that both trees have, a part leads to the same, unless the file it names is gone. -/
theorem turn_agree (agree : fs.root.AgreeBut gone fs'.root) {place : Place} (kept : ¬gone place)
    (part : Bytes) :
    fs'.turn place part = fs.turn place part ∨
      gone (place ++ [part]) ∧ fs.turn place part = .goes (place ++ [part]) ∧
        fs'.turn place part = .missing := by
  cases there : fs.root.at? place with
  | none => exact Or.inl (by simp only [turn, there, agree.at_none kept there])
  | some n =>
    by_cases leaf : n.isOpen = false
    · exact Or.inl (by simp only [turn, there, agree.at_leaf kept there leaf])
    · obtain ⟨es, rfl⟩ := Node.isOpen_iff.mp (by simpa using leaf)
      obtain ⟨_, es', there'⟩ := agree.at_directory there
      rw [turn_eq_fromDirectory there, turn_eq_fromDirectory there']
      rcases Turn.fromDirectory_cases place part with same | named
      · exact Or.inl (same _ _)
      · rw [named, named]
        by_cases lost : gone (place ++ [part])
        · obtain ⟨⟨m, file, isFile⟩, nothing⟩ := agree.lost _ lost
          rw [file, nothing]
          exact Or.inr ⟨lost, Turn.ofChild_file isFile _, rfl⟩
        · rw [← Turn.ofChild_shape, ← agree.kept _ lost, Turn.ofChild_shape]
          exact Or.inl rfl

/-- What the same path leads to in two trees that agree but for the files at some places: the same
failure, the same place, or such a file in the first tree and nothing in the second. -/
inductive Found (gone : Place → Prop) (root root' : Node) :
    Except FileError (Place × Option Node) → Except FileError (Place × Option Node) → Prop
  | failed (e : FileError) : Found gone root root' (.error e) (.error e)
  | same {q : Place} : ¬gone q → Found gone root root' (.ok (q, root.at? q)) (.ok (q, root'.at? q))
  | lost {q : Place} {a b} : gone q → (a = .ok (q, root.at? q) ∨ ∃ e, a = .error e) →
      (b = .ok (q, none) ∨ ∃ e, b = .error e) → Found gone root root' a b

theorem Found.here (agree : fs.root.AgreeBut gone fs'.root) (q : Place) :
    Found gone fs.root fs'.root (.ok (q, fs.root.at? q)) (.ok (q, fs'.root.at? q)) := by
  by_cases lost : gone q
  · rw [(agree.lost q lost).2]
    exact .lost lost (Or.inl rfl) (Or.inl rfl)
  · exact .same lost

/-- Nothing is found below a file. -/
theorem follow_file {place : Place} {n : Node} (there : fs.root.at? place = some n)
    (isFile : n.isFile = true) (last : Bool) (links : Nat)
    (parts : List Bytes) :
    fs.follow last links place parts = .ok (place, fs.root.at? place) ∨
      ∃ e, fs.follow last links place parts = .error e := by
  cases parts with
  | nil => exact Or.inl (fs.follow_nil last links place)
  | cons part rest =>
    have fails : fs.turn place part = .fails .notDirectory := by
      cases n with
      | file => simp only [turn, there]
      | locked sort =>
        cases sort with
        | false => simp only [turn, there]
        | true => contradiction
      | directory | link | pipe => contradiction
    rw [follow_cons, fails]
    exact Or.inr ⟨_, rfl⟩

theorem follow_found (agree : fs.root.AgreeBut gone fs'.root) (last : Bool) (links : Nat)
    (place : Place) (parts : List Bytes) :
    Found gone fs.root fs'.root (fs.follow last links place parts)
      (fs'.follow last links place parts) := by
  by_cases start : gone place
  · obtain ⟨⟨m, file, isFile⟩, nothing⟩ := agree.lost place start
    refine .lost start (follow_file file isFile last links parts) ?_
    cases parts with
    | nil => exact Or.inl (by rw [follow_nil, nothing])
    | cons part rest =>
      rw [follow_cons, turn, nothing]
      exact Or.inr ⟨_, rfl⟩
  · match parts with
    | [] =>
      rw [follow_nil, follow_nil]
      exact .here agree place
    | part :: rest =>
      rw [follow_cons, follow_cons]
      -- The ways part only at a file that is gone, below which neither goes on.
      rcases turn_agree agree start part with same | ⟨lost, goes, missing⟩
      · rw [same]
        cases turned : fs.turn place part with
        | goes next => exact follow_found agree last links next rest
        | fails e => exact .failed e
        | missing =>
          have nothing := turn_tells.1 turned
          have nothing' := turn_tells.1 (same.trans turned)
          have found := Found.here agree (place ++ [part])
          rw [nothing, nothing'] at found
          dsimp only
          split
          · exact found
          · exact .failed _
        | link target =>
          have there := turn_tells.2 target turned
          have there' := turn_tells.2 target (same.trans turned)
          have found := Found.here agree (place ++ [part])
          rw [there, there'] at found
          dsimp only
          split
          · exact found
          · cases links with
            | zero => exact .failed _
            | succ links =>
              dsimp only
              split
              · exact .failed _
              · exact follow_found agree last links _ _
      · rw [goes, missing]
        obtain ⟨⟨m, file, isFile⟩, nothing⟩ := agree.lost _ lost
        refine .lost lost (follow_file file isFile last links rest) ?_
        dsimp only
        split
        · exact Or.inl rfl
        · exact Or.inr ⟨_, rfl⟩
termination_by (links, parts.length)

theorem find_found (agree : fs.root.AgreeBut gone fs'.root) (current : fs'.current = fs.current)
    (last : Bool) (p : Path) :
    Found gone fs.root fs'.root (fs.find last p) (fs'.find last p) := by
  unfold find
  split
  · exact .failed _
  · split
    · exact .failed _
    · split
      · exact .failed _
      · rw [current]
        exact follow_found agree last _ _ _

/-- A path that leads to a place that is left leads there in both trees. -/
theorem find_kept (agree : fs.root.AgreeBut gone fs'.root) (current : fs'.current = fs.current)
    {last : Bool} {p : Path} {q : Place} {n : Option Node} (kept : ¬gone q)
    (found : fs.find last p = .ok (q, n)) : fs'.find last p = .ok (q, fs'.root.at? q) := by
  have both := find_found agree current last p
  rw [found] at both
  generalize fs'.find last p = after at both ⊢
  cases both with
  | same _ => rfl
  | lost isGone first _ =>
    rcases first with same | ⟨e, failed⟩
    · cases same
      exact absurd isGone kept
    · contradiction

/-- What is found is what is at the place. -/
theorem find_at {last : Bool} {p : Path} {q : Place} {n : Option Node}
    (found : fs.find last p = .ok (q, n)) : n = fs.root.at? q := by
  have itself : fs.root.AgreeBut (fun _ => False) fs.root :=
    ⟨fun _ _ => rfl, fun _ isGone => isGone.elim⟩
  have both := find_found itself rfl last p
  rw [found] at both
  cases both with
  | same _ => rfl
  | lost isGone => exact isGone.elim

theorem contentOf_shape (n : Option Node) : contentOf (n.map Node.shape) = contentOf n := by
  cases n with
  | none => rfl
  | some n => cases n <;> rfl

/-- Only a file has content. -/
theorem eq_of_contentOf {n : Option Node} {content : Bytes} (read : contentOf n = .ok content) :
    n = some (.file content) := by
  unfold contentOf at read
  split at read <;> cases read
  rfl

theorem read_of_find {p : Path} {q : Place} {n : Option Node} (found : fs.find true p = .ok (q, n)) :
    fs.read p = contentOf n := by
  rw [read, found]
  rfl

theorem read_of_error {p : Path} {e : FileError} (failed : fs.find true p = .error e) :
    fs.read p = .error e := by
  rw [read, failed]
  rfl

/-- A path reads the same in both trees, unless it leads to a file that is gone. -/
theorem read_agree (agree : fs.root.AgreeBut gone fs'.root) (current : fs'.current = fs.current)
    (p : Path) :
    fs'.read p = fs.read p ∨ ∃ q, gone q ∧ (∃ e, fs'.read p = .error e) ∧
      ∀ content, fs.read p = .ok content → fs.find true p = .ok (q, some (.file content)) := by
  have found := find_found agree current true p
  generalize before : fs.find true p = a at found
  generalize after : fs'.find true p = b at found
  cases found with
  | failed e => exact Or.inl (by rw [read_of_error before, read_of_error after])
  | @same q kept =>
    refine Or.inl ?_
    rw [read_of_find before, read_of_find after, ← contentOf_shape, ← agree.kept q kept,
      contentOf_shape]
  | @lost q _ _ isGone first second =>
    refine Or.inr ⟨q, isGone, ?_, fun content read => ?_⟩
    · rcases second with rfl | ⟨e, rfl⟩
      · exact ⟨_, read_of_find after⟩
      · exact ⟨e, read_of_error after⟩
    · rcases first with rfl | ⟨e, rfl⟩
      · obtain ⟨⟨m, file, isFile⟩, _⟩ := agree.lost q isGone
        rw [read_of_find before, file] at read
        rw [file, eq_of_contentOf read]
      · rw [read_of_error before] at read
        contradiction

end

end FileSystem

end CodeAtlas
