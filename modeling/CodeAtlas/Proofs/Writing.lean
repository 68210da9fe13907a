import CodeAtlas.Proofs.Naming
import CodeAtlas.Proofs.Removal

namespace CodeAtlas

namespace Node

theorem child?_setIn_some (entries : List (Bytes × Node)) (name : Bytes) (new : Node) (other : Bytes) :
    (directory (setIn name (some new) entries)).child? other =
      if other = name then some new else (directory entries).child? other :=
  child?_setIn (fun taken : some new = none => nomatch taken) other

/-- What is put further down is put into the entry on the way to it. -/
theorem alter_below {entries : List (Bytes × Node)} {first : Bytes} {child : Node}
    (named : (directory entries).child? first = some child) (above : Place) (name : Bytes) (new : Node) :
    (directory entries).alter (some new) (first :: above ++ [name]) =
      directory (setIn first (some (child.alter (some new) (above ++ [name]))) entries) := by
  rw [List.cons_append]
  cases above <;> simp only [List.nil_append, List.cons_append, alter, named]

/-- What is put at a place is there, and the rest of the tree is what it was. -/
theorem at?_alter {n : Node} {above : Place} {entries : List (Bytes × Node)}
    (there : n.at? above = some (directory entries)) (name : Bytes) (new : Node) (q : Place) :
    ((n.alter (some new) (above ++ [name])).at? (above ++ [name]) = some new) ∧
      (¬(above ++ [name]) <+: q →
        ((n.alter (some new) (above ++ [name])).at? q).map shape = (n.at? q).map shape) := by
  induction above generalizing n q with
  | nil =>
    cases there
    rw [List.nil_append, alter]
    constructor
    · rw [at?_singleton, child?_setIn_some, if_pos rfl]
    · intro apart
      cases q with
      | nil => rfl
      | cons other q =>
        have different : other ≠ name := fun same => apart ⟨q, by rw [same]; rfl⟩
        rw [at?, at?, child?_setIn_some, if_neg different]
  | cons first above ih =>
    obtain ⟨child, named, inside⟩ := Option.bind_eq_some_iff.mp there
    cases n with
    | file | link | pipe | locked => contradiction
    | directory es =>
      rw [alter_below named]
      constructor
      · rw [List.cons_append, at?, child?_setIn_some, if_pos rfl]
        exact (ih inside q).1
      · intro apart
        cases q with
        | nil => rfl
        | cons other q =>
          rw [at?, at?, child?_setIn_some]
          split
          · rename_i same
            subst same
            rw [named]
            exact (ih inside q).2 fun within => apart (List.cons_prefix_cons.mpr ⟨rfl, within⟩)
          · rfl

end Node

namespace FileSystem

variable {fs : FileSystem}

theorem writeError?_of_isDirectory {n : Node} (isDirectory : n.isDirectory = true) :
    writeError? (some n) = some .isDirectory := by
  rcases n with _ | _ | _ | _ | _ | _ <;> first | rfl | contradiction

theorem writeError?_eq_none {n : Option Node} (free : writeError? n = none) :
    n = none ∨ ∃ content, n = some (.file content) := by
  rcases n with _ | content | _ | _ | _ | _ | _ <;>
    first | exact .inl rfl | exact .inr ⟨content, rfl⟩ | contradiction

/-- A place for a file: a directory above it, and nothing in its way but a file. -/
structure Open (fs : FileSystem) (place : Place) : Prop where
  above : ∃ way name entries, place = way ++ [name] ∧ fs.root.at? way = some (.directory entries)
  free : writeError? (fs.root.at? place) = none

theorem Open.written {place : Place} (isOpen : fs.Open place) (content : Bytes) :
    (fs.withFile place content).root.at? place = some (.file content) := by
  obtain ⟨⟨way, name, entries, rfl, there⟩, _⟩ := isOpen
  exact (Node.at?_alter there name (.file content) []).1

theorem Open.kept {place q : Place} (isOpen : fs.Open place) (content : Bytes) (apart : ¬place <+: q) :
    ((fs.withFile place content).root.at? q).map Node.shape = (fs.root.at? q).map Node.shape := by
  obtain ⟨⟨way, name, entries, rfl, there⟩, _⟩ := isOpen
  exact (Node.at?_alter there name (.file content) q).2 apart

/-- No directory is at the place or below it. -/
theorem Open.apart {place q : Place} (isOpen : fs.Open place) {n : Node}
    (there : fs.root.at? q = some n) (isDirectory : n.isDirectory = true) : ¬place <+: q := by
  rintro ⟨below, rfl⟩
  rw [Node.at?_append] at there
  obtain ⟨m, here, inside⟩ := Option.bind_eq_some_iff.mp there
  have inWay : m.isDirectory = true := by
    cases below with
    | nil => exact Option.some.inj inside ▸ isDirectory
    | cons => exact Node.isDirectory_of_isOpen (Node.isOpen_of_below inside)
  have free := isOpen.free
  rw [here, writeError?_of_isDirectory inWay] at free
  contradiction

/-- From a directory a part leads where it led before, or to the file that was written. -/
theorem Open.turn {place q : Place} (isOpen : fs.Open place) {entries : List (Bytes × Node)}
    (there : fs.root.at? q = some (.directory entries)) (part : Bytes) :
    (∀ content, (fs.withFile place content).turn q part = fs.turn q part) ∨
      q ++ [part] = place ∧ ∀ content, (fs.withFile place content).turn q part = .goes place := by
  have apart := isOpen.apart there rfl
  have directory (content : Bytes) :
      ∃ es, (fs.withFile place content).root.at? q = some (.directory es) := by
    have same := isOpen.kept content apart
    rw [there] at same
    obtain ⟨n, there', shape⟩ := Option.map_eq_some_iff.mp same
    obtain ⟨es, rfl⟩ := Node.shape_eq_directory shape
    exact ⟨es, there'⟩
  have turned (content : Bytes) : (fs.withFile place content).turn q part =
      .fromDirectory q part ((fs.withFile place content).root.at? (q ++ [part])) := by
    obtain ⟨es, there'⟩ := directory content
    exact turn_eq_fromDirectory there' part
  rcases Turn.fromDirectory_cases q part with same | named
  · refine .inl fun content => ?_
    rw [turned, turn_eq_fromDirectory there]
    exact same _ _
  · by_cases atPlace : q ++ [part] = place
    · refine .inr ⟨atPlace, fun content => ?_⟩
      rw [turned, named, atPlace, isOpen.written]
      rfl
    · refine .inl fun content => ?_
      have below : ¬place <+: q ++ [part] := fun within =>
        (List.prefix_concat_iff.mp within).elim (fun same => atPlace same.symm) apart
      rw [turned, named, ← Turn.ofChild_shape, isOpen.kept content below, Turn.ofChild_shape,
        turn_eq_fromDirectory there, named]

/-- Only from a directory that opens does a path go on; otherwise it stays, if it leads anywhere. -/
theorem directory_of_follow {last : Bool} {links : Nat} {q : Place} {parts : List Bytes}
    {answer : Place × Option Node} (nonempty : parts ≠ [])
    (led : fs.follow last links q parts = .ok answer) :
    (∃ entries, fs.root.at? q = some (.directory entries)) ∨
      ∃ n, fs.root.at? q = some n ∧ n.isDirectory = true ∧ answer = (q, some n) := by
  rw [or_iff_not_imp_left]
  intro outside
  obtain ⟨e, fails, silent⟩ := turn_leaf (not_exists.mp outside)
  induction parts with
  | nil => contradiction
  | cons part rest ih =>
    rw [follow_cons] at led
    rcases eq_or_ne part [] with rfl | said
    · rcases silent with stays | fails'
      · rw [stays] at led
        dsimp only at led
        rcases eq_or_ne rest [] with rfl | more
        · rcases turn_goes stays with ⟨_, n, here, isDirectory⟩ | ⟨inside, _⟩
          · rw [follow_nil, here] at led
            exact ⟨n, here, isDirectory, (Except.ok.inj led).symm⟩
          · exact absurd inside outside
        · exact ih more led
      · rw [fails'] at led
        contradiction
    · rw [fails part said] at led
      contradiction

/-- A file that is reached, or why it is not. -/
def leadsTo (place : Place) (content : Bytes) :
    Option FileError → Except FileError (Place × Option Node)
  | none => .ok (place, some (.file content))
  | some e => .error e

/-- The way that led to the place leads to the file, unless a slash follows; this does not depend on
what is written. -/
theorem Open.follow {place : Place} (isOpen : fs.Open place) {found : Option Node} (links : Nat)
    (q : Place) (parts : List Bytes) (led : fs.follow true links q parts = .ok (place, found)) :
    ∃ failure : Option FileError, ∀ content,
      (fs.withFile place content).follow true links q parts = leadsTo place content failure := by
  match parts with
  | [] =>
    rw [follow_nil] at led
    cases led
    exact ⟨none, fun content => by rw [follow_nil, isOpen.written, leadsTo]⟩
  | part :: rest =>
    rcases directory_of_follow (List.cons_ne_nil part rest) led with
      ⟨entries, there⟩ | ⟨n, here, isDirectory, ended⟩
    case inr =>
      obtain ⟨rfl, _⟩ := Prod.mk.inj ended
      exact absurd List.prefix_rfl (isOpen.apart here isDirectory)
    rcases isOpen.turn there part with same | ⟨atPlace, goes⟩
    · rcases follow_ok led with
        ⟨next, turned, on⟩ | ⟨turned, ended⟩ | ⟨target, fewer, rfl, turned, written, on⟩
      · obtain ⟨failure, all⟩ := isOpen.follow links next rest on
        exact ⟨failure, fun content => by rw [follow_cons, same, turned]; exact all content⟩
      · cases ended
        have nothing := turn_tells.1 ((same []).trans turned)
        rw [isOpen.written] at nothing
        contradiction
      · obtain ⟨failure, all⟩ := isOpen.follow fewer _ _ on
        exact ⟨failure, fun content => by
          rw [follow_link ((same content).trans turned) written]
          exact all content⟩
    · match rest with
      | [] =>
        exact ⟨none, fun content => by
          simp only [follow_cons, goes, follow_nil, isOpen.written, leadsTo]⟩
      | slash :: rest =>
        have blocked (content : Bytes) :
            (fs.withFile place content).turn place slash = .fails .notDirectory := by
          simp only [FileSystem.turn, isOpen.written]
        exact ⟨some .notDirectory, fun content => by simp only [follow_cons, goes, blocked, leadsTo]⟩
termination_by (links, parts.length)

/-- Where a path leads to nothing, or to a file, there is a place for a file. -/
theorem open_of_follow {links : Nat} {q place : Place} {parts : List Bytes} {found : Option Node}
    (nonempty : parts ≠ []) (led : fs.follow true links q parts = .ok (place, found))
    (free : writeError? (fs.root.at? place) = none) : fs.Open place := by
  have inWay {q : Place} {n : Node} (there : fs.root.at? q = some n)
      (isDirectory : n.isDirectory = true) : place ≠ q := by
    rintro rfl
    rw [there, writeError?_of_isDirectory isDirectory] at free
    contradiction
  match parts with
  | part :: rest =>
    rcases directory_of_follow nonempty led with ⟨entries, there⟩ | ⟨n, here, isDirectory, ended⟩
    case inr => exact absurd (Prod.mk.inj ended).1 (inWay here isDirectory)
    rcases follow_ok led with
      ⟨next, turned, on⟩ | ⟨_, ended⟩ | ⟨target, fewer, rfl, _, _, on⟩
    · rcases eq_or_ne rest [] with rfl | more
      · rw [follow_nil] at on
        cases on
        rcases turn_goes turned with ⟨rfl, n, here, isDirectory⟩ | ⟨_, rfl | ⟨_, rfl⟩⟩
        · exact absurd rfl (inWay here isDirectory)
        · obtain ⟨above, atAbove⟩ := directory_above there
          exact absurd rfl (inWay atAbove rfl)
        · exact ⟨⟨q, part, entries, rfl, there⟩, free⟩
      · exact open_of_follow more on free
    · cases ended
      exact ⟨⟨q, part, entries, rfl, there⟩, free⟩
    · exact open_of_follow (by simp [Path.pieces_ne_nil]) on free
termination_by (links, parts.length)

/-- Writing where a path leads to nothing, or to a file, comes down to whether it leads to the new
file. -/
theorem write_of_find {p : Path} {place : Place} {n : Option Node} {content : Bytes}
    (found : fs.find true p = .ok (place, n)) (free : writeError? n = none) :
    (∀ answer, (fs.withFile place content).find true p = .ok answer →
        fs.write p content = .ok (fs.withFile place content)) ∧
      ∀ e, (fs.withFile place content).find true p = .error e → fs.write p content = .error .isDirectory := by
  rw [write, found]
  constructor
  · intro answer again
    simp only [bind, Except.bind, free, again]
    rfl
  · intro e again
    simp only [bind, Except.bind, free, again]
    rfl

/-- Where a file can be written there is a place for it, at which the path finds any file that is
written. -/
theorem write_place {p : Path} {content : Bytes} {written : FileSystem}
    (done : fs.write p content = .ok written) :
    ∃ place n, fs.find true p = .ok (place, n) ∧ fs.Open place ∧
      written = fs.withFile place content ∧ ∀ other,
        fs.write p other = .ok (fs.withFile place other) ∧
          (fs.withFile place other).find true p = .ok (place, some (.file other)) := by
  cases found : fs.find true p with
  | error e =>
    rw [write, found] at done
    contradiction
  | ok answer =>
    obtain ⟨place, n⟩ := answer
    obtain ⟨noZero, nonempty, short, led⟩ := find_eq_ok found
    cases free : writeError? n with
    | some e => simp [write, found, bind, Except.bind, free] at done
    | none =>
      have isOpen := open_of_follow (Path.pieces_ne_nil _) led (find_at found ▸ free)
      obtain ⟨failure, all⟩ := isOpen.follow _ _ _ led
      have again (content : Bytes) :
          (fs.withFile place content).find true p = leadsTo place content failure :=
        (find_eq_follow noZero nonempty short true).trans (all content)
      cases failure with
      | none =>
        have writes (other : Bytes) := (write_of_find found free).1 _ (again other)
        refine ⟨place, n, rfl, isOpen, ?_, fun other => ⟨writes other, again other⟩⟩
        exact Except.ok.inj (done.symm.trans (writes content))
      | some e =>
        rw [(write_of_find found free).2 _ (again content)] at done
        contradiction

/-- Where a file can be written, any file can be, and it is what is read at the path. -/
theorem write_read {p : Path} {content : Bytes} {written : FileSystem}
    (done : fs.write p content = .ok written) (other : Bytes) :
    ∃ written, fs.write p other = .ok written ∧ written.read p = .ok other := by
  obtain ⟨place, _, _, _, _, all⟩ := write_place done
  obtain ⟨writes, found⟩ := all other
  exact ⟨_, writes, read_of_find found⟩

end FileSystem

end CodeAtlas
