import CodeAtlas.Proofs.Sight
import CodeAtlas.Walk

namespace CodeAtlas

namespace Path

/-- A name that an entry of a directory can have. -/
def IsName (name : Bytes) : Prop :=
  componentOf name = some (.name name) ∧ slash ∉ name

instance (name : Bytes) : Decidable (IsName name) :=
  inferInstanceAs (Decidable (_ ∧ _))

theorem componentOf_eq_name {part name : Bytes} (named : componentOf part = some (.name name)) :
    part = name ∧ part ≠ [] ∧ part ≠ [point] ∧ part ≠ [point, point] := by
  unfold componentOf at named
  split at named
  · contradiction
  · split at named
    · cases named
    · rename_i silent notParent
      rw [not_or] at silent
      cases named
      exact ⟨rfl, silent.1, silent.2, notParent⟩

theorem IsName.ne_nil {name : Bytes} (isName : IsName name) : name ≠ [] :=
  (componentOf_eq_name isName.1).2.1

theorem above_of_parent? {p q : Path} (parent : p.parent? = some q) : p.above = q :: q.above := by
  rw [above]
  split
  · rename_i parent'
    cases parent.symm.trans parent'
    rfl
  · rename_i none
    cases parent.symm.trans none

theorem pieces_ne_nil (b : Bytes) : pieces b ≠ [] := by
  cases b with
  | nil => simp [pieces]
  | cons x b =>
    rw [pieces]
    split
    · simp
    · split <;> simp

theorem pieces_slash (a b : Bytes) : pieces (a ++ slash :: b) = pieces a ++ pieces b := by
  induction a with
  | nil => simp [pieces]
  | cons x a ih =>
    rw [List.cons_append, pieces, pieces, ih]
    by_cases here : x = slash
    · rw [if_pos here, if_pos here, List.cons_append]
    · rw [if_neg here, if_neg here]
      cases first : pieces a with
      | nil => exact absurd first (pieces_ne_nil a)
      | cons p ps => rfl

theorem pieces_of_slash_notMem {name : Bytes} (whole : slash ∉ name) : pieces name = [name] := by
  induction name with
  | nil => rfl
  | cons x name ih =>
    rw [List.mem_cons, not_or] at whole
    rw [pieces, if_neg (fun same => whole.1 same.symm), ih whole.2]

/-- A joined path has the parts of the first one and then those of the second, but for an empty part
where the first one ends with a slash. -/
theorem pieces_join {p q : Path} (relative : q.isAbsolute = false) (spelled : p.bytes ≠ []) :
    ∃ way, pieces (p.join q).bytes = way ++ pieces q.bytes ∧
      (pieces p.bytes = way ∨ pieces p.bytes = way ++ [[]]) := by
  have nonempty : p.bytes.isEmpty = false := by simpa using spelled
  by_cases ends : p.bytes.getLast? = some slash
  · obtain ⟨start, whole⟩ := List.getLast?_eq_some_iff.mp ends
    refine ⟨pieces start, ?_, Or.inr ?_⟩
    · rw [join, relative, nonempty, Bool.or_self, if_neg Bool.false_ne_true, if_pos ends, whole,
        List.append_assoc]
      exact pieces_slash start q.bytes
    · rw [whole]
      exact pieces_slash start []
  · refine ⟨pieces p.bytes, ?_, Or.inl rfl⟩
    rw [join, relative, nonempty, Bool.or_self, if_neg Bool.false_ne_true, if_neg ends]
    exact pieces_slash p.bytes q.bytes

theorem join_ne_nil {p q : Path} (relative : q.isAbsolute = false) (spelled : p.bytes ≠ []) :
    (p.join q).bytes ≠ [] := by
  unfold join
  split
  · rename_i alone
    simp [relative, spelled] at alone
  · split <;> simp [spelled]

theorem isAbsolute_join {p q : Path} (relative : q.isAbsolute = false) (spelled : p.bytes ≠ []) :
    (p.join q).isAbsolute = p.isAbsolute := by
  obtain ⟨b, rest, whole⟩ := List.exists_cons_of_ne_nil spelled
  unfold join
  split
  · rename_i alone
    simp [relative, spelled] at alone
  · split <;> simp [isAbsolute, whole]

theorem fileName?_eq_some {p : Path} {name : Bytes} :
    p.fileName? = some name ↔
      ((pieces p.bytes).filterMap componentOf).getLast? = some (.name name) := by
  have last (c : Component) (other : ∀ name, c ≠ .name name) (l : List Component) :
      (c :: l).getLast? = some (.name name) ↔ l.getLast? = some (.name name) := by
    cases l with
    | nil => simp [other name]
    | cons d l => rw [List.getLast?_cons_cons]
  have named : p.fileName? = some name ↔ p.components.getLast? = some (.name name) := by
    unfold fileName?
    generalize p.components.getLast? = c
    rcases c with _ | (_ | _ | _ | _) <;> simp
  rw [named, components]
  split
  · exact last .root (fun _ => nofun) _
  · split
    · exact last .current (fun _ => nofun) _
    · rfl

/-- A joined path has the name of the second one. -/
theorem fileName?_join {p q : Path} {name : Bytes} (relative : q.isAbsolute = false)
    (named : q.fileName? = some name) : (p.join q).fileName? = some name := by
  by_cases spelled : p.bytes = []
  · simpa [join, spelled] using named
  · obtain ⟨way, parts, _⟩ := pieces_join relative spelled
    rw [fileName?_eq_some] at named ⊢
    rw [parts, List.filterMap_append, List.getLast?_append, named, Option.some_or]

theorem IsName.relative {name : Bytes} (isName : IsName name) :
    (Path.mk name).isAbsolute = false := by
  obtain ⟨b, rest, rfl⟩ := List.exists_cons_of_ne_nil isName.ne_nil
  have other : b ≠ slash := fun same => isName.2 (same ▸ List.mem_cons_self)
  simp [isAbsolute, other]

theorem IsName.fileName? {name : Bytes} (isName : IsName name) :
    (Path.mk name).fileName? = some name := by
  rw [fileName?_eq_some, pieces_of_slash_notMem isName.2]
  simp [isName.1]

end Path

theorem Entry.pathOf_snoc (root : Path) (names : List Bytes) (name : Bytes) :
    pathOf root (names ++ [name]) = (pathOf root names).join ⟨name⟩ :=
  List.foldl_append

/-- An entry's path ends with its name. -/
theorem Entry.fileName?_path (root : Path) {e : Entry} (isName : Path.IsName e.name) :
    (e.path root).fileName? = some e.name := by
  rw [path, pathOf_snoc]
  exact Path.fileName?_join isName.relative isName.fileName?

namespace FileSystem

variable {fs : FileSystem}

/-- A part that is a name leads to the entry of that name. -/
theorem Turn.fromDirectory_name {place : Place} {name : Bytes}
    (named : Path.componentOf name = some (.name name)) (child : Option Node) :
    fromDirectory place name child =
      if name.length > maxName then .fails .nameTooLong else .ofChild (place ++ [name]) child := by
  obtain ⟨_, nonempty, notPoint, notParent⟩ := Path.componentOf_eq_name named
  rw [fromDirectory, if_neg (by simp [nonempty, notPoint]), if_neg notParent]

theorem turn_directory {place : Place} {entries : List (Bytes × Node)}
    (there : fs.root.at? place = some (.directory entries)) : fs.turn place [] = .goes place := by
  simp [turn, there]

/-- Without a directory that opens no part is gone to; an empty one may leave the path where it is. -/
theorem turn_leaf {place : Place} (leaf : ∀ entries, fs.root.at? place ≠ some (.directory entries)) :
    ∃ e, (∀ part, part ≠ [] → fs.turn place part = .fails e) ∧
      (fs.turn place [] = .goes place ∨ fs.turn place [] = .fails e) := by
  unfold turn
  split
  · rename_i entries there
    exact absurd there (leaf entries)
  · exact ⟨_, fun part said => if_neg said, .inl (if_pos rfl)⟩
  · exact ⟨_, fun _ _ => rfl, .inr rfl⟩
  · exact ⟨_, fun _ _ => rfl, .inr rfl⟩

/-- An empty part before a name says nothing. -/
theorem follow_skip {name : Bytes} (nonempty : name ≠ []) (last : Bool) (links : Nat)
    (place : Place) (parts more : List Bytes) :
    fs.follow last links place (parts ++ [] :: name :: more) =
      fs.follow last links place (parts ++ name :: more) := by
  match parts with
  | [] =>
    rw [List.nil_append, List.nil_append, follow_cons]
    by_cases inside : ∃ entries, fs.root.at? place = some (.directory entries)
    · obtain ⟨entries, there⟩ := inside
      rw [turn_directory there]
    · obtain ⟨e, fails, stays | fails'⟩ := turn_leaf (not_exists.mp inside)
      · rw [stays]
      · rw [fails', follow_cons, fails name nonempty]
  | part :: rest =>
    have longer (l : List Bytes) : (rest ++ l).all List.isEmpty =
        (rest.all List.isEmpty && l.all List.isEmpty) := List.all_append
    rw [List.cons_append, List.cons_append, follow_cons, follow_cons, longer, longer]
    cases fs.turn place part with
    | goes next => exact follow_skip nonempty last links next rest more
    | missing => simp [nonempty]
    | fails e => rfl
    | link target =>
      cases links with
      | zero => simp
      | succ links =>
        have skip := follow_skip nonempty last links
          (if target.head? = some Path.slash then [] else place) (Path.pieces target ++ rest) more
        rw [List.append_assoc, List.append_assoc] at skip
        simp [skip]
termination_by (links, parts.length)

/-- A path goes on from where a link leads. -/
theorem follow_link {place : Place} {part target : Bytes} (turned : fs.turn place part = .link target)
    (written : target ≠ []) (links : Nat) (rest : List Bytes) :
    fs.follow true (links + 1) place (part :: rest) =
      fs.follow true links (if target.head? = some Path.slash then [] else place)
        (Path.pieces target ++ rest) := by
  simp only [follow_cons _ _ _ _ part, turned, Bool.not_true, Bool.and_false, Bool.false_eq_true,
    if_false, written]

/-- What a path that leads anywhere does at a part of it. At a link it may end, if the last one is not
followed. -/
theorem follow_next {last : Bool} {links : Nat} {place : Place} {part : Bytes} {rest : List Bytes}
    {answer : Place × Option Node} (led : fs.follow last links place (part :: rest) = .ok answer) :
    (∃ next, fs.turn place part = .goes next ∧ fs.follow last links next rest = .ok answer) ∨
      (fs.turn place part = .missing ∧ answer = (place ++ [part], none)) ∨
      ∃ target, fs.turn place part = .link target ∧
        ((rest.isEmpty && !last) = true ∧ answer = (place ++ [part], some (.link target)) ∨
          (rest.isEmpty && !last) = false ∧ target ≠ [] ∧ ∃ fewer, links = fewer + 1 ∧
            fs.follow last fewer (if target.head? = some Path.slash then [] else place)
              (Path.pieces target ++ rest) = .ok answer) := by
  rw [follow_cons] at led
  cases turned : fs.turn place part with
  | fails e =>
    rw [turned] at led
    contradiction
  | goes next =>
    rw [turned] at led
    exact .inl ⟨next, rfl, led⟩
  | missing =>
    rw [turned] at led
    dsimp only at led
    split at led
    · exact .inr (.inl ⟨rfl, (Except.ok.inj led).symm⟩)
    · contradiction
  | link target =>
    rw [turned] at led
    dsimp only at led
    split at led
    · exact .inr (.inr ⟨target, rfl, .inl ⟨‹_›, (Except.ok.inj led).symm⟩⟩)
    · rename_i goesOn
      cases links with
      | zero => contradiction
      | succ fewer =>
        dsimp only at led
        split at led
        · contradiction
        · exact .inr (.inr ⟨target, rfl, .inr ⟨by simpa using goesOn, ‹_›, fewer, rfl, led⟩⟩)

/-- What a path that leads anywhere, links followed, does at a part of it. -/
theorem follow_ok {links : Nat} {place : Place} {part : Bytes} {rest : List Bytes}
    {answer : Place × Option Node} (led : fs.follow true links place (part :: rest) = .ok answer) :
    (∃ next, fs.turn place part = .goes next ∧ fs.follow true links next rest = .ok answer) ∨
      (fs.turn place part = .missing ∧ answer = (place ++ [part], none)) ∨
      ∃ target fewer, links = fewer + 1 ∧ fs.turn place part = .link target ∧ target ≠ [] ∧
        fs.follow true fewer (if target.head? = some Path.slash then [] else place)
          (Path.pieces target ++ rest) = .ok answer := by
  rcases follow_next led with goes | missing | ⟨target, turned, ⟨ends, _⟩ | ⟨_, written, fewer, rfl, on⟩⟩
  · exact .inl goes
  · exact .inr (.inl missing)
  · simp at ends
  · exact .inr (.inr ⟨target, fewer, rfl, turned, written, on⟩)

/-- Parts that lead to something can be gone on from there. -/
theorem follow_append {links : Nat} {place q : Place} {parts : List Bytes} {n : Node}
    (found : fs.follow true links place parts = .ok (q, some n)) :
    ∃ left, ∀ more, fs.follow true links place (parts ++ more) = fs.follow true left q more := by
  match parts with
  | [] =>
    rw [follow_nil] at found
    obtain ⟨rfl, _⟩ := Prod.mk.inj (Except.ok.inj found)
    exact ⟨links, fun _ => rfl⟩
  | part :: rest =>
    rcases follow_ok found with
      ⟨next, turned, on⟩ | ⟨_, nothing⟩ | ⟨target, fewer, rfl, turned, written, on⟩
    · obtain ⟨left, goes⟩ := follow_append on
      refine ⟨left, fun more => ?_⟩
      rw [List.cons_append, follow_cons, turned]
      exact goes more
    · cases nothing
    · obtain ⟨left, goes⟩ := follow_append on
      refine ⟨left, fun more => ?_⟩
      rw [List.cons_append, follow_link turned written, ← List.append_assoc]
      exact goes more
termination_by (links, parts.length)

/-- Names lead down a tree, unless one of them is too long to be asked for. -/
theorem follow_names {base : Place} {names : List Bytes} {n : Node}
    (there : fs.root.at? (base ++ names) = some n) (notLink : n.isLink = false)
    (areNames : ∀ name ∈ names, Path.IsName name) (links : Nat) :
    fs.follow true links base names =
      if names.any (·.length > maxName) then .error .nameTooLong else .ok (base ++ names, some n) := by
  induction names generalizing base with
  | nil =>
    rw [follow_nil, ← there, List.append_nil]
    rfl
  | cons name names ih =>
    obtain ⟨isName, areNames⟩ := List.forall_mem_cons.mp areNames
    obtain ⟨_, nonempty, notPoint, notParent⟩ := Path.componentOf_eq_name isName.1
    have next := there
    rw [Node.at?_append] at next
    obtain ⟨m, atBase, below⟩ := Option.bind_eq_some_iff.mp next
    obtain ⟨child, named, inside⟩ := Option.bind_eq_some_iff.mp below
    have child_notLink : ∀ target, child ≠ .link target := by
      intro target isLink
      subst isLink
      cases names with
      | nil =>
        cases inside
        contradiction
      | cons => contradiction
    match m with
    | .file _ | .link _ | .pipe | .locked _ => contradiction
    | .directory entries =>
      rw [follow_cons]
      simp only [turn, atBase, named, nonempty, notPoint, notParent, or_self, if_false, List.any_cons]
      by_cases long : name.length > maxName
      · simp [long]
      · have goes : Turn.ofChild (base ++ [name]) (some child) = .goes (base ++ [name]) := by
          cases child with
          | link target => exact absurd rfl (child_notLink target)
          | file | directory | pipe | locked => rfl
        rw [if_neg long, goes]
        rw [List.append_cons] at there
        simpa [long] using ih there areNames

/-- A path that goes on from a root by names has the parts of the root and then the names. -/
theorem follow_pathOf {root : Path} (spelled : root.bytes ≠ []) {names : List Bytes}
    (areNames : ∀ name ∈ names, Path.IsName name) (last : Bool) (links : Nat) (place : Place) :
    fs.follow last links place (Path.pieces (Entry.pathOf root names).bytes) =
      fs.follow last links place (Path.pieces root.bytes ++ names) := by
  induction names generalizing root with
  | nil => rw [List.append_nil]; rfl
  | cons name names ih =>
    obtain ⟨isName, areNames⟩ := List.forall_mem_cons.mp areNames
    obtain ⟨way, joined, alone⟩ := Path.pieces_join isName.relative spelled
    rw [Path.pieces_of_slash_notMem isName.2] at joined
    have rest := ih (Path.join_ne_nil isName.relative spelled) areNames
    rw [joined] at rest
    rw [Entry.pathOf, List.foldl_cons, ← Entry.pathOf, rest, List.append_assoc, List.singleton_append]
    rcases alone with alone | alone
    · rw [alone]
    · rw [alone, List.append_assoc]
      exact (follow_skip isName.ne_nil last links place way names).symm

theorem pathOf_spelled {root : Path} (spelled : root.bytes ≠ []) {names : List Bytes}
    (areNames : ∀ name ∈ names, Path.IsName name) :
    (Entry.pathOf root names).bytes ≠ [] ∧
      (Entry.pathOf root names).isAbsolute = root.isAbsolute := by
  induction names generalizing root with
  | nil => exact ⟨spelled, rfl⟩
  | cons name names ih =>
    obtain ⟨isName, areNames⟩ := List.forall_mem_cons.mp areNames
    obtain ⟨nonempty, absolute⟩ := ih (Path.join_ne_nil isName.relative spelled) areNames
    exact ⟨nonempty, absolute.trans (Path.isAbsolute_join isName.relative spelled)⟩

theorem find_eq_ok {last : Bool} {p : Path} {answer : Place × Option Node}
    (found : fs.find last p = .ok answer) :
    p.bytes.contains 0 = false ∧ p.bytes ≠ [] ∧ p.bytes.length ≤ maxPath ∧
      fs.follow last maxLinks (if p.isAbsolute then [] else fs.current) (Path.pieces p.bytes) =
        .ok answer := by
  unfold find at found
  split at found
  · contradiction
  · rename_i noZero
    split at found
    · contradiction
    · rename_i nonempty
      split at found
      · contradiction
      · rename_i short
        exact ⟨by simpa using noZero, by simpa using nonempty, Nat.le_of_not_gt short, found⟩

theorem find_eq_follow {p : Path} (noZero : p.bytes.contains 0 = false) (spelled : p.bytes ≠ [])
    (short : p.bytes.length ≤ maxPath) (last : Bool) :
    fs.find last p =
      fs.follow last maxLinks (if p.isAbsolute then [] else fs.current) (Path.pieces p.bytes) := by
  rw [find, noZero]
  simp [spelled, Nat.not_lt_of_le short]

/-- A path that goes on from a root by names leads down the tree of the root, unless it is refused,
which can be told from the path alone. -/
theorem find_pathOf {root : Path} {base : Place} {entry : Node}
    (found : fs.find true root = .ok (base, some entry)) {names : List Bytes} {n : Node}
    (there : fs.root.at? (base ++ names) = some n) (notLink : n.isLink = false)
    (areNames : ∀ name ∈ names, Path.IsName name) :
    fs.find true (Entry.pathOf root names) =
      (Entry.refusal? root names).elim (.ok (base ++ names, some n)) .error := by
  obtain ⟨_, spelled, _, followed⟩ := find_eq_ok found
  obtain ⟨left, goes⟩ := follow_append followed
  obtain ⟨nonempty, absolute⟩ := pathOf_spelled spelled areNames
  have nonempty : (Entry.pathOf root names).bytes.isEmpty = false := by simpa using nonempty
  have walked := goes names
  rw [← follow_pathOf spelled areNames, ← absolute, follow_names there notLink areNames left]
    at walked
  simp only [find, walked, nonempty, Entry.refusal?]
  by_cases long : (Entry.pathOf root names).bytes.length > maxPath
  · cases (Entry.pathOf root names).bytes.contains 0 <;> simp [long]
  · cases (Entry.pathOf root names).bytes.contains 0 <;>
      cases names.any (·.length > maxName) <;> simp [long]

/-- A walk opens those directories that their paths lead to. -/
theorem opens_iff {root : Path} {base : Place} {entry : Node}
    (found : fs.find true root = .ok (base, some entry)) {names : List Bytes} {n : Node}
    (there : fs.root.at? (base ++ names) = some n) (notLink : n.isLink = false)
    (areNames : ∀ name ∈ names, Path.IsName name) :
    Walk.opens root names = true ↔
      fs.find true (Entry.pathOf root names) = .ok (base ++ names, some n) := by
  rw [find_pathOf found there notLink areNames, Walk.opens]
  cases Entry.refusal? root names <;> simp

theorem contains_zero_pathOf {root : Path} (spelled : root.bytes ≠ []) {names : List Bytes}
    (areNames : ∀ name ∈ names, Path.IsName name) :
    (Entry.pathOf root names).bytes.contains 0 =
      (root.bytes.contains 0 || names.any (·.contains 0)) := by
  induction names generalizing root with
  | nil => exact (Bool.or_false _).symm
  | cons name names ih =>
    obtain ⟨isName, areNames⟩ := List.forall_mem_cons.mp areNames
    have nonempty : root.bytes.isEmpty = false := by simpa using spelled
    have joined : (root.join ⟨name⟩).bytes.contains 0 =
        (root.bytes.contains 0 || name.contains 0) := by
      rw [Path.join, isName.relative, nonempty, Bool.or_self, if_neg Bool.false_ne_true]
      split <;> simp [Path.slash]
    rw [Entry.pathOf, List.foldl_cons, ← Entry.pathOf,
      ih (Path.join_ne_nil isName.relative spelled) areNames, joined, List.any_cons, Bool.or_assoc]

/-- What is read below a root depends on how the root is spelled in one way only: whether the path
is refused. -/
theorem read_pathOf {root : Path} {base : Place} {entry : Node}
    (found : fs.find true root = .ok (base, some entry)) {names : List Bytes} {n : Node}
    (there : fs.root.at? (base ++ names) = some n) (notLink : n.isLink = false)
    (areNames : ∀ name ∈ names, Path.IsName name) :
    fs.read (Entry.pathOf root names) =
      (Entry.refusal? root names).elim (contentOf (some n)) .error := by
  have led := find_pathOf found there notLink areNames
  cases refused : Entry.refusal? root names with
  | none =>
    rw [refused] at led
    exact read_of_find led
  | some e =>
    rw [refused] at led
    exact read_of_error led

/-- A root that is found has nothing in its spelling that is refused, so that what is refused below
it is so for its names, or for the length of its path. -/
theorem refusal?_eq {root : Path} (spelled : root.bytes ≠ [])
    (noZero : root.bytes.contains 0 = false) {names : List Bytes}
    (areNames : ∀ name ∈ names, Path.IsName name) :
    Entry.refusal? root names =
      if names.any (·.contains 0) then some .invalidName
      else if (Entry.pathOf root names).bytes.length > maxPath ∨ names.any (·.length > maxName) then
        some .nameTooLong
      else none := by
  simp only [Entry.refusal?, contains_zero_pathOf spelled areNames, noZero, Bool.false_or,
    Bool.or_eq_true, decide_eq_true_eq]

/-- No link gives a file below a place a name of its own. -/
def OwnNames (fs : FileSystem) (base : Place) : Prop :=
  ∀ p q content, fs.find true p = .ok (base ++ q, some (.file content)) →
    p.fileName? = q.getLast?

/-- A part that leads anywhere does so from a directory: nowhere else; or up, or to the entry of its
name, if the directory opens. -/
theorem turn_goes {place next : Place} {part : Bytes} (goes : fs.turn place part = .goes next) :
    (next = place ∧ ∃ n, fs.root.at? place = some n ∧ n.isDirectory = true) ∨
      (∃ entries, fs.root.at? place = some (.directory entries)) ∧
        (next = place.dropLast ∨ Path.componentOf part = some (.name part) ∧ next = place ++ [part]) := by
  cases there : fs.root.at? place with
  | none => simp [turn, there] at goes
  | some n =>
    cases n with
    | file | link | pipe => simp [turn, there] at goes
    | locked sort =>
      cases sort with
      | false => simp [turn, there] at goes
      | true =>
        simp only [turn, there] at goes
        split at goes
        · exact .inl ⟨(Turn.goes.inj goes).symm, _, rfl, rfl⟩
        · contradiction
    | directory entries =>
      simp only [turn, there] at goes
      split at goes
      · exact .inl ⟨(Turn.goes.inj goes).symm, _, rfl, rfl⟩
      · refine .inr ⟨⟨entries, rfl⟩, ?_⟩
        split at goes
        · exact .inl (Turn.goes.inj goes).symm
        · split at goes
          · contradiction
          · rename_i silent notParent _
            refine .inr ⟨by rw [Path.componentOf, if_neg silent, if_neg notParent], ?_⟩
            cases child : (Node.directory entries).child? part with
            | none => rw [child] at goes; contradiction
            | some n =>
              rw [child] at goes
              cases n with
              | link target => contradiction
              | file | directory | pipe | locked => exact (Turn.goes.inj goes).symm

/-- Above a directory there is a directory. -/
theorem directory_above {n : Node} {place : Place} {entries : List (Bytes × Node)}
    (there : n.at? place = some (.directory entries)) :
    ∃ above, n.at? place.dropLast = some (.directory above) := by
  rcases List.eq_nil_or_concat place with rfl | ⟨way, name, rfl⟩
  · exact ⟨entries, there⟩
  · rw [List.concat_eq_append] at there ⊢
    rw [Node.at?_append] at there
    obtain ⟨m, atWay, below⟩ := Option.bind_eq_some_iff.mp there
    rw [List.dropLast_concat, atWay]
    match m with
    | .file _ | .link _ | .pipe | .locked _ => contradiction
    | .directory above => exact ⟨above, rfl⟩

theorem follow_name (unlinked : ∀ q target, fs.root.at? q ≠ some (.link target)) {last : Bool}
    {links : Nat} {place q : Place} {parts : List Bytes} {content : Bytes} (nonempty : parts ≠ [])
    (found : fs.follow last links place parts = .ok (q, some (.file content))) :
    fs.root.at? q = some (.file content) ∧ ∃ name, q.getLast? = some name ∧
      (parts.filterMap Path.componentOf).getLast? = some (.name name) := by
  induction parts generalizing place with
  | nil => contradiction
  | cons part rest ih =>
    rw [follow_cons] at found
    cases turned : fs.turn place part with
    | fails e => rw [turned] at found; contradiction
    | link target => exact absurd (turn_tells.2 target turned) (unlinked _ target)
    | missing =>
      rw [turned] at found
      dsimp only at found
      split at found <;> cases found
    | goes next =>
      rw [turned] at found
      dsimp only at found
      cases rest with
      | nil =>
        rw [follow_nil] at found
        obtain ⟨rfl, there⟩ := Prod.mk.inj (Except.ok.inj found)
        rcases turn_goes turned with
          ⟨rfl, m, here, isDirectory⟩ | ⟨⟨entries, inside⟩, rfl | ⟨isName, rfl⟩⟩
        · cases here.symm.trans there
          contradiction
        · obtain ⟨above, isDirectory⟩ := directory_above inside
          cases isDirectory.symm.trans there
        · exact ⟨there, part, List.getLast?_concat, by simp [isName]⟩
      | cons second rest =>
        obtain ⟨there, name, atEnd, named⟩ := ih (List.cons_ne_nil second rest) found
        refine ⟨there, name, atEnd, ?_⟩
        rw [← List.singleton_append, List.filterMap_append, List.getLast?_append, named,
          Option.some_or]

/-- Without links every file is found under its own name only. -/
theorem ownNames_of_unlinked (unlinked : ∀ q target, fs.root.at? q ≠ some (.link target))
    {base : Place} {entries : List (Bytes × Node)}
    (isDirectory : fs.root.at? base = some (.directory entries)) : fs.OwnNames base := by
  intro p q content found
  obtain ⟨_, _, _, followed⟩ := find_eq_ok found
  obtain ⟨there, name, atEnd, named⟩ := follow_name unlinked (Path.pieces_ne_nil p.bytes) followed
  rw [Path.fileName?_eq_some.mpr named, ← atEnd]
  cases q with
  | nil =>
    rw [List.append_nil] at there
    cases isDirectory.symm.trans there
  | cons => rw [List.getLast?_append, List.getLast?_cons, Option.some_or]

end FileSystem

end CodeAtlas
