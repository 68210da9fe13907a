import CodeAtlas.Command.Run
import CodeAtlas.Proofs.Writing

namespace CodeAtlas

namespace Node

/-- What a walk sees of a node by itself. -/
def kind : Node → Node
  | file _ => file []
  | directory _ => directory []
  | n => n

theorem kind_shape (n : Node) : n.shape.kind = n.kind := by
  cases n <;> rfl

theorem kind_of_shape {n n' : Node} (same : n.shape = n'.shape) : n.kind = n'.kind := by
  rw [← kind_shape n, same, kind_shape]

theorem kind_eq_directory {n : Node} {entries : List (Bytes × Node)}
    (same : n.kind = (directory entries).kind) : ∃ entries', n = directory entries' := by
  cases n with
  | directory entries' => exact ⟨entries', rfl⟩
  | file | link | pipe | locked => simp [kind] at same

theorem kind_eq_link {n : Node} {target : Bytes} (same : n.kind = (link target).kind) :
    n = link target := by
  cases n <;> simp_all [kind]

theorem kind_eq_locked {n : Node} {sort : Bool} (same : n.kind = (locked sort).kind) :
    n = locked sort := by
  cases n <;> simp_all [kind]

theorem isDirectory_kind (n : Node) : n.kind.isDirectory = n.isDirectory := by
  cases n <;> rfl

theorem isLink_kind (n : Node) : n.kind.isLink = n.isLink := by
  cases n <;> rfl

/-- Names stay distinct when an entry is put among them. -/
theorem Distinct.alter {n new : Node} {above : Place} {entries : List (Bytes × Node)}
    (distinct : n.Distinct) (own : new.Distinct) (there : n.at? above = some (directory entries))
    (name : Bytes) : (n.alter (some new) (above ++ [name])).Distinct := by
  induction above generalizing n with
  | nil =>
    cases there
    exact distinct_setIn distinct fun n same => Option.some.inj same ▸ own
  | cons first above ih =>
    obtain ⟨child, named, inside⟩ := Option.bind_eq_some_iff.mp there
    cases n with
    | file | link | pipe | locked => contradiction
    | directory es =>
      rw [alter_below named]
      refine distinct_setIn distinct fun n same => Option.some.inj same ▸ ih ?_ inside
      exact distinct.child named

end Node

namespace FileSystem

variable {written : Place → Prop} {fs fs' fs₁ fs₂ : FileSystem}

theorem find_of_node? {p : Path} {n : Node} (there : fs.node? p = some n) :
    ∃ place, fs.find true p = .ok (place, some n) := by
  rw [node?] at there
  split at there
  · rename_i found
    exact ⟨_, found.trans (by rw [there])⟩
  · contradiction

theorem find_of_isDirectory {p : Path} (isDirectory : fs.isDirectory p = true) :
    ∃ place n, fs.find true p = .ok (place, some n) ∧ n.isDirectory = true := by
  obtain ⟨n, there, sort⟩ := (Option.any_eq_true ..).mp isDirectory
  obtain ⟨place, found⟩ := find_of_node? there
  exact ⟨place, n, found, sort⟩

/-- The second tree has all that the first one has, and what is not written stays as it is. -/
structure Grown (written : Place → Prop) (fs fs' : FileSystem) : Prop where
  current : fs'.current = fs.current
  kept : ∀ q n, fs.root.at? q = some n → ∃ n', fs'.root.at? q = some n' ∧ n'.kind = n.kind ∧
    (¬written q → n'.shape = n.shape)
  distinct : fs.root.Distinct → fs'.root.Distinct

theorem Grown.refl (fs : FileSystem) : Grown written fs fs :=
  ⟨rfl, fun _ n there => ⟨n, there, rfl, fun _ => rfl⟩, id⟩

theorem Grown.trans (first : Grown written fs fs₁) (second : Grown written fs₁ fs₂) :
    Grown written fs fs₂ where
  current := second.current.trans first.current
  kept q n there := by
    obtain ⟨n₁, there₁, kind₁, shape₁⟩ := first.kept q n there
    obtain ⟨n₂, there₂, kind₂, shape₂⟩ := second.kept q n₁ there₁
    exact ⟨n₂, there₂, kind₂.trans kind₁, fun spared => (shape₂ spared).trans (shape₁ spared)⟩
  distinct before := second.distinct (first.distinct before)

theorem Grown.mono {more : Place → Prop} (grown : Grown written fs fs')
    (among : ∀ q, written q → more q) : Grown more fs fs' where
  current := grown.current
  kept q n there := by
    obtain ⟨n', there', kind, shape⟩ := grown.kept q n there
    exact ⟨n', there', kind, fun spared => shape fun isWritten => spared (among q isWritten)⟩
  distinct := grown.distinct

theorem Grown.at_directory (grown : Grown written fs fs') {q : Place}
    {entries : List (Bytes × Node)} (there : fs.root.at? q = some (.directory entries)) :
    ∃ entries', fs'.root.at? q = some (.directory entries') := by
  obtain ⟨n', there', kind, _⟩ := grown.kept q _ there
  obtain ⟨entries', rfl⟩ := Node.kind_eq_directory kind
  exact ⟨entries', there'⟩

theorem Grown.at_link (grown : Grown written fs fs') {q : Place} {target : Bytes}
    (there : fs.root.at? q = some (.link target)) : fs'.root.at? q = some (.link target) := by
  obtain ⟨n', there', kind, _⟩ := grown.kept q _ there
  rw [there', Node.kind_eq_link kind]

theorem Grown.at_locked (grown : Grown written fs fs') {q : Place} {sort : Bool}
    (there : fs.root.at? q = some (.locked sort)) : fs'.root.at? q = some (.locked sort) := by
  obtain ⟨n', there', kind, _⟩ := grown.kept q _ there
  rw [there', Node.kind_eq_locked kind]

theorem Turn.ofChild_kind (next : Place) (n : Node) : ofChild next (some n.kind) = ofChild next (some n) := by
  cases n <;> rfl

/-- Wherever a part leads, it still leads. -/
theorem Grown.turn (grown : Grown written fs fs') {place : Place} {part : Bytes} :
    (∀ next, fs.turn place part = .goes next → fs'.turn place part = .goes next) ∧
      ∀ target, fs.turn place part = .link target → fs'.turn place part = .link target := by
  cases there : fs.root.at? place with
  | none => simp [FileSystem.turn, there]
  | some n =>
    cases n with
    | file | link | pipe => simp [FileSystem.turn, there]
    | locked sort =>
      have there' := grown.at_locked there
      rw [FileSystem.turn, FileSystem.turn, there, there']
      exact ⟨fun _ => id, fun _ => id⟩
    | directory es =>
      obtain ⟨es', there'⟩ := grown.at_directory there
      rw [turn_eq_fromDirectory there, turn_eq_fromDirectory there']
      rcases Turn.fromDirectory_cases place part with same | named
      · rw [same (fs.root.at? _) (fs'.root.at? _)]
        exact ⟨fun _ => id, fun _ => id⟩
      · rw [named, named]
        cases child : fs.root.at? (place ++ [part]) with
        | none => simp [Turn.ofChild]
        | some m =>
          obtain ⟨m', child', kind, _⟩ := grown.kept _ m child
          rw [child', ← Turn.ofChild_kind _ m', kind, Turn.ofChild_kind]
          exact ⟨fun _ => id, fun _ => id⟩

theorem Grown.follow (grown : Grown written fs fs') {last : Bool} {links : Nat} {place q : Place}
    {parts : List Bytes} {n : Node} (led : fs.follow last links place parts = .ok (q, some n)) :
    fs'.follow last links place parts = .ok (q, fs'.root.at? q) := by
  cases parts with
  | nil =>
    rw [follow_nil] at led ⊢
    rw [(Prod.mk.inj (Except.ok.inj led)).1]
  | cons part rest =>
    rw [follow_cons]
    rcases follow_next led with ⟨next, turned, on⟩ | ⟨_, nothing⟩ |
      ⟨target, turned, ⟨ends, here⟩ | ⟨goesOn, spelled, fewer, rfl, on⟩⟩
    · rw [grown.turn.1 next turned]
      exact grown.follow on
    · cases nothing
    · obtain ⟨rfl, _⟩ := Prod.mk.inj here
      simp only [grown.turn.2 target turned, ends, if_true, grown.at_link (turn_tells.2 target turned)]
    · simp only [grown.turn.2 target turned, goesOn, Bool.false_eq_true, if_false, spelled]
      exact grown.follow on
termination_by (links, parts.length)

/-- A path that leads somewhere leads there still. -/
theorem Grown.find (grown : Grown written fs fs') {last : Bool} {p : Path} {q : Place} {n : Node}
    (found : fs.find last p = .ok (q, some n)) :
    ∃ n', fs'.find last p = .ok (q, some n') ∧ fs'.root.at? q = some n' ∧ n'.kind = n.kind ∧
      (¬written q → n'.shape = n.shape) := by
  obtain ⟨noZero, spelled, short, led⟩ := find_eq_ok found
  obtain ⟨n', there', same⟩ := grown.kept q n (find_at found).symm
  refine ⟨n', ?_, there', same⟩
  have led' := grown.follow led
  rw [there'] at led'
  rwa [find_eq_follow noZero spelled short, grown.current]

/-- A file is found as it was, unless it is written. -/
theorem Grown.find_file (grown : Grown written fs fs') {last : Bool} {p : Path} {q : Place}
    {content : Bytes} (found : fs.find last p = .ok (q, some (.file content)))
    (spared : ¬written q) : fs'.find last p = .ok (q, some (.file content)) := by
  obtain ⟨n, found', _, _, shape⟩ := grown.find found
  have shape := shape spared
  cases n with
  | file other =>
    cases shape
    exact found'
  | directory | link | pipe | locked => contradiction

/-- Where a part leads there is something, and no link. -/
theorem turn_there {place next : Place} {part : Bytes} (goes : fs.turn place part = .goes next) :
    ∃ n, fs.root.at? next = some n ∧ n.isLink = false := by
  rcases turn_goes goes with ⟨rfl, n, here, isDirectory⟩ | ⟨⟨entries, there⟩, rfl | ⟨named, rfl⟩⟩
  · refine ⟨n, here, ?_⟩
    cases n with
    | link => contradiction
    | file | directory | pipe | locked => rfl
  · obtain ⟨above, atAbove⟩ := directory_above there
    exact ⟨_, atAbove, rfl⟩
  · rw [turn_eq_fromDirectory there, Turn.fromDirectory_name named] at goes
    split at goes
    · contradiction
    · cases child : fs.root.at? (place ++ [part]) with
      | none => simp [child, Turn.ofChild] at goes
      | some n =>
        refine ⟨n, rfl, ?_⟩
        cases n with
        | link => simp [child, Turn.ofChild] at goes
        | file | directory | pipe | locked => rfl

/-- A path that leads nowhere ends in a directory, which lacks its last name. -/
theorem missing_of_follow {last : Bool} {links : Nat} {q place : Place} {parts : List Bytes}
    (nonempty : parts ≠ []) (led : fs.follow last links q parts = .ok (place, none)) :
    fs.root.at? place = none ∧
      ∃ way name entries, place = way ++ [name] ∧ fs.root.at? way = some (.directory entries) := by
  cases parts with
  | nil => contradiction
  | cons part rest =>
    rcases directory_of_follow nonempty led with ⟨entries, there⟩ | ⟨_, _, _, ended⟩
    case inr => cases ended
    rcases follow_next led with ⟨next, turned, on⟩ | ⟨turned, ended⟩ |
      ⟨target, turned, ⟨_, here⟩ | ⟨_, _, fewer, rfl, on⟩⟩
    · rcases eq_or_ne rest [] with rfl | more
      · obtain ⟨n, atNext, _⟩ := turn_there turned
        rw [follow_nil, atNext] at on
        cases on
      · exact missing_of_follow more on
    · obtain ⟨rfl, _⟩ := Prod.mk.inj ended
      exact ⟨turn_tells.1 turned, q, part, entries, rfl, there⟩
    · cases here
    · exact missing_of_follow (by simp [Path.pieces_ne_nil]) on
termination_by (links, parts.length)

/-- Something new in a directory that had nothing of its name. -/
theorem grown_put {way : Place} {name : Bytes} {entries : List (Bytes × Node)} {new : Node}
    (above : fs.root.at? way = some (.directory entries)) (free : fs.root.at? (way ++ [name]) = none)
    (own : new.Distinct) :
    Grown written fs { fs with root := fs.root.alter (some new) (way ++ [name]) } where
  current := rfl
  kept q n there := by
    have apart : ¬(way ++ [name]) <+: q := by
      rintro ⟨below, rfl⟩
      rw [Node.at?_append, free] at there
      contradiction
    have same := (Node.at?_alter above name new q).2 apart
    rw [there] at same
    obtain ⟨n', there', shape⟩ := Option.map_eq_some_iff.mp same
    exact ⟨n', there', Node.kind_of_shape shape, fun _ => shape⟩
  distinct before := before.alter own above name

theorem Open.grown {place : Place} (isOpen : fs.Open place) (content : Bytes) :
    Grown (· = place) fs (fs.withFile place content) where
  current := rfl
  kept q n there := by
    by_cases within : place <+: q
    · obtain ⟨below, rfl⟩ := within
      obtain ⟨m, here, inside⟩ := Option.bind_eq_some_iff.mp ((Node.at?_append _ place below).symm.trans there)
      have free := isOpen.free
      rw [here] at free
      rcases writeError?_eq_none free with nothing | ⟨old, file⟩
      · cases nothing
      · obtain rfl : m = .file old := Option.some.inj file
        cases below with
        | nil =>
          cases inside
          rw [List.append_nil]
          exact ⟨_, isOpen.written content, rfl, fun spared => absurd rfl spared⟩
        | cons name below =>
          rw [Node.at?_below_leaf rfl] at inside
          contradiction
    · have same := isOpen.kept content within
      rw [there] at same
      obtain ⟨n', there', shape⟩ := Option.map_eq_some_iff.mp same
      exact ⟨n', there', Node.kind_of_shape shape, fun _ => shape⟩
  distinct before := by
    obtain ⟨⟨way, name, entries, rfl, above⟩, _⟩ := isOpen
    exact before.alter (.leaf rfl) above name

/-- A file is written where its path leads, and nothing else. -/
theorem write_grown {p : Path} {content : Bytes} (done : fs.write p content = .ok fs') :
    ∃ place, fs'.find true p = .ok (place, some (.file content)) ∧ Grown (· = place) fs fs' := by
  obtain ⟨place, n, found, isOpen, rfl, all⟩ := write_place done
  exact ⟨place, (all content).2, isOpen.grown content⟩

/-- A directory is made in a directory that had nothing of its name, where the path ends. -/
theorem makeDirectory_place {p : Path} (done : fs.makeDirectory p = .ok fs') :
    ∃ way name entries, fs.find false p = .ok (way ++ [name], none) ∧ fs.root.at? (way ++ [name]) = none ∧
      fs.root.at? way = some (.directory entries) ∧
      fs' = { fs with root := fs.root.alter (some (.directory [])) (way ++ [name]) } := by
  cases found : fs.find false p with
  | error e => simp [makeDirectory, found, bind, Except.bind] at done
  | ok answer =>
    obtain ⟨place, n⟩ := answer
    cases n with
    | some n => simp [makeDirectory, found, bind, Except.bind, throw, throwThe, MonadExceptOf.throw] at done
    | none =>
      obtain ⟨_, _, _, led⟩ := find_eq_ok found
      obtain ⟨free, way, name, entries, rfl, above⟩ := missing_of_follow (Path.pieces_ne_nil _) led
      have made : { fs with root := fs.root.alter (some (.directory [])) (way ++ [name]) } = fs' := by
        simpa [makeDirectory, found, bind, Except.bind, pure, Except.pure] using done
      exact ⟨way, name, entries, rfl, free, above, made.symm⟩

theorem makeDirectory_grown {p : Path} (done : fs.makeDirectory p = .ok fs') :
    Grown written fs fs' := by
  obtain ⟨way, name, entries, _, free, above, rfl⟩ := makeDirectory_place done
  exact grown_put above free (.directory List.nodup_nil (List.forall_mem_nil _))

/-- Directories are made one after another, each at the path or at a path above it. -/
theorem makeDirectories_steps {made : FileSystem → Prop} {p : Path} (start : made fs)
    (step : ∀ q ∈ p :: p.above, ∀ before after, made before → before.makeDirectory q = .ok after → made after)
    (done : fs.makeDirectories p = .ok fs') : made fs' := by
  -- By induction on the fuel, which goes down with each path above that is tried.
  have upTo (fuel : Nat) {p : Path} {fs' : FileSystem}
      (step : ∀ q ∈ p :: p.above, ∀ before after, made before → before.makeDirectory q = .ok after → made after)
      (done : makeDirectories.go fs fuel p = .ok fs') : made fs' := by
    induction fuel generalizing p fs' with
    | zero => contradiction
    | succ fuel ih =>
      rw [makeDirectories.go] at done
      split at done
      · cases done
        exact start
      · split at done
        · rename_i alone
          cases done
          exact step p List.mem_cons_self _ _ start alone
        · split at done
          · contradiction
          · rename_i above parent
            have further : p.above = above :: above.above := Path.above_of_parent? parent
            cases first : makeDirectories.go fs fuel above with
            | error e => simp [first, bind, Except.bind] at done
            | ok fs₁ =>
              have onWay := ih (fun q member => step q (List.mem_cons_of_mem p (further ▸ member))) first
              simp only [first, bind, Except.bind] at done
              split at done
              · rename_i last
                cases done
                exact step p List.mem_cons_self _ _ onWay last
              · split at done
                · cases done
                  exact onWay
                · contradiction
        · split at done
          · cases done
            exact start
          · contradiction
  exact upTo _ step done

theorem makeDirectories_grown {p : Path} (done : fs.makeDirectories p = .ok fs') :
    Grown written fs fs' :=
  makeDirectories_steps (.refl fs) (fun _ _ _ _ grown made => grown.trans (makeDirectory_grown made)) done

/-- A path leads to a place, and something is there. -/
def LeadsTo (fs : FileSystem) (p : Path) (q : Place) : Prop :=
  ∃ n, fs.find true p = .ok (q, some n)

theorem Grown.leadsTo (grown : Grown written fs fs') {p : Path} {q : Place} (leads : fs.LeadsTo p q) :
    fs'.LeadsTo p q := by
  obtain ⟨n, found⟩ := leads
  obtain ⟨n', found', _⟩ := grown.find found
  exact ⟨n', found'⟩

end FileSystem

end CodeAtlas
