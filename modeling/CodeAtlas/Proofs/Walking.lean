import CodeAtlas.Proofs.Sight
import CodeAtlas.Proofs.StableSort

namespace CodeAtlas

/-- The names in each directory of a tree are distinct. -/
def Node.Distinct (n : Node) : Prop :=
  n.Everywhere fun m => (m.entries.map (·.1)).Nodup

theorem Node.Distinct.names {entries : List (Bytes × Node)}
    (distinct : (directory entries).Distinct) : (entries.map (·.1)).Nodup :=
  distinct [] _ rfl

theorem Node.Distinct.leaf {n : Node} (leaf : n.isOpen = false) : n.Distinct := by
  refine Everywhere.leaf leaf ?_
  cases n with
  | directory entries => contradiction
  | file | link | pipe | locked => exact List.nodup_nil

theorem Node.child?_eq_some {entries : List (Bytes × Node)}
    (distinct : (entries.map (·.1)).Nodup) {name : Bytes} {m : Node} :
    (directory entries).child? name = some m ↔ (name, m) ∈ entries := by
  constructor
  · intro found
    obtain ⟨⟨other, n⟩, first, rfl⟩ := Option.map_eq_some_iff.mp found
    have same : other = name := by simpa using List.find?_some first
    exact same ▸ List.mem_of_find?_eq_some first
  · intro member
    have there : (entries.find? (·.1 == name)).isSome = true :=
      List.find?_isSome.mpr ⟨(name, m), member, by simp⟩
    obtain ⟨first, found⟩ := Option.isSome_iff_exists.mp there
    have atFirst : first.1 = name := by simpa using List.find?_some found
    have same : first = (name, m) :=
      List.inj_on_of_nodup_map distinct (List.mem_of_find?_eq_some found) member atFirst
    rw [child?, Node.entries, found, same]
    rfl

theorem Node.at?_directory {entries : List (Bytes × Node)} (names : (entries.map (·.1)).Nodup)
    {name : Bytes} {n : Node} (member : (name, n) ∈ entries) (q : Place) :
    (directory entries).at? (name :: q) = n.at? q := by
  rw [at?, (child?_eq_some names).mpr member, Option.bind_some]

theorem Node.at?_entry {entries : List (Bytes × Node)} (names : (entries.map (·.1)).Nodup)
    {name : Bytes} {n : Node} : (directory entries).at? [name] = some n ↔ (name, n) ∈ entries := by
  rw [at?_singleton, child?_eq_some names]

theorem Node.at?_absent {entries : List (Bytes × Node)} {name : Bytes}
    (absent : name ∉ entries.map (·.1)) (q : Place) :
    (directory entries).at? (name :: q) = none := by
  have nothing : (directory entries).child? name = none := by
    rw [child?, Option.map_eq_none_iff, List.find?_eq_none]
    intro e member equal
    exact absent (List.mem_map.mpr ⟨e, member, by simpa using equal⟩)
  rw [at?, nothing, Option.bind_none]

theorem Node.Distinct.entry {entries : List (Bytes × Node)} (distinct : (directory entries).Distinct)
    {name : Bytes} {n : Node} (member : (name, n) ∈ entries) : n.Distinct :=
  distinct.below (at?_directory distinct.names member [])

theorem Node.sizeOf_lt_of_mem {entries : List (Bytes × Node)} {name : Bytes} {n : Node}
    (member : (name, n) ∈ entries) : sizeOf n < sizeOf (directory entries) := by
  have smaller := List.sizeOf_lt_of_mem member
  simp only [Prod.mk.sizeOf_spec, directory.sizeOf_spec] at smaller ⊢
  omega

/-- The names down to an entry, its own included. -/
def Entry.place (e : Entry) : Place :=
  e.above ++ [e.name]

namespace Walk

/-- What a walk meets at one entry of a directory. -/
def metAt (keep : Entry → Bool) (opens : Place → Bool) (above : Place) (name : Bytes) (n : Node) :
    List Entry :=
  if n.isOpen && opens (above ++ [name]) then n.walk keep opens (above ++ [name])
  else [⟨above, name, n.shut⟩]

theorem walkEach_eq (keep : Entry → Bool) (opens : Place → Bool) (above : Place)
    (entries : List (Bytes × Node)) :
    Node.walkEach keep opens above entries =
      (entries.filter fun e => keep ⟨above, e.1, e.2⟩).map fun e =>
        (e.1, metAt keep opens above e.1 e.2) := by
  induction entries with
  | nil => rw [Node.walkEach]; rfl
  | cons e entries ih =>
    obtain ⟨name, n⟩ := e
    rw [Node.walkEach, ih, List.filter_cons]
    by_cases kept : keep ⟨above, name, n⟩ = true
    · rw [if_pos kept, if_pos kept]
      rfl
    · rw [if_neg kept, if_neg kept]

/-- What is met in a directory, in the order of the names. -/
def inNameOrder (met : List (Bytes × List Entry)) : List Entry :=
  (met.mergeSort fun a b => nameLE a.1 b.1).flatMap (·.2)

theorem inNameOrder_map (met : Bytes × Node → List Entry) (entries : List (Bytes × Node)) :
    inNameOrder (entries.map fun e => (e.1, met e)) =
      (entries.mergeSort fun a b => nameLE a.1 b.1).flatMap met := by
  have sorted := List.map_mergeSort (r := fun a b => nameLE a.1 b.1)
    (s := fun a b => nameLE a.1 b.1) (f := fun e : Bytes × Node => (e.1, met e)) (l := entries)
    fun _ _ _ _ => rfl
  rw [inNameOrder, ← sorted, List.flatMap_map]

/-- A name at which nothing is met has no part in what is met. -/
theorem inNameOrder_filter (met : List (Bytes × List Entry)) :
    inNameOrder (met.filter (!·.2.isEmpty)) = inNameOrder met := by
  have dropEmpty (met : List (Bytes × List Entry)) :
      (met.filter (!·.2.isEmpty)).flatMap (·.2) = met.flatMap (·.2) := by
    induction met with
    | nil => rfl
    | cons m met ih =>
      obtain ⟨name, below⟩ := m
      cases below with
      | nil => simpa using ih
      | cons e below => simpa using ih
  rw [inNameOrder, ← filter_mergeSort (fun a b c => nameLE_trans a.1 b.1 c.1)
    (fun a b => nameLE_total a.1 b.1), dropEmpty, inNameOrder]

/-- The order in which a directory lists its names has no part in what is met, nor have the names at
which nothing is met. -/
theorem inNameOrder_congr {met met' : List (Bytes × List Entry)} (distinct : (met.map (·.1)).Nodup)
    (distinct' : (met'.map (·.1)).Nodup)
    (same : ∀ name below, below ≠ [] → ((name, below) ∈ met' ↔ (name, below) ∈ met)) :
    inNameOrder met' = inNameOrder met := by
  have perm : (met'.filter (!·.2.isEmpty)).Perm (met.filter (!·.2.isEmpty)) := by
    refine (List.perm_ext_iff_of_nodup (distinct'.of_map.filter _) (distinct.of_map.filter _)).mpr ?_
    rintro ⟨name, below⟩
    simp only [List.mem_filter, Bool.not_eq_eq_eq_not, Bool.not_true, List.isEmpty_eq_false_iff]
    exact and_congr_left (same name below)
  rw [← inNameOrder_filter met', ← inNameOrder_filter met, inNameOrder, inNameOrder,
    mergeSort_eq_of_perm (·.1) (fun a b c => nameLE_trans a.1 b.1 c.1)
      (fun a b => nameLE_total a.1 b.1) (fun a b => nameLE_antisymm a.1 b.1)
      (distinct'.sublist (List.filter_sublist.map _)) perm]

end Walk

open Walk

/-- A walk of a directory goes through its entries by their names. -/
theorem Node.walk_directory (keep : Entry → Bool) (opens : Place → Bool) (above : Place)
    (entries : List (Bytes × Node)) :
    (directory entries).walk keep opens above =
      ((entries.mergeSort fun a b => nameLE a.1 b.1).filter fun e =>
        keep ⟨above, e.1, e.2⟩).flatMap fun e => metAt keep opens above e.1 e.2 := by
  rw [filter_mergeSort (fun a b c => nameLE_trans a.1 b.1 c.1) (fun a b => nameLE_total a.1 b.1),
    ← inNameOrder_map, ← walkEach_eq, walk, inNameOrder]

theorem Node.mem_walk_directory {keep : Entry → Bool} {opens : Place → Bool} {above : Place}
    {entries : List (Bytes × Node)} {e : Entry} :
    e ∈ (directory entries).walk keep opens above ↔
      ∃ name n, (name, n) ∈ entries ∧ keep ⟨above, name, n⟩ = true ∧
        e ∈ metAt keep opens above name n := by
  simp only [walk_directory, List.mem_flatMap, List.mem_filter, List.mem_mergeSort, Prod.exists,
    and_assoc]

namespace Walk

variable {keep : Entry → Bool} {opens : Place → Bool}

/-- What a look at what is met sees at each name of a directory. -/
def seenEach (keep : Entry → Bool) (opens : Place → Bool) (look : Entry → Option Entry)
    (above : Place) (entries : List (Bytes × Node)) : List (Bytes × List Entry) :=
  (entries.filter fun e => keep ⟨above, e.1, e.2⟩).map fun e =>
    (e.1, (metAt keep opens above e.1 e.2).filterMap look)

theorem inNameOrder_seenEach (keep : Entry → Bool) (opens : Place → Bool)
    (look : Entry → Option Entry) (above : Place) (entries : List (Bytes × Node)) :
    inNameOrder (seenEach keep opens look above entries) =
      ((Node.directory entries).walk keep opens above).filterMap look := by
  rw [seenEach, inNameOrder_map fun e => (metAt keep opens above e.1 e.2).filterMap look,
    Node.walk_directory, List.filterMap_flatMap,
    filter_mergeSort (fun a b c => nameLE_trans a.1 b.1 c.1) (fun a b => nameLE_total a.1 b.1)]

theorem names_seenEach (keep : Entry → Bool) (opens : Place → Bool)
    (look : Entry → Option Entry) (above : Place) {entries : List (Bytes × Node)}
    (distinct : (entries.map (·.1)).Nodup) :
    ((seenEach keep opens look above entries).map (·.1)).Nodup := by
  rw [seenEach, List.map_map]
  exact distinct.sublist (List.filter_sublist.map _)

theorem mem_seenEach {look : Entry → Option Entry} {above : Place} {entries : List (Bytes × Node)}
    {name : Bytes} {seen : List Entry} : (name, seen) ∈ seenEach keep opens look above entries ↔
      ∃ n, (name, n) ∈ entries ∧ keep ⟨above, name, n⟩ = true ∧
        (metAt keep opens above name n).filterMap look = seen := by
  simp only [seenEach, List.mem_map, List.mem_filter, Prod.mk.injEq, Prod.exists]
  constructor
  · rintro ⟨_, n, ⟨member, kept⟩, rfl, rfl⟩
    exact ⟨n, member, kept, rfl⟩
  · rintro ⟨n, member, kept, rfl⟩
    exact ⟨name, n, ⟨member, kept⟩, rfl, rfl⟩

/-- Two directories at each of whose names the same is seen. -/
theorem walk_alike {look look' : Entry → Option Entry} {above : Place}
    {entries entries' : List (Bytes × Node)} (names : (entries.map (·.1)).Nodup)
    (names' : (entries'.map (·.1)).Nodup)
    (forth : ∀ {name n}, (name, n) ∈ entries → keep ⟨above, name, n⟩ = true →
      (metAt keep opens above name n).filterMap look ≠ [] →
      ∃ n', (name, n') ∈ entries' ∧ keep ⟨above, name, n'⟩ = true)
    (back : ∀ {name n'}, (name, n') ∈ entries' → keep ⟨above, name, n'⟩ = true →
      (metAt keep opens above name n').filterMap look' ≠ [] →
      ∃ n, (name, n) ∈ entries ∧ keep ⟨above, name, n⟩ = true)
    (below : ∀ {name n n'}, (name, n) ∈ entries → (name, n') ∈ entries' →
      keep ⟨above, name, n'⟩ = true →
      (metAt keep opens above name n').filterMap look' =
        (metAt keep opens above name n).filterMap look) :
    ((Node.directory entries').walk keep opens above).filterMap look' =
      ((Node.directory entries).walk keep opens above).filterMap look := by
  rw [← inNameOrder_seenEach, ← inNameOrder_seenEach]
  refine inNameOrder_congr (names_seenEach keep opens look above names)
    (names_seenEach keep opens look' above names') fun name seen nonempty => ?_
  rw [mem_seenEach, mem_seenEach]
  constructor
  · rintro ⟨n', member', kept', rfl⟩
    obtain ⟨n, member, kept⟩ := back member' kept' nonempty
    exact ⟨n, member, kept, (below member member' kept').symm⟩
  · rintro ⟨n, member, kept, rfl⟩
    obtain ⟨n', member', kept'⟩ := forth member kept nonempty
    exact ⟨n', member', kept', below member member' kept'⟩

/-- A walk is kept from nothing by what lies inside a directory. -/
def Blind (keep : Entry → Bool) : Prop :=
  ∀ above name (n n' : Node), n.shape = n'.shape →
    keep ⟨above, name, n⟩ = keep ⟨above, name, n'⟩

end Walk

theorem Node.walk_leaf {n : Node} (leaf : n.isOpen = false) (keep : Entry → Bool)
    (opens : Place → Bool) (above : Place) : n.walk keep opens above = [] := by
  cases n with
  | directory entries => contradiction
  | file | link | pipe | locked => rw [walk]; simp

theorem Node.isDirectory_shape (n : Node) : n.shape.isDirectory = n.isDirectory := by
  cases n <;> rfl

theorem Node.isOpen_shape (n : Node) : n.shape.isOpen = n.isOpen := by
  cases n <;> rfl

theorem Node.shut_shape (n : Node) : n.shape.shut = n.shut := by
  cases n <;> rfl

theorem Node.isOpen_of_shape {n n' : Node} (shapes : n.shape = n'.shape) : n'.isOpen = n.isOpen := by
  rw [← isOpen_shape, ← shapes, isOpen_shape]

theorem Node.shut_of_shape {n n' : Node} (shapes : n.shape = n'.shape) : n'.shut = n.shut := by
  rw [← shut_shape, ← shapes, shut_shape]

theorem Node.isDirectory_shut (n : Node) : n.shut.isDirectory = n.isDirectory := by
  cases n <;> rfl

theorem Node.isDirectory_of_isFile {n : Node} (isFile : n.isFile = true) : n.isDirectory = false := by
  cases n with
  | file => rfl
  | locked sort => simpa [Node.isFile, Node.isDirectory] using isFile
  | directory | link | pipe => contradiction

theorem Node.isOpen_of_isFile {n : Node} (isFile : n.isFile = true) : n.isOpen = false := by
  cases n with
  | file | locked => rfl
  | directory | link | pipe => contradiction

section
variable {keep : Entry → Bool} {opens : Place → Bool} {gone : Place → Bool} {above : Place} {name : Bytes}
  {n n' : Node}

/-- What is not gone into is met itself, unless it is gone. -/
theorem Walk.metAt_closed (closed : (n.isOpen && opens (above ++ [name])) = false) :
    (metAt keep opens above name n).filter (fun e => !gone e.place) =
      if gone (above ++ [name]) then [] else [⟨above, name, n.shut⟩] := by
  cases isGone : gone (above ++ [name]) <;> simp [metAt, closed, Entry.place, isGone]

/-- A file that is gone is all that was met where it was. -/
theorem Walk.metAt_gone (isFile : n.isFile = true) (isGone : gone (above ++ [name]) = true) :
    (metAt keep opens above name n).filter (fun e => !gone e.place) = [] := by
  rw [metAt_closed (by rw [Node.isOpen_of_isFile isFile, Bool.false_and]), if_pos isGone]

theorem Walk.metAt_shape (shapes : n.shape = n'.shape)
    (closed : (n.isOpen && opens (above ++ [name])) = false) (kept : ¬gone (above ++ [name]) = true) :
    metAt keep opens above name n' = (metAt keep opens above name n).filter fun e => !gone e.place := by
  rw [metAt_closed closed, if_neg kept, metAt, Node.isOpen_of_shape shapes, closed,
    if_neg Bool.false_ne_true, Node.shut_of_shape shapes]

end

/-- Two trees that agree but for some files are walked alike, but for those files. -/
theorem Node.walk_agree {keep : Entry → Bool} (blind : Blind keep) (opens : Place → Bool)
    {gone : Place → Bool} (n n' : Node) (above : Place)
    (agree : AgreeBut (fun q => gone (above ++ q) = true) n n') (distinct : n.Distinct)
    (distinct' : n'.Distinct) :
    n'.walk keep opens above = (n.walk keep opens above).filter fun e => !gone e.place := by
  by_cases leaf : n.isOpen = false
  · obtain rfl : n' = n :=
      Option.some.inj (agree.at_leaf (agree.present (q := []) rfl) rfl leaf)
    rw [walk_leaf leaf]
    rfl
  match n with
  | .file _ | .link _ | .pipe | .locked _ => simp [isOpen] at leaf
  | .directory entries =>
    obtain ⟨_, entries', there'⟩ := agree.at_directory (q := []) rfl
    obtain rfl : n' = .directory entries' := Option.some.inj there'
    have names : (entries.map (·.1)).Nodup := distinct.names
    have names' : (entries'.map (·.1)).Nodup := distinct'.names
    have present {name : Bytes} {m' : Node} (member' : (name, m') ∈ entries') :
        ¬gone (above ++ [name]) = true :=
      agree.present (q := [name]) ((at?_entry names').mpr member')
    have below {name : Bytes} {m m' : Node} (member : (name, m) ∈ entries)
        (member' : (name, m') ∈ entries') :
        metAt keep opens above name m' =
          (metAt keep opens above name m).filter fun e => !gone e.place := by
      have there := (at?_entry names).mpr member
      have there' := (at?_entry names').mpr member'
      have shapes := agree.kept [name] (present member')
      rw [there, there', Option.map_some, Option.map_some, Option.some_inj] at shapes
      cases entered : m.isOpen && opens (above ++ [name]) with
      | false => exact metAt_shape shapes entered (present member')
      | true =>
        have inner := agree.below there there'
        simp only [← List.append_assoc] at inner
        rw [metAt, metAt, isOpen_of_shape shapes, if_pos entered, if_pos entered]
        exact walk_agree blind opens m m' (above ++ [name]) inner (distinct.entry member)
          (distinct'.entry member')
    -- A file that is gone leaves no name in the second tree, and nothing of it is seen in the first.
    rw [← List.filterMap_eq_filter,
      ← List.filterMap_some (l := (directory entries').walk keep opens above)]
    refine walk_alike names names' (fun {name m} member kept nonempty => ?_)
      (fun {name m'} member' kept' _ => ?_) fun {name m m'} member member' _ => ?_
    · have there := (at?_entry names).mpr member
      have notGone : ¬gone (above ++ [name]) = true := by
        intro isGone
        obtain ⟨⟨file, found, isFile⟩, _⟩ := agree.lost [name] isGone
        cases there.symm.trans found
        rw [List.filterMap_eq_filter, metAt_gone isFile isGone] at nonempty
        contradiction
      obtain ⟨m', there', shapes⟩ := agree.at_some notGone there
      exact ⟨m', (at?_entry names').mp there', by rw [← blind above name m m' shapes, kept]⟩
    · have same := agree.kept [name] (present member')
      rw [(at?_entry names').mpr member'] at same
      obtain ⟨m, there, shapes⟩ := Option.map_eq_some_iff.mp same
      exact ⟨m, (at?_entry names).mp there, by rw [blind above name m m' shapes, kept']⟩
    · rw [List.filterMap_some, List.filterMap_eq_filter]
      exact below member member'
termination_by sizeOf n
decreasing_by exact sizeOf_lt_of_mem member

/-- Whatever is met is met at its place: as it is, or shut if it is a directory that does not open. -/
theorem Node.walk_found {keep : Entry → Bool} {opens : Place → Bool} (n : Node) (above : Place)
    (distinct : n.Distinct) {e : Entry} (met : e ∈ n.walk keep opens above) :
    ∃ q m, q ≠ [] ∧ e.place = above ++ q ∧ n.at? q = some m ∧ e.node = m.shut ∧
      (m.isOpen && opens e.place) = false := by
  match n with
  | .file _ | .link _ | .pipe | .locked _ => simp [walk] at met
  | .directory entries =>
    have names : (entries.map (·.1)).Nodup := distinct.names
    obtain ⟨name, m, member, _, here⟩ := mem_walk_directory.mp met
    rw [metAt] at here
    split at here
    · obtain ⟨q, k, _, place, there, closed⟩ :=
        walk_found m (above ++ [name]) (distinct.entry member) here
      exact ⟨name :: q, k, List.cons_ne_nil name q, by rw [place, List.append_assoc]; rfl,
        (at?_directory names member q).trans there, closed⟩
    · rename_i closed
      cases List.mem_singleton.mp here
      exact ⟨[name], m, List.cons_ne_nil name [], rfl, at?_directory names member [], rfl,
        by simpa [Entry.place] using closed⟩
termination_by sizeOf n
decreasing_by exact sizeOf_lt_of_mem member

theorem Node.eq_of_shut {n m : Node} (shut : n = m.shut) (leaf : n.isDirectory = false) : n = m := by
  subst shut
  cases m with
  | directory => contradiction
  | file | link | pipe | locked => rfl

theorem Node.walk_there {keep : Entry → Bool} {opens : Place → Bool} {n : Node}
    (distinct : n.Distinct) {e : Entry} (met : e ∈ n.walk keep opens [])
    (leaf : e.node.isDirectory = false) : n.at? e.place = some e.node := by
  obtain ⟨q, m, _, place, there, shut, _⟩ := n.walk_found [] distinct met
  rw [place, List.nil_append, there, eq_of_shut shut leaf]

namespace Walk

variable {keep : Entry → Bool} {opens : Place → Bool}

/-- What is met at a name lies at that name, or below it. -/
theorem metAt_place {above : Place} {name : Bytes} {n : Node} (distinct : n.Distinct) {e : Entry}
    (met : e ∈ metAt keep opens above name n) : ∃ q, e.place = above ++ name :: q := by
  rw [metAt] at met
  split at met
  · obtain ⟨q, _, _, place, _⟩ := n.walk_found (above ++ [name]) distinct met
    exact ⟨q, by rw [place, List.append_assoc]; rfl⟩
  · cases List.mem_singleton.mp met
    exact ⟨[], rfl⟩

theorem names_ascending {entries : List (Bytes × Node)} (distinct : (entries.map (·.1)).Nodup) :
    (entries.mergeSort fun a b => nameLE a.1 b.1).Pairwise fun a b => a.1 < b.1 := by
  have ordered := List.pairwise_mergeSort (fun a b c => nameLE_trans a.1 b.1 c.1)
    (fun a b => nameLE_total a.1 b.1) entries
  have perm := (List.mergeSort_perm entries fun a b => nameLE a.1 b.1).map Prod.fst
  have apart := List.pairwise_map.mp (perm.nodup_iff.mpr distinct)
  refine (ordered.and apart).imp fun {a b} both => ?_
  exact Std.lt_of_le_of_ne (nameLE_iff.mp both.1) both.2

/-- What holds between what is met at a name and at a later one, wherever that is. -/
theorem walk_pairwise {related : Entry → Entry → Prop}
    (later : ∀ {above : Place} {x y : Bytes} {n m : Node}, n.Distinct → m.Distinct → x < y →
      ∀ {a b : Entry}, a ∈ metAt keep opens above x n → b ∈ metAt keep opens above y m →
        related a b)
    (n : Node) (above : Place) (distinct : n.Distinct) : (n.walk keep opens above).Pairwise related := by
  match n with
  | .file _ | .link _ | .pipe | .locked _ => simp [Node.walk]
  | .directory entries =>
    have inside {e : Bytes × Node} (member : e ∈ (entries.mergeSort fun a b => nameLE a.1 b.1).filter
        fun e => keep ⟨above, e.1, e.2⟩) : (e.1, e.2) ∈ entries :=
      List.mem_mergeSort.mp (List.mem_filter.mp member).1
    rw [Node.walk_directory, List.pairwise_flatMap]
    constructor
    · intro e member
      have there := inside member
      rw [metAt]
      split
      · exact walk_pairwise later e.2 (above ++ [e.1]) (distinct.entry there)
      · exact List.pairwise_singleton _ _
    · refine ((names_ascending distinct.names).filter _).imp_of_mem fun inX inY less a metA b metB => ?_
      exact later (distinct.entry (inside inX)) (distinct.entry (inside inY)) less metA metB
termination_by sizeOf n
decreasing_by exact Node.sizeOf_lt_of_mem there

end Walk

/-- No place is met twice. -/
theorem Node.walk_once {keep : Entry → Bool} {opens : Place → Bool} (n : Node) (above : Place)
    (distinct : n.Distinct) :
    ((n.walk keep opens above).map (·.place)).Nodup := by
  refine List.pairwise_map.mpr (walk_pairwise ?_ n above distinct)
  intro above x y n m distinct distinct' less a b metA metB same
  obtain ⟨q, placeA⟩ := metAt_place distinct metA
  obtain ⟨q', placeB⟩ := metAt_place distinct' metB
  rw [placeA, placeB] at same
  have names := (List.cons.inj (List.append_cancel_left same)).1
  exact List.lt_irrefl x (names.symm ▸ less)

end CodeAtlas
