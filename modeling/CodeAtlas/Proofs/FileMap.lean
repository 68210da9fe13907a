import CodeAtlas.Proofs.Containment
import CodeAtlas.Proofs.Relative

namespace CodeAtlas

/-- A root that leads to a directory, with names below it as entries can have them. -/
structure FileSystem.NamedTree (fs : FileSystem) (root : Path) (base : Place)
    (entries : List (Bytes × Node)) : Prop where
  found : fs.find true root = .ok (base, some (.directory entries))
  distinct : (Node.directory entries).Distinct
  named : (Node.directory entries).Everywhere fun m => ∀ e ∈ m.entries, Path.IsName e.1

theorem FileSystem.NamedTree.isDirectory {fs : FileSystem} {root : Path} {base : Place}
    {entries : List (Bytes × Node)} (tree : fs.NamedTree root base entries) :
    fs.isDirectory root = true := by
  rw [FileSystem.isDirectory, node?, tree.found]
  rfl

theorem FileSystem.NamedTree.spelled {fs : FileSystem} {root : Path} {base : Place}
    {entries : List (Bytes × Node)} (tree : fs.NamedTree root base entries) : root.bytes ≠ [] :=
  (find_eq_ok tree.found).2.1

namespace Walk

variable {keep : Entry → Bool} {opens : Place → Bool}

/-- What is met at a name is the entry of that name, or lies below it. -/
theorem metAt_above {above : Place} {name : Bytes} {n : Node} (distinct : n.Distinct) {e : Entry}
    (met : e ∈ metAt keep opens above name n) :
    e.above = above ∧ e.name = name ∨ ∃ q, e.above = above ++ name :: q := by
  obtain ⟨q, place⟩ := metAt_place distinct met
  rw [Entry.place] at place
  rcases List.eq_nil_or_concat q with rfl | ⟨q, last, rfl⟩
  · obtain ⟨here, last⟩ := List.append_inj' place rfl
    exact .inl ⟨here, (List.cons.inj last).1⟩
  · rw [List.concat_eq_append, ← List.cons_append, ← List.append_assoc] at place
    exact .inr ⟨q, (List.append_inj' place rfl).1⟩

theorem metAt_apart {above : Place} {x y : Bytes} {n m : Node} (distinct : n.Distinct)
    (distinct' : m.Distinct) (less : x < y) {a b : Entry} (met : a ∈ metAt keep opens above x n)
    (met' : b ∈ metAt keep opens above y m) (same : a.above = b.above) : a.name < b.name := by
  have deeper (name : Bytes) (q : Place) : above ≠ above ++ name :: q := by simp
  rcases metAt_above distinct met with ⟨here, rfl⟩ | ⟨q, below⟩ <;>
    rcases metAt_above distinct' met' with ⟨here', rfl⟩ | ⟨q', below'⟩
  · exact less
  · exact absurd (here.symm.trans (same.trans below')) (deeper y q')
  · exact absurd (here'.symm.trans (same.symm.trans below)) (deeper x q)
  · rw [below, below'] at same
    have heads := (List.cons.inj (List.append_cancel_left same)).1
    exact absurd (heads ▸ less) (List.lt_irrefl x)

end Walk

/-- The entries of one directory are met in the order of their names. -/
theorem Node.walk_ascending (keep : Entry → Bool) (opens : Place → Bool) (n : Node) (above : Place)
    (distinct : n.Distinct) :
    (n.walk keep opens above).Pairwise fun a b => a.above = b.above → a.name < b.name :=
  Walk.walk_pairwise Walk.metAt_apart n above distinct

namespace Walk

/-- A walk that comes to no directory it cannot open. -/
def Quiet (found : List Entry) : Prop :=
  ∀ e ∈ found, e.node.isDirectory = false

/-- A quiet walk goes into each directory that it is not kept from, and is quiet there. -/
theorem Quiet.entry {keep : Entry → Bool} {opens : Place → Bool} {above : Place}
    {entries : List (Bytes × Node)} (quiet : Quiet ((Node.directory entries).walk keep opens above))
    {name : Bytes} {n : Node} (member : (name, n) ∈ entries) (kept : keep ⟨above, name, n⟩ = true)
    (isDirectory : n.isDirectory = true) :
    (n.isOpen && opens (above ++ [name])) = true ∧ Quiet (n.walk keep opens (above ++ [name])) := by
  have inside {e : Entry} (met : e ∈ metAt keep opens above name n) : e.node.isDirectory = false :=
    quiet e (Node.mem_walk_directory.mpr ⟨name, n, member, kept, met⟩)
  cases entered : n.isOpen && opens (above ++ [name]) with
  | false =>
    have met : ⟨above, name, n.shut⟩ ∈ metAt keep opens above name n := by
      rw [metAt, entered, if_neg Bool.false_ne_true]
      exact List.mem_singleton_self _
    have leaf := inside met
    rw [Node.isDirectory_shut, isDirectory] at leaf
    contradiction
  | true => exact ⟨rfl, fun e met => inside (by rwa [metAt, if_pos entered])⟩

/-- Whether an entry is anything but a directory of certain names. -/
def spares (prune : Bytes → Bool) (e : Entry) : Bool :=
  !(e.node.isDirectory && prune e.name)

theorem spares_of_name {prune : Bytes → Bool} {name : Bytes} (spared : prune name = false)
    (above : Place) (n : Node) : spares prune ⟨above, name, n⟩ = true := by
  simp [spares, spared]

end Walk

open Walk

section
variable {prune : Bytes → Bool} {opens : Place → Bool}

/-- A walk that enters no directory of certain names meets what lies below other names only. -/
theorem Node.walk_spares (n : Node) (above : Place) (distinct : n.Distinct) {e : Entry}
    (met : e ∈ n.walk (spares prune) opens above) :
    ∃ way m, e.above = above ++ way ∧ (∀ name ∈ way, prune name = false) ∧
      n.at? (way ++ [e.name]) = some m ∧ e.node = m.shut ∧
      (m.isDirectory = true → prune e.name = false) ∧ (m.isOpen && opens e.place) = false := by
  match n with
  | .file _ | .link _ | .pipe | .locked _ => simp [walk] at met
  | .directory entries =>
    have names : (entries.map (·.1)).Nodup := distinct.names
    obtain ⟨name, m, member, kept, here⟩ := mem_walk_directory.mp met
    rw [metAt] at here
    split at here
    · rename_i entered
      obtain ⟨way, k, atWay, others, there, rest⟩ :=
        walk_spares m (above ++ [name]) (distinct.entry member) here
      have isDirectory := isDirectory_of_isOpen (Bool.and_eq_true_iff.mp entered).1
      have spared : prune name = false := by simpa [spares, isDirectory] using kept
      exact ⟨name :: way, k, by rw [atWay, List.append_assoc]; rfl,
        List.forall_mem_cons.mpr ⟨spared, others⟩, (at?_directory names member _).trans there, rest⟩
    · rename_i closed
      cases List.mem_singleton.mp here
      exact ⟨[], m, (List.append_nil _).symm, by simp, at?_directory names member [], rfl,
        fun isDirectory => by simpa [spares, isDirectory] using kept,
        by simpa [Entry.place] using closed⟩
termination_by sizeOf n
decreasing_by exact sizeOf_lt_of_mem member

/-- If it is quiet, it meets all of that. -/
theorem Node.mem_walk_of_quiet {n : Node} {above way : Place} (distinct : n.Distinct)
    (quiet : Quiet (n.walk (spares prune) opens above)) {e : Entry} (atWay : e.above = above ++ way)
    (entered : ∀ name ∈ way, prune name = false) (there : n.at? (way ++ [e.name]) = some e.node)
    (leaf : e.node.isDirectory = false) : e ∈ n.walk (spares prune) opens above := by
  induction way generalizing n above with
  | nil =>
    obtain ⟨entries, rfl⟩ := isOpen_iff.mp (isOpen_of_below there)
    have member := (at?_entry distinct.names).mp there
    rw [List.append_nil] at atWay
    refine mem_walk_directory.mpr ⟨e.name, e.node, member, by simp [spares, leaf], ?_⟩
    obtain ⟨above', name, node⟩ := e
    subst atWay
    cases node with
    | directory => contradiction
    | file | link | pipe | locked => exact List.mem_singleton_self _
  | cons name way ih =>
    obtain ⟨entries, rfl⟩ := isOpen_iff.mp (isOpen_of_below there)
    obtain ⟨m, child, inside⟩ := Option.bind_eq_some_iff.mp there
    have member := (child?_eq_some distinct.names).mp child
    have isOpen : m.isOpen = true := by cases way <;> exact isOpen_of_below inside
    obtain ⟨spared, entered⟩ := List.forall_mem_cons.mp entered
    have kept := spares_of_name spared above m
    obtain ⟨goesOn, quiet⟩ := quiet.entry member kept (isDirectory_of_isOpen isOpen)
    refine mem_walk_directory.mpr ⟨name, m, member, kept, ?_⟩
    rw [metAt, if_pos goesOn]
    exact ih (distinct.entry member) quiet (by rw [atWay, List.append_assoc]; rfl) entered inside

end

namespace Text

def IsUtf8 (b : Bytes) : Prop :=
  ∃ text, b = encode text

/-- Bytes below `0x80` are the text of the characters of their numbers. -/
theorem IsUtf8.of_below {b : Bytes} (below : ∀ x ∈ b, x.toNat < 0x80) : IsUtf8 b := by
  refine ⟨.ofList (b.map fun x => Char.ofNat x.toNat), ?_⟩
  rw [encode, String.toList_ofList]
  induction b with
  | nil => rfl
  | cons x b ih =>
    obtain ⟨here, later⟩ := List.forall_mem_cons.mp below
    have alone : String.utf8EncodeChar (Char.ofNat x.toNat) = [x] := by
      have code : (Char.ofNat x.toNat).val.toNat = x.toNat := toNat_charOfNat (.inl (by omega))
      rw [String.utf8EncodeChar, code, if_pos (by omega), UInt8.ofNat_toNat]
    rw [List.map_cons, List.flatMap_cons, alone, ← ih later]
    rfl

/-- What is UTF-8 is the text that is shown for it. -/
theorem IsUtf8.encode_shown {b : Bytes} (isUtf8 : IsUtf8 b) : encode (decodeLossy b) = b := by
  obtain ⟨text, rfl⟩ := isUtf8
  rw [decodeLossy_encode]

theorem encode_shown_names {names : List Bytes} (areUtf8 : ∀ name ∈ names, IsUtf8 name) :
    (names.map decodeLossy).map encode = names := by
  rw [List.map_map]
  exact (List.map_congr_left fun name member => (areUtf8 name member).encode_shown).trans
    (List.map_id names)

end Text

namespace FileSystem.NamedTree

variable {fs : FileSystem} {root : Path} {base : Place} {entries : List (Bytes × Node)}

theorem names (tree : fs.NamedTree root base entries) {q : Place} {n : Node}
    (there : (Node.directory entries).at? q = some n) : ∀ name ∈ q, Path.IsName name :=
  names_down tree.named there

theorem found_eq (tree : fs.NamedTree root base entries) (ignored : List String)
    (heedRules : Bool) :
    Walk.found fs root ignored heedRules = (Node.directory entries).walk
      (Walk.keeps fs root ignored heedRules) (Walk.opens root) [] := by
  rw [Walk.found, node?, tree.found]
  rfl

/-- What is met is there, and has names. -/
theorem met_found (tree : fs.NamedTree root base entries) {ignored : List String} {heedRules : Bool}
    {e : Entry} (met : e ∈ Walk.met fs root ignored heedRules) :
    (Node.directory entries).at? e.place = some e.node ∧ e.node.isDirectory = false ∧
      ∀ name ∈ e.place, Path.IsName name := by
  have leaf := Walk.leaf_of_met met
  rw [Walk.met, tree.found_eq] at met
  have there := Node.walk_there tree.distinct (List.mem_filter.mp met).1 leaf
  exact ⟨there, leaf, tree.names there⟩

/-- With a root that opens, and no rule files, only directories below it can be errors. -/
theorem errors_unheeded (tree : fs.NamedTree root base entries) : Walk.errors fs root false = [] := by
  rw [Walk.errors, node?, tree.found]
  rfl

/-- Under which directory an entry is listed. -/
theorem directoryOf?_eq (tree : fs.NamedTree root base entries) {e : Entry}
    (areNames : ∀ name ∈ e.place, Path.IsName name) :
    Listing.directoryOf? fs root e =
      if e.node.isLink && fs.isDirectory (e.path root) then none
      else some ("/" ++ Entry.shownPath e.above) := by
  rw [Listing.directoryOf?, Walk.directoryKey_parent tree.spelled areNames]

end FileSystem.NamedTree

namespace Builder

/-- A directory that is reached by real directories, none of them ignored. -/
structure Reached (entries : List (Bytes × Node)) (ignored way : List String)
    (inside : List (Bytes × Node)) : Prop where
  there : (Node.directory entries).at? (way.map Text.encode) = some (.directory inside)
  entered : ∀ name ∈ way, name ∉ ignored

/-- Each directory that is reached opens: those who walk may open it, and its path is not refused. -/
def AllOpen (root : Path) (entries : List (Bytes × Node)) (ignored : List String) : Prop :=
  ∀ (way : List String) (n : Node), (Node.directory entries).at? (way.map Text.encode) = some n →
    n.isDirectory = true → (∀ name ∈ way, name ∉ ignored) →
      n.isOpen = true ∧ Entry.refusal? root (way.map Text.encode) = none

/-- Whether a name, by its bytes, is ignored. -/
def prunes (ignored : List String) (name : Bytes) : Bool :=
  ignored.any (Text.encode · == name)

theorem prunes_iff {ignored : List String} {name : String} :
    prunes ignored (Text.encode name) = false ↔ name ∉ ignored := by
  simp only [prunes, List.any_eq_false, beq_iff_eq]
  exact ⟨fun none member => none name member rfl,
    fun absent other member same => absent (Text.encode_injective same ▸ member)⟩

theorem entered_iff {ignored way : List String} :
    (∀ name ∈ way.map Text.encode, prunes ignored name = false) ↔ ∀ name ∈ way, name ∉ ignored := by
  rw [List.forall_mem_map]
  exact forall₂_congr fun _ _ => prunes_iff

theorem keeps_unheeded (fs : FileSystem) (root : Path) (ignored : List String) :
    Walk.keeps fs root ignored false = Walk.spares (prunes ignored) := by
  funext e
  simp [Walk.keeps, Walk.spares, prunes]

/-- A build that heeds no rule files has nothing to say of its walk but of the directories that do not
open. -/
theorem errors_unheeded {fs : FileSystem} {root : Path} {base : Place} {entries : List (Bytes × Node)}
    (tree : fs.NamedTree root base entries) {b : Builder} (unheeded : b.options.respectGitignore = false) :
    (b.listing fs root).errors =
      (Walk.shut fs root b.options.ignoreDirs false).map (Listing.shutError root) := by
  rw [listing_errors, unheeded, Walk.allErrors, tree.errors_unheeded, List.nil_append]

/-- The names, by their bytes, of a directory's entries, but for directories and links to
directories. -/
structure Lists (fs : FileSystem) (root : Path) (way : List String) (inside : List (Bytes × Node))
    (names : List String) : Prop where
  ascending : names.Pairwise fun a b => Text.encode a < Text.encode b
  exact : ∀ name, name ∈ names ↔ ∃ n, (Text.encode name, n) ∈ inside ∧ n.isDirectory = false ∧
    ¬(n.isLink = true ∧ fs.isDirectory (Entry.pathOf root ((way ++ [name]).map Text.encode)) = true)

variable {fs : FileSystem} {root : Path} {base : Place} {entries : List (Bytes × Node)}

/-- A directory has one list of names. -/
theorem Lists.unique {way : List String} {inside : List (Bytes × Node)} {names names' : List String}
    (lists : Lists fs root way inside names) (lists' : Lists fs root way inside names') :
    names = names' := by
  have irrefl (a b : String) (less : Text.encode a < Text.encode b) : a ≠ b := by
    rintro rfl
    exact List.lt_irrefl _ less
  have perm : names.Perm names' := (List.perm_ext_iff_of_nodup (lists.ascending.imp (irrefl _ _))
    (lists'.ascending.imp (irrefl _ _))).mpr fun name => (lists.exact name).trans (lists'.exact name).symm
  refine perm.eq_of_pairwise (fun a b _ _ less greater => ?_) lists.ascending lists'.ascending
  exact absurd (List.lt_trans less greater) (List.lt_irrefl _)

/-- The key of a directory in the file map. -/
def directoryKey (way : List String) : String :=
  "/" ++ "/".intercalate way

theorem directoryKey_eq (way : List String) :
    directoryKey way = "/" ++ Entry.shownPath (way.map Text.encode) := by
  have shown : (way.map Text.encode).map Text.decodeLossy = way := by
    rw [List.map_map]
    exact (List.map_congr_left fun name _ => Text.decodeLossy_encode name).trans (List.map_id way)
  rw [directoryKey, Entry.shownPath, shown]

section
variable (tree : fs.NamedTree root base entries)
  (texts : (Node.directory entries).Everywhere fun m => ∀ e ∈ m.entries, Text.IsUtf8 e.1)
  {ignored way : List String} {inside : List (Bytes × Node)}

include tree in
theorem Reached.names (reached : Reached entries ignored way inside) :
    ∀ name ∈ way.map Text.encode, Path.IsName name :=
  tree.names reached.there

include tree in
theorem Reached.distinct (reached : Reached entries ignored way inside) :
    (inside.map (·.1)).Nodup :=
  Node.Distinct.names (tree.distinct.below reached.there)

include tree texts

/-- What a walk that heeds no rules meets: entries of the directories that are reached. -/
theorem reached_of_met {e : Entry} (met : e ∈ Walk.met fs root ignored false) :
    ∃ way inside, Reached entries ignored way inside ∧
      e.above = way.map Text.encode ∧ (e.name, e.node) ∈ inside := by
  obtain ⟨there, _⟩ := tree.met_found met
  rw [Walk.met, tree.found_eq, keeps_unheeded] at met
  obtain ⟨q, m, atPlace, entered, _⟩ :=
    Node.walk_spares _ _ tree.distinct (List.mem_filter.mp met).1
  rw [List.nil_append] at atPlace
  rw [Entry.place, atPlace] at there
  have namesTexts := FileSystem.names_down texts there
  have shown := Text.encode_shown_names fun name member =>
    namesTexts name (List.mem_append_left _ member)
  rw [Node.at?_append] at there
  obtain ⟨k, atWay, child⟩ := Option.bind_eq_some_iff.mp there
  obtain ⟨inside, rfl⟩ := Node.isOpen_iff.mp (Node.isOpen_of_below child)
  rw [Node.at?_singleton] at child
  exact ⟨q.map Text.decodeLossy, inside,
    ⟨by rw [shown, atWay], entered_iff.mp (shown.symm ▸ entered)⟩, by rw [shown, atPlace],
    (Node.child?_eq_some (Node.Distinct.names (tree.distinct.below atWay))).mp child⟩

omit texts in
/-- And all of them, if each directory that it comes to opens. -/
theorem met_of_reached (quiet : Walk.Quiet (Walk.found fs root ignored false)) {e : Entry}
    (reached : Reached entries ignored way inside) (atWay : e.above = way.map Text.encode)
    (member : (e.name, e.node) ∈ inside) (leaf : e.node.isDirectory = false) :
    e ∈ Walk.met fs root ignored false := by
  refine List.mem_filter.mpr ⟨?_, by simp [leaf]⟩
  rw [tree.found_eq, keeps_unheeded] at quiet ⊢
  have fromRoot : e.above = [] ++ e.above := rfl
  refine Node.mem_walk_of_quiet tree.distinct quiet fromRoot ?_ ?_ leaf
  · exact atWay ▸ entered_iff.mpr reached.entered
  · rw [atWay, Node.at?_child reached.there]
    exact (Node.child?_eq_some (reached.distinct tree)).mpr member

/-- Where they open the walk is quiet. -/
theorem AllOpen.quiet (opens : AllOpen root entries ignored) :
    Walk.Quiet (Walk.found fs root ignored false) := by
  rw [tree.found_eq, keeps_unheeded]
  intro e met
  obtain ⟨way, m, atWay, entered, there, shut, spared, closed⟩ := Node.walk_spares _ _ tree.distinct met
  rw [List.nil_append] at atWay
  by_contra isDirectory
  rw [Bool.not_eq_false, shut, Node.isDirectory_shut] at isDirectory
  have shown := Text.encode_shown_names (FileSystem.names_down texts there)
  have others : ∀ name ∈ way ++ [e.name], prunes ignored name = false :=
    List.forall_mem_append.mpr ⟨entered, List.forall_mem_singleton.mpr (spared isDirectory)⟩
  obtain ⟨isOpen, asked⟩ :=
    opens _ m (by rwa [shown]) isDirectory (entered_iff.mp (shown.symm ▸ others))
  rw [shown, ← atWay] at asked
  rw [isOpen, Bool.true_and, Entry.place, Walk.opens, asked] at closed
  contradiction

/-- Names that are texts are told apart by the key. -/
theorem directoryKey_inj {q : Place} {n : Node} (there : (Node.directory entries).at? q = some n)
    (areNames : ∀ name ∈ way.map Text.encode, Path.IsName name) :
    "/" ++ Entry.shownPath q = directoryKey way ↔ q = way.map Text.encode := by
  rw [directoryKey_eq, String.append_right_inj]
  constructor
  · intro same
    have shown := Entry.shownPath_inj (tree.names there) areNames same
    have encoded := congrArg (List.map Text.encode) shown
    rwa [Text.encode_shown_names (FileSystem.names_down texts there),
      Text.encode_shown_names (List.forall_mem_map.mpr fun name _ => ⟨name, rfl⟩)] at encoded
  · rintro rfl
    rfl

/-- An entry is listed under the directory it lies in. -/
theorem directoryOf?_met {e : Entry} (met : e ∈ Walk.met fs root ignored false)
    (areNames : ∀ name ∈ way.map Text.encode, Path.IsName name) :
    Listing.directoryOf? fs root e = some (directoryKey way) ↔ e.above = way.map Text.encode ∧
      ¬(e.node.isLink = true ∧ fs.isDirectory (e.path root) = true) := by
  obtain ⟨there, _, names⟩ := tree.met_found met
  have above : ∃ n, (Node.directory entries).at? e.above = some n := by
    rw [Entry.place, Node.at?_append] at there
    obtain ⟨n, atAbove, _⟩ := Option.bind_eq_some_iff.mp there
    exact ⟨n, atAbove⟩
  obtain ⟨n, atAbove⟩ := above
  rw [tree.directoryOf?_eq names, ← directoryKey_inj tree texts atAbove areNames, ← Bool.and_eq_true]
  by_cases toDirectory : (e.node.isLink && fs.isDirectory (e.path root)) = true <;> simp [toDirectory]

theorem mem_listed (reached : Reached entries ignored way inside) {e : Entry} :
    e ∈ (Walk.met fs root ignored false).filter
        (Listing.directoryOf? fs root · == some (directoryKey way)) ↔
      e ∈ Walk.met fs root ignored false ∧ e.above = way.map Text.encode ∧
        ¬(e.node.isLink = true ∧ fs.isDirectory (e.path root) = true) := by
  rw [List.mem_filter, beq_iff_eq]
  exact and_congr_right fun met => directoryOf?_met tree texts met (reached.names tree)

theorem encode_shown_met {e : Entry} (met : e ∈ Walk.met fs root ignored false) :
    Text.encode e.shown = e.name :=
  (FileSystem.names_down texts (tree.met_found met).1 e.name
    (List.mem_append_right _ List.mem_cons_self)).encode_shown

theorem Reached.ascending (reached : Reached entries ignored way inside) :
    (Listing.namesIn fs root (Walk.met fs root ignored false) (directoryKey way)).Pairwise
      fun a b => Text.encode a < Text.encode b := by
  have ascending := Node.walk_ascending (Walk.keeps fs root ignored false) (Walk.opens root)
    (.directory entries) [] tree.distinct
  rw [← tree.found_eq] at ascending
  refine List.pairwise_map.mpr
    ((ascending.sublist (List.filter_sublist.trans List.filter_sublist)).imp_of_mem ?_)
  intro a b memberA memberB less
  obtain ⟨metA, aboveA, _⟩ := (mem_listed tree texts reached).mp memberA
  obtain ⟨metB, aboveB, _⟩ := (mem_listed tree texts reached).mp memberB
  rw [encode_shown_met tree texts metA, encode_shown_met tree texts metB]
  exact less (aboveA.trans aboveB.symm)

/-- Under the key of a directory that is reached stand its names. -/
theorem Reached.lists (quiet : Walk.Quiet (Walk.found fs root ignored false))
    (reached : Reached entries ignored way inside) :
    Lists fs root way inside
      (Listing.namesIn fs root (Walk.met fs root ignored false) (directoryKey way)) := by
  refine ⟨reached.ascending tree texts, fun name => ⟨fun shown => ?_, ?_⟩⟩
  · obtain ⟨e, member, rfl⟩ := List.mem_map.mp shown
    obtain ⟨met, above, notDirectory⟩ := (mem_listed tree texts reached).mp member
    obtain ⟨way', inside', reached', above', member'⟩ := reached_of_met tree texts met
    have same : inside' = inside := by
      have there' := reached'.there
      rw [← above', above, reached.there] at there'
      exact (Node.directory.inj (Option.some.inj there')).symm
    have encoded : Text.encode e.shown = e.name := encode_shown_met tree texts met
    refine ⟨e.node, by rw [encoded, ← same]; exact member', Walk.leaf_of_met met, ?_⟩
    rw [List.map_append, ← above, List.map_singleton, encoded]
    exact notDirectory
  · rintro ⟨n, member, leaf, notDirectory⟩
    let e : Entry := ⟨way.map Text.encode, Text.encode name, n⟩
    have met : e ∈ Walk.met fs root ignored false :=
      met_of_reached tree quiet reached rfl member leaf
    have path : e.path root = Entry.pathOf root ((way ++ [name]).map Text.encode) := by
      rw [List.map_append]
      rfl
    rw [← path] at notDirectory
    exact List.mem_map.mpr ⟨e, (mem_listed tree texts reached).mpr ⟨met, rfl, notDirectory⟩,
      Text.decodeLossy_encode name⟩

end

end Builder

end CodeAtlas
