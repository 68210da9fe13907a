import CodeAtlas.Proofs.Heeding
import CodeAtlas.Proofs.Listed
import CodeAtlas.Proofs.Naming
import CodeAtlas.Proofs.Removal

namespace CodeAtlas

namespace FileSystem

/-- A directory with what is below it: names as entries can have them, and no links. -/
structure PlainTree (fs : FileSystem) (root : Path) (base : Place) (entries : List (Bytes × Node)) :
    Prop where
  found : fs.find true root = .ok (base, some (.directory entries))
  distinct : fs.root.Distinct
  named : (Node.directory entries).Everywhere fun m => ∀ e ∈ m.entries, Path.IsName e.1
  unlinked : (Node.directory entries).Everywhere fun m => m.isLink = false

/-- The second file system lacks some files below a place of the first, and nothing else. -/
structure Trimmed (fs fs' : FileSystem) (base : Place) (gone : Place → Bool) : Prop where
  current : fs'.current = fs.current
  agree : fs.root.AgreeBut (fun q => ∃ rest, q = base ++ rest ∧ gone rest = true) fs'.root
  distinct : fs'.root.Distinct

variable {fs fs' : FileSystem} {root : Path} {base : Place} {entries : List (Bytes × Node)}
  {gone : Place → Bool}

theorem PlainTree.at_base (tree : fs.PlainTree root base entries) :
    fs.root.at? base = some (.directory entries) :=
  (find_at tree.found).symm

/-- A fact of the names of all entries is a fact of the names down to any of them. -/
theorem names_down {P : Bytes → Prop} {n m : Node} {q : Place}
    (each : n.Everywhere fun m => ∀ e ∈ m.entries, P e.1) (there : n.at? q = some m) :
    ∀ name ∈ q, P name := by
  induction q generalizing n with
  | nil => exact fun _ absurd => nomatch absurd
  | cons name q ih =>
    obtain ⟨child, atName, inside⟩ := Option.bind_eq_some_iff.mp there
    obtain ⟨e, first, rfl⟩ := Option.map_eq_some_iff.mp atName
    have isName : e.1 = name := by simpa using List.find?_some first
    have here := each [] n rfl e (List.mem_of_find?_eq_some first)
    exact List.forall_mem_cons.mpr ⟨isName ▸ here, ih (each.child atName) inside⟩

/-- What a walk meets in such a tree. -/
theorem PlainTree.met (tree : fs.PlainTree root base entries) {ignored : List String}
    {heedRules : Bool} {e : Entry} (met : e ∈ Walk.met fs root ignored heedRules) :
    (Node.directory entries).at? e.place = some e.node ∧ e.node.isDirectory = false ∧
      e.node.isLink = false ∧ ∀ name ∈ e.place, Path.IsName name := by
  have leaf := Walk.leaf_of_met met
  rw [Walk.met, Walk.found, node?, tree.found] at met
  have there := Node.walk_there (tree.distinct.below tree.at_base) (List.mem_filter.mp met).1 leaf
  exact ⟨there, leaf, tree.unlinked e.place e.node there, names_down tree.named there⟩

theorem PlainTree.met_once (tree : fs.PlainTree root base entries) (ignored : List String)
    (heedRules : Bool) : ((Walk.met fs root ignored heedRules).map (·.place)).Nodup := by
  rw [Walk.met, Walk.found, node?, tree.found]
  exact (Node.walk_once (.directory entries) [] (tree.distinct.below tree.at_base)).sublist
    (List.filter_sublist.map _)

/-- A place is met as one entry only. -/
theorem PlainTree.met_eq (tree : fs.PlainTree root base entries) {ignored : List String}
    {heedRules : Bool} {e e' : Entry} (met : e ∈ Walk.met fs root ignored heedRules)
    (met' : e' ∈ Walk.met fs root ignored heedRules) (same : e.place = e'.place) : e = e' :=
  List.inj_on_of_nodup_map (tree.met_once ignored heedRules) met met' same

/-- A source in such a tree is a file, and its name has an extension. -/
theorem PlainTree.source (tree : fs.PlainTree root base entries) {ignored : List String}
    {heedRules : Bool} {pool : Pool} {e : Entry} (met : e ∈ Walk.met fs root ignored heedRules)
    (isSource : (Listing.sourceOf? fs pool root e).isSome = true) :
    e.node.isFile = true ∧ ∃ ext, Path.extensionOf e.name = some ext := by
  obtain ⟨_, _, notLink, areNames⟩ := tree.met met
  have isName : Path.IsName e.name := areNames e.name (by simp [Entry.place])
  rw [Listing.sourceOf?] at isSource
  split at isSource
  · rename_i source
    simp only [Bool.and_eq_true] at source
    constructor
    · have readable := source.1.2
      rwa [Listing.readable, notLink, Bool.false_and, Bool.or_false] at readable
    · obtain ⟨ext, extension, _⟩ := (Option.any_eq_true _ _).mp source.2
      rw [Pool.textExtension?, Path.extension?, Entry.fileName?_path root isName] at extension
      obtain ⟨bytes, found, _⟩ := Option.bind_eq_some_iff.mp extension
      exact ⟨bytes, found⟩
  · contradiction

/-- Some of the files met, taken out. -/
theorem PlainTree.trimmed (tree : fs.PlainTree root base entries) {taken : List Entry}
    (once : (taken.map (·.place)).Nodup)
    (files : ∀ e ∈ taken, ∃ m, (Node.directory entries).at? e.place = some m ∧ m.isFile = true) :
    Trimmed fs (fs.without (taken.map fun e => base ++ e.place)) base
      fun q => taken.any (·.place == q) := by
  have places : (taken.map fun e => base ++ e.place).Nodup := by
    have nodup := once.map (List.append_right_injective base)
    rwa [List.map_map] at nodup
  have there : ∀ q ∈ taken.map fun e => base ++ e.place,
      q ≠ [] ∧ ∃ m, fs.root.at? q = some m ∧ m.isFile = true := by
    intro q member
    obtain ⟨e, taken, rfl⟩ := List.mem_map.mp member
    obtain ⟨m, there, isFile⟩ := files e taken
    refine ⟨by simp [Entry.place], m, ?_, isFile⟩
    rw [Node.at?_append, tree.at_base]
    exact there
  obtain ⟨agree, distinct⟩ := Node.removeAll_agree tree.distinct places there
  have same : (fun q => q ∈ taken.map fun e => base ++ e.place) =
      fun q => ∃ rest, q = base ++ rest ∧ (taken.any (·.place == rest)) = true := by
    funext q
    simp only [List.mem_map, List.any_eq_true, beq_iff_eq, eq_iff_iff]
    constructor
    · rintro ⟨e, member, rfl⟩
      exact ⟨e.place, rfl, e, member, rfl⟩
    · rintro ⟨_, rfl, e, member, rfl⟩
      exact ⟨e, member, rfl⟩
  rw [same] at agree
  exact ⟨rfl, agree, distinct⟩

/-- The root is a directory in both, with trees that agree but for the files that are gone. -/
theorem Trimmed.trees (trimmed : Trimmed fs fs' base gone) (tree : fs.PlainTree root base entries) :
    ∃ entries', fs'.find true root = .ok (base, some (.directory entries')) ∧
      fs'.root.at? base = some (.directory entries') ∧
      (Node.directory entries).AgreeBut (fun q => gone q = true) (.directory entries') := by
  obtain ⟨kept, entries', there'⟩ := trimmed.agree.at_directory tree.at_base
  refine ⟨entries', ?_, there', ?_⟩
  · rw [find_kept trimmed.agree trimmed.current kept tree.found, there']
  · simpa using trimmed.agree.below tree.at_base there'

/-- What is left reads as before. -/
theorem Trimmed.read (trimmed : Trimmed fs fs' base gone) (tree : fs.PlainTree root base entries)
    {q : Place} {n : Node} (there : (Node.directory entries).at? q = some n) (kept : ¬gone q = true) :
    fs'.read (Entry.pathOf root q) = fs.read (Entry.pathOf root q) := by
  obtain ⟨entries', found', base', agree⟩ := trimmed.trees tree
  obtain ⟨n', there', same⟩ := agree.at_some kept there
  have notLink : n.isLink = false := tree.unlinked q n there
  have kind (n : Node) : n.shape.isLink = n.isLink := by cases n <;> rfl
  have notLink' : n'.isLink = false := by rw [← kind, ← same, kind, notLink]
  have below : fs.root.at? (base ++ q) = some n := by
    rw [Node.at?_append, tree.at_base]
    exact there
  have below' : fs'.root.at? (base ++ q) = some n' := by
    rw [Node.at?_append, base']
    exact there'
  have areNames := names_down tree.named there
  have content : contentOf (some n') = contentOf (some n) := by
    rw [← contentOf_shape (some n), Option.map_some, same, ← Option.map_some, contentOf_shape]
  rw [read_pathOf found' below' notLink' areNames, read_pathOf tree.found below notLink areNames,
    content]

/-- A rule file whose name has no extension says the same, if all that is gone has one. -/
theorem Trimmed.load (trimmed : Trimmed fs fs' base gone) (ownNames : fs.OwnNames base)
    (sources : ∀ q, gone q = true → ∃ name ext, q.getLast? = some name ∧
      Path.extensionOf name = some ext) {file : Path} {name : Bytes}
    (named : file.fileName? = some name) (plain : Path.extensionOf name = none) (dir : Path) :
    RuleFile.load fs' dir file = RuleFile.load fs dir file := by
  rcases read_agree trimmed.agree trimmed.current file with same | ⟨q, isGone, ⟨e, failed⟩, found⟩
  · rw [RuleFile.load, RuleFile.load, same]
  · cases read : fs.read file with
    | error e => rw [RuleFile.load, RuleFile.load, read, failed]
    | ok content =>
      obtain ⟨rest, rfl, isGone⟩ := isGone
      obtain ⟨other, ext, atEnd, extension⟩ := sources rest isGone
      have own := ownNames file rest content (found content read)
      rw [named, atEnd] at own
      cases own
      rw [plain] at extension
      contradiction

theorem Trimmed.sameRules (trimmed : Trimmed fs fs' base gone)
    (tree : fs.PlainTree root base entries) (ownNames : fs.OwnNames base)
    (sources : ∀ q, gone q = true → ∃ name ext, q.getLast? = some name ∧
      Path.extensionOf name = some ext) : Ignore.SameRules fs fs' root where
  shared := by
    funext dir
    have named : (Path.ofString ".gitignore").fileName? = some (Text.encode ".gitignore") := by decide
    exact trimmed.load ownNames sources (Path.fileName?_join (by decide) named) (by decide) dir
  excludes := by
    funext dir
    have named : (Path.ofString "info/exclude").fileName? = some (Text.encode "exclude") := by decide
    exact trimmed.load ownNames sources (Path.fileName?_join (by decide) named) (by decide) dir
  base := by
    obtain ⟨entries', found', _⟩ := trimmed.trees tree
    rw [canonical?, canonical?, tree.found, found']

theorem Trimmed.met (trimmed : Trimmed fs fs' base gone) (tree : fs.PlainTree root base entries)
    {heedRules : Bool} (rules : heedRules = true → Ignore.SameRules fs fs' root)
    (ignored : List String) :
    Walk.met fs' root ignored heedRules =
      (Walk.met fs root ignored heedRules).filter (!gone ·.place) := by
  obtain ⟨entries', found', base', agree⟩ := trimmed.trees tree
  exact Walk.met_agree tree.found found' agree (tree.distinct.below tree.at_base)
    (trimmed.distinct.below base') rules ignored

/-- No directory is gone, so that there is the same to say of them. -/
theorem Trimmed.allErrors (trimmed : Trimmed fs fs' base gone) (tree : fs.PlainTree root base entries)
    {heedRules : Bool} (rules : heedRules = true → Ignore.SameRules fs fs' root)
    (ignored : List String) :
    Walk.allErrors fs' root ignored heedRules = Walk.allErrors fs root ignored heedRules := by
  obtain ⟨entries', found', base', agree⟩ := trimmed.trees tree
  have shapes : (fs'.node? root).map Node.shape = (fs.node? root).map Node.shape := by
    rw [node?, node?, found', tree.found]
    rfl
  rw [Walk.allErrors, Walk.allErrors, Walk.errors_congr rules shapes,
    Walk.shut_agree tree.found found' agree (tree.distinct.below tree.at_base)
      (trimmed.distinct.below base') rules]

end FileSystem

end CodeAtlas
