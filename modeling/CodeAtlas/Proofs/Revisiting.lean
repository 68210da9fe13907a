import CodeAtlas.Proofs.FileMap
import CodeAtlas.Proofs.Growth
import CodeAtlas.Proofs.KeyLocality

namespace CodeAtlas

theorem Node.isOpen_kind (n : Node) : n.kind.isOpen = n.isOpen := by
  cases n <;> rfl

theorem Node.shut_kind {n n' : Node} (same : n'.kind = n.kind) : n'.shut.kind = n.shut.kind := by
  have first (n : Node) : n.shut.kind = n.kind.shut := by
    cases n <;> rfl
  rw [first, first, same]

namespace Entry

/-- An entry as far as a walk looks at it. -/
def seen (e : Entry) : Entry :=
  { e with node := e.node.kind }

/-- What is seen of an entry if it is listed. A directory is not. -/
def seen? (e : Entry) : Option Entry :=
  if e.node.isDirectory then none else some e.seen

variable {e e' : Entry} (same : e'.seen = e.seen)

include same

theorem path_of_seen (root : Path) : e'.path root = e.path root :=
  show e'.seen.path root = e.seen.path root from congrArg _ same

theorem place_of_seen : e'.place = e.place :=
  show e'.seen.place = e.seen.place from congrArg _ same

theorem kind_of_seen : e'.node.kind = e.node.kind :=
  congrArg node same

omit same in
theorem leaf_of_seen? {seen : Entry} (look : e.seen? = some seen) : e.node.isDirectory = false := by
  by_contra isDirectory
  rw [seen?, if_pos (by simpa using isDirectory)] at look
  contradiction

omit same in
/-- Of what does not open no more is seen than its kind. -/
theorem seen?_shut {above : Place} {name : Bytes} {n n' : Node} (kind : n'.kind = n.kind) :
    seen? ⟨above, name, n'.shut⟩ = seen? ⟨above, name, n.shut⟩ := by
  have shut : n'.shut.kind = n.shut.kind := Node.shut_kind kind
  have sort : n'.shut.isDirectory = n.shut.isDirectory := by
    rw [← Node.isDirectory_kind, shut, Node.isDirectory_kind]
  simp only [seen?, seen, sort, shut]

end Entry

/-- A walk asks of a node no more than whether it is a directory. -/
def Walk.ByKind (keep : Entry → Bool) : Prop :=
  ∀ above name (n n' : Node), n.isDirectory = n'.isDirectory →
    keep ⟨above, name, n⟩ = keep ⟨above, name, n'⟩

namespace Node

/-- Whatever lies in the first tree lies in the second one, and is of the kind it was. -/
def GrownTo (n n' : Node) : Prop :=
  ∀ q m, n.at? q = some m → ∃ m', n'.at? q = some m' ∧ m'.kind = m.kind

section
variable {entries entries' : List (Bytes × Node)} (grown : (directory entries).GrownTo (directory entries'))
  (names : (entries.map (·.1)).Nodup) (names' : (entries'.map (·.1)).Nodup) {name : Bytes} {m m' : Node}
include grown names names'

theorem GrownTo.named (member : (name, m) ∈ entries) : ∃ m', (name, m') ∈ entries' := by
  obtain ⟨m', atName, _⟩ := grown [name] m ((at?_entry names).mpr member)
  exact ⟨m', (at?_entry names').mp atName⟩

theorem GrownTo.entry (member : (name, m) ∈ entries) (member' : (name, m') ∈ entries') :
    m'.kind = m.kind ∧ m.GrownTo m' := by
  constructor
  · obtain ⟨own, atName, kind⟩ := grown [name] m ((at?_entry names).mpr member)
    rw [(at?_entry names').mpr member'] at atName
    cases atName
    exact kind
  · intro q k found
    obtain ⟨k', found', kind⟩ := grown (name :: q) k ((at?_directory names member q).trans found)
    exact ⟨k', (at?_directory names' member' q).symm.trans found', kind⟩

end

open Walk in
/-- A walk that lists nothing new lists what it listed before the tree grew. -/
theorem walk_grown {keep : Entry → Bool} (byKind : ByKind keep) (opens : Place → Bool)
    (n n' : Node) (above : Place) (grown : n.GrownTo n') (distinct : n.Distinct) (distinct' : n'.Distinct)
    (old : ∀ e ∈ n'.walk keep opens above, e.node.isDirectory = false → ∀ q, e.place = above ++ q →
      (n.at? q).isSome = true) :
    (n'.walk keep opens above).filterMap Entry.seen? =
      (n.walk keep opens above).filterMap Entry.seen? := by
  obtain ⟨own, here, kind⟩ := grown [] n rfl
  cases here
  cases shape : n with
  | file | link | pipe | locked =>
    have leaf : n'.isOpen = false := by
      rw [← isOpen_kind, kind, isOpen_kind, shape]
      rfl
    rw [walk_leaf leaf, walk_leaf rfl]
  | directory entries =>
    obtain ⟨entries', rfl⟩ := kind_eq_directory (shape ▸ kind)
    subst shape
    have names : (entries.map (·.1)).Nodup := distinct.names
    have names' : (entries'.map (·.1)).Nodup := distinct'.names
    have keptAlike {name : Bytes} {m m' : Node} (member : (name, m) ∈ entries)
        (member' : (name, m') ∈ entries') : keep ⟨above, name, m'⟩ = keep ⟨above, name, m⟩ := by
      refine byKind above name m' m ?_
      rw [← isDirectory_kind, (grown.entry names names' member member').1, isDirectory_kind]
    have inWalk {name : Bytes} {m' : Node} (member' : (name, m') ∈ entries')
        (kept : keep ⟨above, name, m'⟩ = true) {e : Entry} (met : e ∈ metAt keep opens above name m') :
        e ∈ (directory entries').walk keep opens above :=
      mem_walk_directory.mpr ⟨name, m', member', kept, met⟩
    -- Where anything is listed at a name in the second tree, the name is one of the first.
    refine walk_alike names names' (fun {name m} member kept _ => ?_)
      (fun {name m'} member' kept nonempty => ?_) fun {name m m'} member member' kept => ?_
    · obtain ⟨m', member'⟩ := grown.named names names' member
      exact ⟨m', member', (keptAlike member member').trans kept⟩
    · have isOld : ((directory entries).at? [name]).isSome = true := by
        obtain ⟨seen, isSeen⟩ := List.exists_mem_of_ne_nil _ nonempty
        obtain ⟨e, met, look⟩ := List.mem_filterMap.mp isSeen
        obtain ⟨q, place⟩ := metAt_place (distinct'.entry member') met
        have found := old e (inWalk member' kept met) (Entry.leaf_of_seen? look) (name :: q) place
        rw [← List.singleton_append, at?_append] at found
        exact Option.isSome_of_isSome_bind found
      obtain ⟨m, atName⟩ := Option.isSome_iff_exists.mp isOld
      have member := (at?_entry names).mp atName
      exact ⟨m, member, (keptAlike member member').symm.trans kept⟩
    · obtain ⟨kind, inside⟩ := grown.entry names names' member member'
      have opensAlike : m'.isOpen = m.isOpen := by rw [← isOpen_kind, kind, isOpen_kind]
      cases entered : m.isOpen && opens (above ++ [name]) with
      | true =>
        rw [metAt, metAt, opensAlike, if_pos entered, if_pos entered]
        refine walk_grown byKind opens m m' (above ++ [name]) inside (distinct.entry member)
          (distinct'.entry member') fun e met leaf q place => ?_
        rw [← at?_directory names member q]
        refine old e (inWalk member' kept ?_) leaf (name :: q) (by rw [place, List.append_assoc]; rfl)
        rwa [metAt, opensAlike, if_pos entered]
      | false =>
        rw [metAt, metAt, opensAlike, entered, if_neg Bool.false_ne_true, if_neg Bool.false_ne_true]
        simp only [List.filterMap_cons, List.filterMap_nil, Entry.seen?_shut kind]
termination_by sizeOf n
decreasing_by exact shape ▸ sizeOf_lt_of_mem member

end Node

theorem Walk.map_met (fs : FileSystem) (root : Path) (ignored : List String) (heedRules : Bool) :
    (met fs root ignored heedRules).map Entry.seen =
      (found fs root ignored heedRules).filterMap Entry.seen? := by
  rw [met, ← List.filterMap_eq_map, List.filterMap_filter]
  refine List.filterMap_congr fun e _ => ?_
  cases sort : e.node.isDirectory <;> simp [Entry.seen?, sort]

theorem Walk.keeps_byKind (fs : FileSystem) (root : Path) (ignored : List String) (heedRules : Bool) :
    ByKind (keeps fs root ignored heedRules) := by
  intro above name n n' same
  simp only [keeps, Entry.directories, Entry.path, same]

namespace FileSystem

/-- What is read through a path, if anything is, is the content of what it leads to. -/
theorem read_toOption (fs : FileSystem) (p : Path) :
    (fs.read p).toOption = (contentOf (fs.node? p)).toOption := by
  cases found : fs.find true p with
  | error e =>
    rw [read_of_error found, node?, found]
    rfl
  | ok answer =>
    obtain ⟨q, n⟩ := answer
    rw [read_of_find found, node?, found]

section
variable {written : Place → Prop} {fs fs' : FileSystem} (grown : Grown written fs fs') {p : Path}
  (leads : fs'.pathExists p = true → fs.pathExists p = true)

include grown leads

/-- A path that leads nowhere new leads to what it led to. -/
theorem Grown.node?_eq : (fs'.node? p).map Node.kind = (fs.node? p).map Node.kind ∧
    ((∀ q, fs'.LeadsTo p q → ¬written q) →
      (fs'.node? p).map Node.shape = (fs.node? p).map Node.shape) := by
  cases there : fs.node? p with
  | none =>
    have nowhere : fs'.node? p = none := by
      rw [pathExists, pathExists, there] at leads
      cases there' : fs'.node? p with
      | none => rfl
      | some n => exact absurd (leads (by rw [there']; rfl)) Bool.false_ne_true
    rw [nowhere]
    exact ⟨rfl, fun _ => rfl⟩
  | some n =>
    obtain ⟨q, found⟩ := find_of_node? there
    obtain ⟨n', found', _, kind, shape⟩ := grown.find found
    have there' : fs'.node? p = some n' := by rw [node?, found']
    rw [there', Option.map_some, Option.map_some, Option.map_some, Option.map_some, kind]
    exact ⟨rfl, fun spared => congrArg some (shape (spared q ⟨n', found'⟩))⟩

theorem Grown.isDirectory_eq : fs'.isDirectory p = fs.isDirectory p := by
  have asKind (n : Option Node) : n.any Node.isDirectory = (n.map Node.kind).any Node.isDirectory := by
    cases n with
    | none => rfl
    | some n => exact (Node.isDirectory_kind n).symm
  rw [isDirectory, isDirectory, asKind, (grown.node?_eq leads).1, ← asKind]

section
variable (spared : ∀ q, fs'.LeadsTo p q → ¬written q)

include spared

theorem Grown.isFile_eq : fs'.isFile p = fs.isFile p := by
  have asShape (n : Option Node) : n.any Node.isFile = (n.map Node.shape).any Node.isFile := by
    rcases n with _ | n
    · rfl
    · cases n <;> rfl
  rw [isFile, isFile, asShape, (grown.node?_eq leads).2 spared, ← asShape]

theorem Grown.read_eq : (fs'.read p).toOption = (fs.read p).toOption := by
  rw [read_toOption, read_toOption, ← contentOf_shape, (grown.node?_eq leads).2 spared,
    contentOf_shape]

end

end

end FileSystem

/-- What comes of a file depends on what is read from it, if anything is. -/
theorem Pool.parseFile_toOption (clock : Clock) (fs : FileSystem) (pool : Pool) (p : Path) :
    (pool.parseFile clock fs p).value.1.toOption = (fs.read p).toOption.bind fun content =>
      let ext := (textExtension? p).getD ""
      if pool.supportsExtension ext then
        (Text.decode? content).bind fun text => (pool.parseText clock text ext).1.toOption
      else none := by
  cases supported : pool.supportsExtension ((textExtension? p).getD "") with
  | false => cases fs.read p <;> simp [parseFile, supported, Except.toOption]
  | true =>
    cases read : fs.read p with
    | error e => simp [parseFile, supported, read, Except.toOption]
    | ok content =>
      cases decoded : Text.decode? content <;>
        simp [parseFile, supported, read, decoded, Except.toOption, Logged.note]

theorem Analysis.insertions_eq {clock clock' : Clock} (exceeds : clock'.exceeds = clock.exceeds)
    {fs fs' : FileSystem} {source : SourceFile}
    (same : (fs'.read source.path).toOption = (fs.read source.path).toOption) (pool : Pool) :
    (outcome clock' fs' pool source).insertions = (outcome clock fs pool source).insertions := by
  have parsed : (pool.parseFile clock' fs' source.path).value.1.toOption =
      (pool.parseFile clock fs source.path).value.1.toOption := by
    obtain ⟨_, spent'⟩ := clock'
    cases exceeds
    rw [Pool.parseFile_toOption, Pool.parseFile_toOption, same]
    rfl
  have insertions (clock : Clock) (fs : FileSystem) : (outcome clock fs pool source).insertions =
      ((pool.parseFile clock fs source.path).value.1.toOption.elim []
        (·.extraction.functions)).map (source.relative, ·) := by
    rw [outcome_eq, FileOutcome.insertions_of_extraction]
    cases (pool.parseFile clock fs source.path).value.1 <;> rfl
  rw [insertions, insertions, parsed]

/-- What is gathered from two lists whose elements look alike is the same, if it is from elements that
look alike. -/
theorem filterMap_of_alike {α β γ : Type} {look : α → β} {f g : α → Option γ} {l l' : List α}
    (alike : l'.map look = l.map look)
    (each : ∀ a ∈ l, ∀ a' ∈ l', look a' = look a → g a' = f a) : l'.filterMap g = l.filterMap f := by
  induction l generalizing l' with
  | nil => rw [List.map_eq_nil_iff.mp alike]; rfl
  | cons a l ih =>
    obtain ⟨a', l', rfl, first, rest⟩ := List.map_eq_cons_iff.mp alike
    have same := each a List.mem_cons_self a' List.mem_cons_self first
    have others := ih rest fun b member b' member' =>
      each b (List.mem_cons_of_mem a member) b' (List.mem_cons_of_mem a' member')
    rw [List.filterMap_cons, List.filterMap_cons, same, others]

namespace Listing

theorem readable_of_shape {fs fs' : FileSystem} {p : Path} {n n' : Node} (shape : n'.shape = n.shape)
    (isFile : fs'.isFile p = fs.isFile p) : readable fs' p n' = readable fs p n := by
  have asShape (fs : FileSystem) (n : Node) : readable fs p n = readable fs p n.shape := by
    cases n <;> rfl
  rw [asShape fs', asShape fs, shape, readable, readable, isFile]

/-- The names under a directory, gathered entry by entry. -/
theorem namesIn_eq (fs : FileSystem) (root : Path) (met : List Entry) (directory : String) :
    namesIn fs root met directory = met.filterMap fun e =>
      if directoryOf? fs root e = some directory then some e.shown else none := by
  rw [namesIn, ← List.filterMap_eq_map, List.filterMap_filter]
  refine List.filterMap_congr fun e _ => ?_
  by_cases here : directoryOf? fs root e = some directory <;> simp [here]

end Listing

namespace Builder

/-- The graph of a root. -/
def graphOf (b : Builder) (clock : Clock) (fs : FileSystem) (root : Path) (url : String) : Graph :=
  (b.merge (b.listing fs root) url
    ((inOrder (b.listing fs root)).map (Analysis.outcome clock fs b.pool))).value.1

theorem graphOf_built {r : Registry} {options : BuildOptions} {b : Builder}
    (made : (ofRegistry r options).value = .ok b) {host : Host} {fs : FileSystem} {root : Path}
    {url : String} {m : Merged} (isDirectory : fs.isDirectory root = true)
    (built : (b.build host fs root url).value.1 = .ok m) : m.1 = b.graphOf host.clock fs root url := by
  rw [build_made made host url isDirectory] at built
  rw [← Except.ok.inj built, graphOf]

theorem graphOf_of_no_sources {b : Builder} {clock : Clock} {fs : FileSystem} {root : Path} {url : String}
    (none : (b.listing fs root).sources = []) :
    b.graphOf clock fs root url = { repositoryUrl := url, files := (b.listing fs root).directories } := by
  rw [graphOf, merge_value, inOrder, none, List.mergeSort_nil, Graph.ofListing_eq]
  rfl

/-- What a build meets in the second file system was there in the first one, leads nowhere it did not
lead, and is no source that was written. -/
structure Undisturbed (b : Builder) (before after : FileSystem) (written : Place → Prop) (root : Path)
    (base : Place) : Prop where
  old : ∀ e ∈ b.met after root, (before.root.at? (base ++ e.place)).isSome = true
  leads : ∀ e ∈ b.met after root, after.pathExists (e.path root) = true →
    before.pathExists (e.path root) = true
  sources : ∀ e ∈ b.met after root, b.pool.supportsPath (e.path root) = true →
    ¬written (base ++ e.place) ∧ ∀ q, after.LeadsTo (e.path root) q → ¬written q
  rules : b.options.respectGitignore = true → Ignore.SameRules before after root

section
variable {b : Builder} {before after : FileSystem} {written : Place → Prop} {root : Path}
  {base : Place} {n : Node}
  (grown : FileSystem.Grown written before after)
  (distinct : before.root.Distinct)
  (found : before.find true root = .ok (base, some n))
  (undisturbed : b.Undisturbed before after written root base)

include grown distinct found undisturbed

theorem met_grown : (b.met after root).map Entry.seen = (b.met before root).map Entry.seen := by
  obtain ⟨n', found', there', _⟩ := grown.find found
  have there : before.root.at? base = some n := (FileSystem.find_at found).symm
  have inBase {fs : FileSystem} {m : Node} (there : fs.root.at? base = some m) (q : Place) :
      m.at? q = fs.root.at? (base ++ q) := by
    rw [Node.at?_append, there, Option.bind_some]
  have old := undisturbed.old
  rw [met, met, Walk.map_met, Walk.map_met]
  simp only [met, Walk.met, Walk.found, FileSystem.node?, found, found', Option.elim_some] at old ⊢
  rw [Walk.keeps_congr undisturbed.rules] at old ⊢
  refine Node.walk_grown (Walk.keeps_byKind _ _ _ _) _ _ _ [] (fun q m there => ?_)
    (distinct.below there) ((grown.distinct distinct).below there') fun e met leaf q place => ?_
  · rw [inBase ‹_›] at there
    obtain ⟨m', there', kind, _⟩ := grown.kept _ m there
    exact ⟨m', (inBase ‹_› q).trans there', kind⟩
  · rw [inBase there, ← List.nil_append q, ← place]
    exact old e (List.mem_filter.mpr ⟨met, by rw [leaf]; rfl⟩)

omit grown undisturbed in
theorem met_there {e : Entry} (met : e ∈ b.met before root) :
    before.root.at? (base ++ e.place) = some e.node := by
  have there : before.root.at? base = some n := (FileSystem.find_at found).symm
  have leaf := Walk.leaf_of_met met
  have met := (List.mem_filter.mp met).1
  rw [Walk.found, FileSystem.node?, found] at met
  rw [Node.at?_append, there]
  exact Node.walk_there (distinct.below there) met leaf

section
variable {e e' : Entry} (met : e ∈ b.met before root) (met' : e' ∈ b.met after root)
  (same : e'.seen = e.seen)

include met' same

omit distinct found in
theorem directoryOf?_grown :
    Listing.directoryOf? after root e' = Listing.directoryOf? before root e := by
  have isLink : e'.node.isLink = e.node.isLink := by
    rw [← Node.isLink_kind, Entry.kind_of_seen same, Node.isLink_kind]
  rw [Listing.directoryOf?, grown.isDirectory_eq (undisturbed.leads e' met'), isLink,
    Entry.path_of_seen same]
  rfl

include met

theorem sourceOf?_grown :
    Listing.sourceOf? after b.pool root e' = Listing.sourceOf? before b.pool root e := by
  have directory := directoryOf?_grown grown undisturbed met' same
  have path := Entry.path_of_seen same root
  cases supported : b.pool.supportsPath (e.path root) with
  | false => simp [Listing.sourceOf?, path, supported]
  | true =>
    obtain ⟨spared, apart⟩ := undisturbed.sources e' met' (path ▸ supported)
    obtain ⟨n', there', _, shape⟩ := grown.kept _ _ (met_there distinct found met)
    obtain ⟨_, found', _⟩ := grown.find found
    have own := met_there (grown.distinct distinct) found' met'
    rw [Entry.place_of_seen same, there'] at own
    rw [Entry.place_of_seen same] at spared
    have readable := Listing.readable_of_shape (Option.some.inj own ▸ shape spared)
      (grown.isFile_eq (undisturbed.leads e' met') apart)
    rw [path] at readable
    rw [Listing.sourceOf?, Listing.sourceOf?, directory, path, readable]

end

theorem listing_grown :
    (b.listing after root).directories = (b.listing before root).directories ∧
      (b.listing after root).sources = (b.listing before root).sources := by
  have alike := met_grown grown distinct found undisturbed
  constructor
  · refine Catalog.ext_of_get? fun directory => ?_
    rw [listing_names, listing_names, Listing.namesIn_eq, Listing.namesIn_eq,
      filterMap_of_alike alike fun e met e' met' same => ?_]
    rw [directoryOf?_grown grown undisturbed met' same]
    have shown : e'.shown = e.shown :=
      show e'.seen.shown = e.seen.shown from congrArg _ same
    rw [shown]
  · rw [listing_sources, listing_sources]
    exact filterMap_of_alike alike fun e met e' met' same =>
      sourceOf?_grown grown distinct found undisturbed met met' same

/-- The graph of a build that is not disturbed is the one of the build before. -/
theorem graphOf_grown {clock clock' : Clock} (exceeds : clock'.exceeds = clock.exceeds) (url : String) :
    b.graphOf clock' after root url = b.graphOf clock before root url := by
  obtain ⟨directories, sources⟩ := listing_grown grown distinct found undisturbed
  have same : inOrder (b.listing before root) = inOrder (b.listing after root) := by
    rw [inOrder, inOrder, sources]
  rw [graphOf, graphOf, merge_value, merge_value, Graph.ofListing_eq, Graph.ofListing_eq, directories, same,
    List.flatMap_map, List.flatMap_map]
  refine congrArg (Graph.insertAll _) (List.flatMap_congr fun source member => ?_)
  rw [inOrder, List.mem_mergeSort, listing_sources] at member
  obtain ⟨e', met', isSource⟩ := List.mem_filterMap.mp member
  obtain ⟨rfl, supported⟩ := Listing.sourceOf?_eq_some isSource
  exact Analysis.insertions_eq exceeds
    (grown.read_eq (undisturbed.leads e' met') (undisturbed.sources e' met' supported).2) b.pool

end

end Builder

end CodeAtlas
