import CodeAtlas.Proofs.Accounting
import CodeAtlas.Proofs.FileMap

namespace CodeAtlas

namespace Entry

/-- Whether an entry that is no link is a source. -/
def isSource (pool : Pool) (e : Entry) : Bool :=
  e.node.isFile && ((Path.extensionOf e.name).bind Text.decode?).any pool.supportsExtension

theorem isSource_eq {e : Entry} (isFile : e.node.isFile = true) {ext : String}
    (extension : (Path.extensionOf e.name).bind Text.decode? = some ext) (pool : Pool) :
    e.isSource pool = pool.supportsExtension ext := by
  rw [isSource, isFile, extension]
  rfl

/-- The source that an entry is below a root. -/
def source (root : Path) (e : Entry) : SourceFile :=
  ⟨e.path root, shownPath e.place⟩

def shownLE (a b : Entry) : Bool :=
  shownPath a.place ≤ shownPath b.place

/-- By the length of its path, what lies below a root can be asked for from both spellings of the root,
or from neither. -/
def FitsAlike (root root' : Path) (names : List Bytes) : Prop :=
  (pathOf root' names).bytes.length ≤ FileSystem.maxPath ↔
    (pathOf root names).bytes.length ≤ FileSystem.maxPath

instance (root root' : Path) (names : List Bytes) : Decidable (FitsAlike root root' names) :=
  inferInstanceAs (Decidable (_ ↔ _))

theorem textExtension?_path (root : Path) {e : Entry} (isName : Path.IsName e.name) :
    Pool.textExtension? (e.path root) = (Path.extensionOf e.name).bind Text.decode? := by
  rw [Pool.textExtension?, Path.extension?, fileName?_path root isName, Option.bind_some]

end Entry

/-- A file is parsed by its extension and by what is read from it; time has no part in it but for
the limit. -/
theorem Pool.parseFile_alike {fs fs' : FileSystem} {p q : Path} (read : fs'.read q = fs.read p)
    (extension : textExtension? q = textExtension? p) (pool : Pool)
    (exceeds : Language → Nat → String → Bool) (spent spent' : Path → Nat) :
    (pool.parseFile ⟨exceeds, spent'⟩ fs' q).value.1 =
      (pool.parseFile ⟨exceeds, spent⟩ fs p).value.1 := by
  simp only [parseFile, read, extension]
  split
  · rfl
  · split
    · rfl
    · split <;> rfl

/-- A walk asks of no directory whether it opens but of those it comes to. -/
theorem Node.walk_opens {prune : Bytes → Bool} {opens opens' : Place → Bool} (n : Node)
    (above : Place) (distinct : n.Distinct)
    (alike : ∀ q m, q ≠ [] → n.at? q = some m → m.isOpen = true →
      (∀ name ∈ q, prune name = false) → opens' (above ++ q) = opens (above ++ q)) :
    n.walk (Walk.spares prune) opens' above = n.walk (Walk.spares prune) opens above := by
  match n with
  | .file _ | .link _ | .pipe | .locked _ => rw [walk_leaf rfl, walk_leaf rfl]
  | .directory entries =>
    rw [walk_directory, walk_directory]
    refine List.flatMap_congr fun ⟨name, m⟩ among => ?_
    obtain ⟨sorted, kept⟩ := List.mem_filter.mp among
    have member : (name, m) ∈ entries := List.mem_mergeSort.mp sorted
    dsimp only
    rw [Walk.metAt, Walk.metAt]
    cases isOpen : m.isOpen with
    | false => rfl
    | true =>
      have spared : prune name = false := by
        simpa [Walk.spares, isDirectory_of_isOpen isOpen] using kept
      have there (q : Place) : (directory entries).at? (name :: q) = m.at? q :=
        at?_directory distinct.names member q
      rw [alike [name] m (by simp) (there []) isOpen (by simpa using spared)]
      have below : m.walk (Walk.spares prune) opens' (above ++ [name]) =
          m.walk (Walk.spares prune) opens (above ++ [name]) := by
        refine walk_opens m _ (distinct.entry member) fun q k _ found isOpen others => ?_
        rw [List.append_assoc, List.singleton_append]
        exact alike (name :: q) k (by simp) ((there q).trans found) isOpen
          (List.forall_mem_cons.mpr ⟨spared, others⟩)
      rw [below]
termination_by sizeOf n
decreasing_by exact sizeOf_lt_of_mem member

namespace FileSystem.NamedTree

variable {fs : FileSystem} {root root' : Path} {base : Place} {entries : List (Bytes × Node)}

theorem respelled (tree : fs.NamedTree root base entries)
    (same : fs.find true root' = fs.find true root) : fs.NamedTree root' base entries :=
  ⟨same.trans tree.found, tree.distinct, tree.named⟩

/-- What can be asked for from both roots or from neither is refused by both alike. -/
theorem refusal?_respelled (tree : fs.NamedTree root base entries)
    (same : fs.find true root' = fs.find true root) {q : Place} {n : Node}
    (there : (Node.directory entries).at? q = some n) (fits : Entry.FitsAlike root root' q) :
    Entry.refusal? root' q = Entry.refusal? root q := by
  obtain ⟨noZero, _⟩ := find_eq_ok tree.found
  obtain ⟨noZero', spelled', _⟩ := find_eq_ok (same.trans tree.found)
  have long : (Entry.pathOf root' q).bytes.length > maxPath ↔
      (Entry.pathOf root q).bytes.length > maxPath := by
    rw [gt_iff_lt, gt_iff_lt, ← Nat.not_le, ← Nat.not_le]
    exact not_congr fits
  rw [refusal?_eq spelled' noZero' (tree.names there),
    refusal?_eq tree.spelled noZero (tree.names there)]
  simp only [long]

section
variable (tree : fs.NamedTree root base entries)
  (unlinked : (Node.directory entries).Everywhere fun m => m.isLink = false)
include tree unlinked

theorem met_unlinked {b : Builder} {e : Entry} (met : e ∈ b.met fs root) :
    (Node.directory entries).at? e.place = some e.node ∧ e.node.isDirectory = false ∧
      e.node.isLink = false ∧ ∀ name ∈ e.place, Path.IsName name := by
  obtain ⟨there, leaf, areNames⟩ := tree.met_found met
  exact ⟨there, leaf, unlinked e.place e.node there, areNames⟩

theorem directoryOf?_unlinked {b : Builder} {e : Entry} (met : e ∈ b.met fs root) :
    Listing.directoryOf? fs root e = some ("/" ++ Entry.shownPath e.above) := by
  obtain ⟨_, _, notLink, areNames⟩ := tree.met_unlinked unlinked met
  rw [tree.directoryOf?_eq areNames, notLink]
  rfl

theorem sourceOf?_unlinked {b : Builder} {e : Entry} (met : e ∈ b.met fs root) :
    Listing.sourceOf? fs b.pool root e =
      if e.isSource b.pool then some (e.source root) else none := by
  obtain ⟨_, _, notLink, areNames⟩ := tree.met_unlinked unlinked met
  have isName : Path.IsName e.name := areNames e.name (by simp [Entry.place])
  have readable : Listing.readable fs (e.path root) e.node = e.node.isFile := by
    rw [Listing.readable, notLink, Bool.false_and, Bool.or_false]
  rw [Listing.sourceOf?, tree.directoryOf?_unlinked unlinked met, readable, Pool.supportsPath,
    Entry.textExtension?_path root isName, Walk.relative_path tree.spelled areNames,
    Option.isSome_some, Bool.true_and]
  rfl

end

end FileSystem.NamedTree

theorem Path.pieces_slashes (n : Nat) :
    pieces (List.replicate n slash) = List.replicate (n + 1) [] := by
  induction n with
  | zero => rfl
  | succ n ih => rw [List.replicate_succ, pieces, if_pos rfl, ih, List.replicate_succ (n := n + 1)]

/-- Below a root whose path is as long as it can be, nothing can be asked for. -/
theorem Entry.refusal?_of_full {root : Path} (noZero : root.bytes.contains 0 = false)
    (full : root.bytes.length = FileSystem.maxPath) {name : Bytes} (isName : Path.IsName name) :
    refusal? root [name] = some (if name.contains 0 then .invalidName else .nameTooLong) := by
  have spelled : root.bytes ≠ [] := List.ne_nil_of_length_pos (by rw [full]; decide)
  have nonempty : root.bytes.isEmpty = false := by simpa using spelled
  have joined : pathOf root [name] = root.join ⟨name⟩ := rfl
  have more : 0 < name.length := List.length_pos_of_ne_nil isName.ne_nil
  have long : (pathOf root [name]).bytes.length > FileSystem.maxPath := by
    rw [joined, Path.join, isName.relative, nonempty, Bool.or_self, if_neg Bool.false_ne_true, ← full]
    split <;> simp only [List.length_append, List.length_cons] <;> omega
  have single : [name].any (·.contains 0) = name.contains 0 := Bool.or_false _
  rw [FileSystem.refusal?_eq spelled noZero (List.forall_mem_singleton.mpr isName), single]
  split
  · rfl
  · rw [if_pos (.inl long)]

/-- A walk from there finds what lies in the root, and no directory that opens. -/
theorem FileSystem.NamedTree.found_of_full {fs : FileSystem} {root : Path} {base : Place}
    {entries : List (Bytes × Node)} (tree : fs.NamedTree root base entries)
    (full : root.bytes.length = maxPath) (ignored : List String) :
    Walk.found fs root ignored false = ((entries.mergeSort fun a b => nameLE a.1 b.1).filter fun e =>
      Walk.spares (Builder.prunes ignored) ⟨[], e.1, e.2⟩).map fun e => ⟨[], e.1, e.2.shut⟩ := by
  obtain ⟨noZero, _⟩ := find_eq_ok tree.found
  rw [tree.found_eq, Builder.keeps_unheeded, Node.walk_directory, List.map_eq_flatMap]
  refine List.flatMap_congr fun e among => ?_
  have member : (e.1, e.2) ∈ entries := List.mem_mergeSort.mp (List.mem_filter.mp among).1
  have isName : Path.IsName e.1 := tree.named [] _ rfl e member
  have closed : Walk.opens root [e.1] = false := by
    rw [Walk.opens, Entry.refusal?_of_full noZero full isName]
    rfl
  rw [Walk.metAt, List.nil_append, closed, Bool.and_false, if_neg Bool.false_ne_true]

/-- However many slashes there are, they lead to the top. -/
theorem FileSystem.find_slashes {fs : FileSystem} {entries : List (Bytes × Node)}
    (top : fs.root = .directory entries) {n : Nat} (nonempty : n ≠ 0) (short : n ≤ maxPath) :
    fs.find true ⟨List.replicate n Path.slash⟩ = .ok ([], some (.directory entries)) := by
  have stays (k : Nat) : fs.follow true maxLinks [] (List.replicate k []) =
      .ok ([], some (.directory entries)) := by
    induction k with
    | zero => rw [List.replicate_zero, follow_nil, Node.at?, top]
    | succ k ih =>
      rw [List.replicate_succ, follow_cons, turn_directory (congrArg _ top)]
      exact ih
  have noZero : (0 : UInt8) ≠ Path.slash := by decide
  have absolute : (Path.mk (List.replicate n Path.slash)).isAbsolute = true := by
    simp [Path.isAbsolute, List.head?_replicate, nonempty]
  simp [find, noZero, nonempty, Nat.not_lt.mpr short, absolute, Path.pieces_slashes, stays]

namespace Builder

variable {fs : FileSystem} {root root' : Path} {base : Place} {entries : List (Bytes × Node)}

/-- The entries that are sources, in the order of the merge. -/
def sourcesMet (b : Builder) (fs : FileSystem) (root : Path) : List Entry :=
  ((b.met fs root).filter (·.isSource b.pool)).mergeSort Entry.shownLE

theorem mem_sourcesMet {b : Builder} {e : Entry} :
    e ∈ b.sourcesMet fs root ↔ e ∈ b.met fs root ∧ e.isSource b.pool = true := by
  rw [sourcesMet, List.mem_mergeSort, List.mem_filter]

/-- The directories that a walk can come to can be asked for from both spellings of a root, or from
neither. -/
def DirectoriesFit (b : Builder) (entries : List (Bytes × Node)) (root root' : Path) : Prop :=
  ∀ q n, (Node.directory entries).at? q = some n → n.isDirectory = true →
    (∀ name ∈ q, prunes b.options.ignoreDirs name = false) → Entry.FitsAlike root root' q

/-- So can the sources. -/
def SourcesFit (b : Builder) (fs : FileSystem) (root root' : Path) : Prop :=
  ∀ e ∈ b.sourcesMet fs root, Entry.FitsAlike root root' e.place

section
variable {b : Builder} (tree : fs.NamedTree root base entries)
  (same : fs.find true root' = fs.find true root) (fits : b.DirectoriesFit entries root root')
include tree same fits

/-- Where the directories can be asked for alike, the walks find the same. -/
theorem found_respelled : Walk.found fs root' b.options.ignoreDirs false =
    Walk.found fs root b.options.ignoreDirs false := by
  rw [(tree.respelled same).found_eq, tree.found_eq, keeps_unheeded, keeps_unheeded]
  refine Node.walk_opens _ [] tree.distinct fun q n _ there isOpen others => ?_
  rw [List.nil_append, Walk.opens, Walk.opens, tree.refusal?_respelled same there
    (fits q n there (Node.isDirectory_of_isOpen isOpen) others)]

variable (unheeded : b.options.respectGitignore = false)
include unheeded

theorem met_respelled : b.met fs root' = b.met fs root := by
  rw [met, met, unheeded, Walk.met, Walk.met, found_respelled tree same fits]

/-- The walks have the same to say of the same directories. -/
theorem errors_respelled : ∃ shut : List (Place × FileError),
    (b.listing fs root).errors =
        shut.map (fun s => Walk.unopened (Entry.pathOf root s.1) s.2) ∧
      (b.listing fs root').errors =
        shut.map (fun s => Walk.unopened (Entry.pathOf root' s.1) s.2) := by
  let asked (root : Path) (e : Entry) : Place × FileError :=
    (e.place, (Entry.refusal? root e.place).getD .permissionDenied)
  have spelledOut (root : Path) (l : List Entry) : l.map (Listing.shutError root) =
      (l.map (asked root)).map fun s => Walk.unopened (Entry.pathOf root s.1) s.2 := by
    rw [List.map_map]
    rfl
  have alike : (Walk.shut fs root b.options.ignoreDirs false).map (asked root') =
      (Walk.shut fs root b.options.ignoreDirs false).map (asked root) := by
    refine List.map_congr_left fun e member => ?_
    obtain ⟨met, isDirectory⟩ := List.mem_filter.mp member
    rw [tree.found_eq, keeps_unheeded] at met
    obtain ⟨way, n, atWay, others, there, shut, spared, _⟩ := Node.walk_spares _ _ tree.distinct met
    rw [List.nil_append] at atWay
    rw [← atWay] at others there
    rw [← Entry.place] at there
    rw [shut, Node.isDirectory_shut] at isDirectory
    have entered : ∀ name ∈ e.place, prunes b.options.ignoreDirs name = false := by
      rw [Entry.place, List.forall_mem_append, List.forall_mem_singleton]
      exact ⟨others, spared isDirectory⟩
    have refused := tree.refusal?_respelled same there (fits e.place n there isDirectory entered)
    simp only [asked, refused]
  have shutAlike : Walk.shut fs root' b.options.ignoreDirs false =
      Walk.shut fs root b.options.ignoreDirs false := by
    rw [Walk.shut, Walk.shut, found_respelled tree same fits]
  refine ⟨(Walk.shut fs root b.options.ignoreDirs false).map (asked root), ?_, ?_⟩
  · rw [errors_unheeded tree unheeded, spelledOut]
  · rw [errors_unheeded (tree.respelled same) unheeded, shutAlike, spelledOut, alike]

end

section
variable (tree : fs.NamedTree root base entries)
  (unlinked : (Node.directory entries).Everywhere fun m => m.isLink = false)
include tree unlinked

section
variable {b : Builder} {clock : Clock} {e : Entry} (met : e ∈ b.met fs root)
  (isSource : e.isSource b.pool = true)
include met isSource

theorem failure?_of_source {error : ParseError}
    (failed : (b.pool.parseFile clock fs (e.path root)).value.1 = .error error) :
    b.failure? clock fs root e = some ⟨Entry.shownPath e.place, error⟩ := by
  obtain ⟨_, _, _, areNames⟩ := tree.met_unlinked unlinked met
  have source := tree.sourceOf?_unlinked unlinked met
  rw [if_pos isSource] at source
  have relative := (Walk.relative_path tree.spelled areNames).symm
  exact failure?_eq_some.mpr ⟨by rw [source]; rfl, relative, failed⟩

omit unlinked in
theorem supported_of_source : ∃ ext, Pool.textExtension? (e.path root) = some ext ∧
    b.pool.supportsExtension ext = true := by
  obtain ⟨_, _, areNames⟩ := tree.met_found met
  rw [Entry.textExtension?_path root (areNames e.name (by simp [Entry.place]))]
  exact (Option.any_eq_true ..).mp (Bool.and_eq_true_iff.mp isSource).2

theorem failure?_of_unread {error : FileError} (unread : fs.read (e.path root) = .error error) :
    b.failure? clock fs root e = some ⟨Entry.shownPath e.place, .read error⟩ := by
  obtain ⟨ext, extension, supported⟩ := supported_of_source tree met isSource
  refine failure?_of_source tree unlinked met isSource ?_
  simp [Pool.parseFile, extension, supported, unread]

theorem failure?_of_no_text {content : Bytes} (read : fs.read (e.path root) = .ok content)
    (noText : Text.decode? content = none) :
    b.failure? clock fs root e = some ⟨Entry.shownPath e.place, .invalidEncoding⟩ := by
  obtain ⟨ext, extension, supported⟩ := supported_of_source tree met isSource
  refine failure?_of_source tree unlinked met isSource ?_
  simp [Pool.parseFile, extension, supported, read, noText]

/-- Below a root whose path is as long as it can be no source can be read. -/
theorem failure?_of_full (full : root.bytes.length = FileSystem.maxPath) (top : e.above = [])
    (noZero : e.name.contains 0 = false) :
    b.failure? clock fs root e = some ⟨Entry.shownPath e.place, .read .nameTooLong⟩ := by
  obtain ⟨there, _, notLink, areNames⟩ := tree.met_unlinked unlinked met
  obtain ⟨rootNoZero, _⟩ := FileSystem.find_eq_ok tree.found
  have place : e.place = [e.name] := by rw [Entry.place, top, List.nil_append]
  have inside : fs.root.at? (base ++ e.place) = some e.node := by
    rw [Node.at?_append, ← FileSystem.find_at tree.found]
    exact there
  have read := FileSystem.read_pathOf tree.found inside notLink areNames
  have isName : Path.IsName e.name := areNames e.name (by simp [place])
  have refused := Entry.refusal?_of_full rootNoZero full isName
  rw [noZero, if_neg Bool.false_ne_true] at refused
  rw [place, refused, ← place] at read
  exact failure?_of_unread tree unlinked met isSource read

end

/-- The sources of a listing are those entries, each by its path from the root as it is spelled. -/
theorem inOrder_listing (b : Builder) :
    inOrder (b.listing fs root) = (b.sourcesMet fs root).map (·.source root) := by
  have sources : (b.listing fs root).sources =
      ((b.met fs root).filter (·.isSource b.pool)).map (·.source root) := by
    rw [listing_sources, ← List.filterMap_eq_map, List.filterMap_filter]
    exact List.filterMap_congr fun e met => tree.sourceOf?_unlinked unlinked met
  rw [inOrder, sources, sourcesMet, List.map_mergeSort]
  exact fun _ _ _ _ => rfl

theorem directories_respelled {b : Builder} (unheeded : b.options.respectGitignore = false)
    (same : fs.find true root' = fs.find true root) (fits : b.DirectoriesFit entries root root') :
    (b.listing fs root').directories = (b.listing fs root).directories := by
  refine Catalog.ext_of_get? fun directory => ?_
  have met := met_respelled tree same fits unheeded
  rw [listing_names, listing_names, met, Listing.namesIn, Listing.namesIn]
  refine congrArg (fun es : List Entry => Listing.asListed (es.map (·.shown)))
    (List.filter_congr fun e there => ?_)
  rw [tree.directoryOf?_unlinked unlinked there,
    (tree.respelled same).directoryOf?_unlinked unlinked (met ▸ there)]

/-- A source that can be asked for from both roots, or from neither, comes to the same. -/
theorem outcome_respelled {b : Builder} (same : fs.find true root' = fs.find true root) {e : Entry}
    (there : e ∈ b.met fs root) (fits : Entry.FitsAlike root root' e.place)
    (exceeds : Language → Nat → String → Bool) (spent spent' : Path → Nat) :
    (Analysis.outcome ⟨exceeds, spent'⟩ fs b.pool (e.source root')).untimed =
      (Analysis.outcome ⟨exceeds, spent⟩ fs b.pool (e.source root)).untimed := by
  obtain ⟨inside, _, notLink, areNames⟩ := tree.met_unlinked unlinked there
  have isName : Path.IsName e.name := areNames e.name (by simp [Entry.place])
  have below : fs.root.at? (base ++ e.place) = some e.node := by
    rw [Node.at?_append, ← FileSystem.find_at tree.found]
    exact inside
  have first := FileSystem.read_pathOf tree.found below notLink areNames
  have second := FileSystem.read_pathOf (same.trans tree.found) below notLink areNames
  have read : fs.read (e.path root') = fs.read (e.path root) := by
    rw [Entry.place, ← Entry.path, ← Entry.place] at first second
    rw [first, second, tree.refusal?_respelled same inside fits]
  have extension : Pool.textExtension? (e.path root') = Pool.textExtension? (e.path root) := by
    rw [Entry.textExtension?_path root' isName, Entry.textExtension?_path root isName]
  have parsed := Pool.parseFile_alike read extension b.pool exceeds spent spent'
  rw [Analysis.outcome_eq, Analysis.outcome_eq]
  exact congrArg (fun answer : Except ParseError ParsedUnit =>
    FileOutcome.mk (Entry.shownPath e.place) (answer.map (·.extraction)) 0) parsed

theorem outcomes_respelled {b : Builder} (same : fs.find true root' = fs.find true root)
    (sources : b.sourcesMet fs root' = b.sourcesMet fs root) (fits : b.SourcesFit fs root root')
    (exceeds : Language → Nat → String → Bool) (spent spent' : Path → Nat) :
    ((inOrder (b.listing fs root')).map (Analysis.outcome ⟨exceeds, spent'⟩ fs b.pool)).map
        (·.untimed) =
      ((inOrder (b.listing fs root)).map (Analysis.outcome ⟨exceeds, spent⟩ fs b.pool)).map
        (·.untimed) := by
  rw [inOrder_listing tree unlinked, inOrder_listing (tree.respelled same) unlinked, sources]
  simp only [List.map_map]
  exact List.map_congr_left fun e member => outcome_respelled tree unlinked same
    (mem_sourcesMet.mp member).1 (fits e member) exceeds spent spent'

end

/-- A merge looks at nothing of a listing but the file map, beside the errors it reports, and at
nothing of an outcome but the time beside what is merged. -/
theorem merge_respelled (b : Builder) {l l' : Listing} (directories : l'.directories = l.directories)
    (url : String) {outcomes outcomes' : List FileOutcome}
    (same : outcomes'.map (·.untimed) = outcomes.map (·.untimed)) :
    let m := (b.merge l url outcomes).value
    untimed (b.merge l' url outcomes').value =
      untimed (m.1, { m.2 with walkErrors := l'.errors }) := by
  have insertions : outcomes'.flatMap (·.insertions) = outcomes.flatMap (·.insertions) := by
    rw [← FileOutcome.insertions_untimed, same, FileOutcome.insertions_untimed]
  have counted : { BuildReport.ofOutcomes outcomes' with parseTimeMs := 0 } =
      { BuildReport.ofOutcomes outcomes with parseTimeMs := 0 } := by
    rw [← BuildReport.ofOutcomes_untimed, same, BuildReport.ofOutcomes_untimed]
  simp only [merge_value, Graph.ofListing_eq, directories, insertions]
  exact congrArg (fun report : BuildReport => (_, { report with
    skippedLanguages := b.pool.skipped, walkErrors := l'.errors })) counted

/-- Two paths to one directory. If each directory that the walk can come to can be asked for from both
of them or from neither, they give the same file map, as many sources, and errors of the walk for the
same directories; if each source can, too, they give the same graph and, errors of the walk and the time
apart, the same report. -/
theorem build_same_for_any_spelling {r : Registry} {options : BuildOptions} {b : Builder}
    (made : (ofRegistry r options).value = .ok b) (unheeded : options.respectGitignore = false)
    (tree : fs.NamedTree root base entries)
    (unlinked : (Node.directory entries).Everywhere fun m => m.isLink = false)
    (same : fs.find true root' = fs.find true root) (url : String)
    (exceeds : Language → Nat → String → Bool) (spent spent' : Path → Nat) (crew crew' : Crew) :
    ∃ m m', (b.build ⟨⟨exceeds, spent⟩, crew⟩ fs root url).value.1 = .ok m ∧
      (b.build ⟨⟨exceeds, spent'⟩, crew'⟩ fs root' url).value.1 = .ok m' ∧
      m'.2.skippedLanguages = m.2.skippedLanguages ∧
      (b.DirectoriesFit entries root root' →
        m'.1.files = m.1.files ∧
        m'.2.filesParsed + m'.2.filesSkipped = m.2.filesParsed + m.2.filesSkipped ∧
        (∃ shut : List (Place × FileError),
          m.2.walkErrors = shut.map (fun s => Walk.unopened (Entry.pathOf root s.1) s.2) ∧
            m'.2.walkErrors = shut.map (fun s => Walk.unopened (Entry.pathOf root' s.1) s.2)) ∧
        (b.SourcesFit fs root root' →
          untimed m' = untimed (m.1, { m.2 with walkErrors := m'.2.walkErrors }) ∧
            (m.2.walkErrors = [] → untimed m' = untimed m))) := by
  have own : b.options = options := by rw [eq_of_made made]
  have unheeded : b.options.respectGitignore = false := own ▸ unheeded
  have tree' := tree.respelled same
  have answer := build_made made ⟨⟨exceeds, spent⟩, crew⟩ url tree.isDirectory
  have answer' := build_made made ⟨⟨exceeds, spent'⟩, crew'⟩ url tree'.isDirectory
  refine ⟨_, _, answer, answer', by rw [merge_value, merge_value], fun fits => ?_⟩
  have sources : b.sourcesMet fs root' = b.sourcesMet fs root := by
    rw [sourcesMet, sourcesMet, met_respelled tree same fits unheeded]
  have directories := directories_respelled tree unlinked unheeded same fits
  obtain ⟨shut, errors, errors'⟩ := errors_respelled tree same fits unheeded
  rw [merge_errors, merge_errors, merge_files, merge_files]
  refine ⟨directories, ?_, ⟨shut, errors, errors'⟩, fun asked => ?_⟩
  · rw [(b.merge_accounts ..).total, (b.merge_accounts ..).total, inOrder_listing tree unlinked,
      inOrder_listing tree' unlinked, sources]
    simp only [List.length_map]
  · have alike := b.merge_respelled directories url
      (outcomes_respelled tree unlinked same sources asked exceeds spent spent')
    refine ⟨alike, fun quiet => alike.trans (congrArg untimed ?_)⟩
    -- Without errors from one spelling there are none from the other.
    have none : shut = [] := by rwa [errors, List.map_eq_nil_iff] at quiet
    rw [errors', none, List.map_nil, ← quiet, merge_value]

/-- A root from its top, and the same one from beside it, by points, a detour and a slash too many. -/
theorem build_same_for_relative_detour :
    let python : LanguageEntry := ⟨"python", ["py"], [], "name", "call", "function", .python⟩
    let b : Builder := ⟨(Pool.ofEntries [python]).withTimeout none, {}⟩
    let below : List (Bytes × Node) := [(Text.encode "a.py", .file (Text.encode "def f(): pass"))]
    let fs : FileSystem := ⟨.directory [(Text.encode "p", .directory below),
      (Text.encode "q", .directory [])], [Text.encode "q"]⟩
    let root := Path.ofString "/p"
    let root' := Path.ofString ".././q/../p//"
    (ofRegistry ⟨[python]⟩ {}).value = .ok b ∧ fs.NamedTree root [Text.encode "p"] below ∧
      (Node.directory below).Everywhere (fun m => m.isLink = false) ∧
      fs.find true root' = fs.find true root ∧ b.DirectoriesFit below root root' ∧
      b.SourcesFit fs root root' ∧
      ∃ m m', (b.build {} fs root "repo").value.1 = .ok m ∧
        (b.build {} fs root' "repo").value.1 = .ok m' ∧ m'.1.files = m.1.files ∧
        untimed m' = untimed (m.1, { m.2 with walkErrors := m'.2.walkErrors }) := by
  intro python b below fs root root'
  have made : (ofRegistry ⟨[python]⟩ {}).value = .ok b := by rfl
  have tree : fs.NamedTree root [Text.encode "p"] below :=
    ⟨by cbv, .of_every (by decide +kernel), .of_every (by decide +kernel)⟩
  have unlinked : (Node.directory below).Everywhere (fun m => m.isLink = false) := .of_every (by rfl)
  have found : fs.find true root' = .ok ([Text.encode "p"], some (.directory below)) := by
    subst fs root'
    cbv
  have same : fs.find true root' = fs.find true root := found.trans tree.found.symm
  have directories : b.DirectoriesFit below root root' := by
    intro q n there isDirectory _
    cases q with
    | nil => decide
    | cons name q =>
      obtain ⟨n, child, inside⟩ := Option.bind_eq_some_iff.mp there
      cases List.mem_singleton.mp ((Node.child?_eq_some tree.distinct.names).mp child)
      cases q with
      | nil => cases inside; contradiction
      | cons => contradiction
  have sources : b.SourcesFit fs root root' := by
    intro e member
    have met := (List.mem_filter.mp (mem_sourcesMet.mp member).1).1
    rw [tree.found_eq, keeps_unheeded, Node.mem_walk_directory] at met
    obtain ⟨name, n, inside, _, here⟩ := met
    cases List.mem_singleton.mp inside
    cases List.mem_singleton.mp here
    decide +kernel
  obtain ⟨m, m', answer, answer', _, alike⟩ :=
    build_same_for_any_spelling made rfl tree unlinked same "repo" Clock.byLength.exceeds
      Clock.byLength.spent Clock.byLength.spent (.inTurn 1) (.inTurn 1)
  obtain ⟨files, _, _, whole⟩ := alike directories
  exact ⟨made, tree, unlinked, same, directories, sources, m, m', answer, answer', files,
    (whole sources).1⟩

/-- A file that is no text and a directory, in a root that is spelled with one slash, and with as many as
can be asked for. -/
theorem build_differs_for_long_spelling :
    let python : LanguageEntry := ⟨"python", ["py"], [], "name", "call", "function", .python⟩
    let b : Builder := ⟨(Pool.ofEntries [python]).withTimeout none, {}⟩
    let entries : List (Bytes × Node) := [(Text.encode "a.py", .file [0xff]),
      (Text.encode "sub", .directory [(Text.encode "notes.txt", .file [])])]
    let fs : FileSystem := ⟨.directory entries, []⟩
    let root : Path := ⟨[Path.slash]⟩
    let root' : Path := ⟨List.replicate FileSystem.maxPath Path.slash⟩
    (ofRegistry ⟨[python]⟩ {}).value = .ok b ∧ fs.NamedTree root [] entries ∧
      (Node.directory entries).Everywhere (fun m => m.isLink = false) ∧
      fs.find true root' = fs.find true root ∧
      ∃ m m', (b.build {} fs root "repo").value.1 = .ok m ∧
        (b.build {} fs root' "repo").value.1 = .ok m' ∧
        m.2.skippedFiles = [⟨"a.py", .invalidEncoding⟩] ∧
        m'.2.skippedFiles = [⟨"a.py", .read .nameTooLong⟩] ∧
        m.1.files.get? "/sub" = some ["notes.txt"] ∧ m'.1.files.get? "/sub" = none ∧
        m.2.walkErrors = [] ∧ m'.2.walkErrors ≠ [] ∧ m'.1 ≠ m.1 ∧ untimed m' ≠ untimed m := by
  intro python b entries fs root root'
  have made : (ofRegistry ⟨[python]⟩ {}).value = .ok b := by rfl
  have tree : fs.NamedTree root [] entries :=
    ⟨by cbv, .of_every (by decide +kernel), .of_every (by decide +kernel)⟩
  have unlinked : (Node.directory entries).Everywhere (fun m => m.isLink = false) :=
    .of_every (by rfl)
  have slashes : fs.find true root' = .ok ([], some (.directory entries)) :=
    FileSystem.find_slashes rfl (by decide) le_rfl
  have same : fs.find true root' = fs.find true root := slashes.trans tree.found.symm
  have tree' := tree.respelled same
  have full : root'.bytes.length = FileSystem.maxPath := List.length_replicate
  clear_value root'
  let e : Entry := ⟨[], Text.encode "a.py", .file [0xff]⟩
  let sub : Entry := ⟨[], Text.encode "sub", .locked true⟩
  let notes : Entry := ⟨[Text.encode "sub"], Text.encode "notes.txt", .file []⟩
  have found : Walk.found fs root b.options.ignoreDirs false = [e, notes] := by cbv
  have found' : Walk.found fs root' b.options.ignoreDirs false = [e, sub] := by
    rw [tree'.found_of_full full]
    cbv
  have met : b.met fs root = [e, notes] := by
    change (Walk.found fs root b.options.ignoreDirs false).filter _ = _
    rw [found]
    rfl
  have met' : b.met fs root' = [e] := by
    change (Walk.found fs root' b.options.ignoreDirs false).filter _ = _
    rw [found']
    rfl
  have inMet : e ∈ b.met fs root := met ▸ List.mem_cons_self
  have inMet' : e ∈ b.met fs root' := met' ▸ List.mem_cons_self
  -- From the longer spelling the file is asked for in vain; from the other one it is read, and is no text.
  have extension : (Path.extensionOf e.name).bind Text.decode? = some "py" := by cbv
  have extension' : (Path.extensionOf notes.name).bind Text.decode? = some "txt" := by cbv
  have isSource : e.isSource b.pool = true := Entry.isSource_eq rfl extension b.pool
  have noSource : notes.isSource b.pool = false := Entry.isSource_eq rfl extension' b.pool
  have shown : Entry.shownPath e.place = "a.py" := by cbv
  have read : fs.read (e.path root) = .ok [0xff] := by cbv
  have fails : b.failure? .byLength fs root e = _ :=
    failure?_of_no_text tree unlinked inMet isSource read (by cbv)
  have fails' : b.failure? .byLength fs root' e = _ :=
    failure?_of_full tree' unlinked inMet' isSource full rfl (by decide)
  rw [shown] at fails fails'
  have silent : b.failure? .byLength fs root notes = none := by
    rw [failure?, tree.sourceOf?_unlinked unlinked (by rw [met]; simp), noSource]
    rfl
  have all := failing_of_met met fails (List.forall_mem_singleton.mpr silent)
  have all' := failing_of_met met' fails' (List.forall_mem_nil _)
  obtain ⟨m, answer, skipped, files, errors⟩ := build_of_failing made {} "repo" tree.isDirectory all fails
  obtain ⟨m', answer', skipped', files', errors'⟩ :=
    build_of_failing made {} "repo" tree'.isDirectory all' fails'
  have listed : m.1.files.get? "/sub" = some ["notes.txt"] := by
    rw [files, listing_names, met]
    cbv
  have unlisted : m'.1.files.get? "/sub" = none := by
    have inRoot := tree'.directoryOf?_unlinked unlinked inMet'
    rw [files', listing_names, met', Listing.namesIn, List.filter_cons_of_neg, List.filter_nil]
    · rfl
    · rw [inRoot]
      decide +kernel
  have quiet : m.2.walkErrors = [] := by
    rw [errors, errors_unheeded tree rfl, Walk.shut, found]
    rfl
  have loud : m'.2.walkErrors ≠ [] := by
    rw [errors', errors_unheeded tree' rfl, Walk.shut, found']
    exact List.cons_ne_nil _ _
  refine ⟨made, tree, unlinked, same, m, m', answer, answer', skipped, skipped', listed, unlisted, quiet,
    loud, fun alike => ?_, fun alike => loud ?_⟩
  · rw [alike, listed] at unlisted
    contradiction
  · exact (congrArg (·.2.walkErrors) alike).trans quiet

end Builder

end CodeAtlas
