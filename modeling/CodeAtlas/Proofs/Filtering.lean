import CodeAtlas.Proofs.KeyLocality
import CodeAtlas.Proofs.SourcePaths
import Mathlib.Data.List.Flatten

namespace CodeAtlas

/-- Of elements with keys of their own, those of a sublist are told by a look into it. -/
theorem eq_filter_of_sublist {α β : Type} [BEq β] [LawfulBEq β] {l l' : List α} (key : α → β)
    (sublist : l'.Sublist l) (distinct : (l.map key).Nodup) :
    l' = l.filter fun a => l'.any (key · == key a) := by
  induction sublist with
  | slnil => rfl
  | @cons l' l a sublist ih =>
    obtain ⟨unlike, distinct⟩ := List.nodup_cons.mp distinct
    have absent : l'.any (key · == key a) = false := by
      refine List.any_eq_false.mpr fun b member same => unlike ?_
      exact List.mem_map.mpr ⟨b, sublist.mem member, beq_iff_eq.mp same⟩
    rw [List.filter_cons, absent]
    exact ih distinct
  | @cons_cons l' l a sublist ih =>
    obtain ⟨unlike, distinct⟩ := List.nodup_cons.mp distinct
    have present : (a :: l').any (key · == key a) = true := by simp
    rw [List.filter_cons, present]
    refine congrArg (a :: ·) ((ih distinct).trans (List.filter_congr fun b member => ?_))
    have other : key a ≠ key b := fun same => unlike (same ▸ List.mem_map_of_mem member)
    simp [other]

namespace Node

open Walk in
/-- A walk that keeps less meets less. -/
theorem walk_sublist {keep keep' : Entry → Bool} (stricter : ∀ e, keep' e = true → keep e = true)
    (opens : Place → Bool) (n : Node) (above : Place) :
    (n.walk keep' opens above).Sublist (n.walk keep opens above) := by
  cases shape : n with
  | file | link | pipe | locked => simp [walk]
  | directory entries =>
    have fewer := List.monotone_filter_right (entries.mergeSort fun a b => nameLE a.1 b.1)
      fun e : Bytes × Node => stricter ⟨above, e.1, e.2⟩
    rw [walk_directory, walk_directory]
    refine (List.Sublist.flatMap_right _ fun e member => ?_).trans (fewer.flatMap _)
    have inside : (e.1, e.2) ∈ entries := List.mem_mergeSort.mp (List.mem_filter.mp member).1
    rw [metAt, metAt]
    split
    · exact walk_sublist stricter opens e.2 (above ++ [e.1])
    · exact .refl _
termination_by sizeOf n
decreasing_by exact shape ▸ sizeOf_lt_of_mem inside

end Node

/-- A run without the insertions of some files ends with the entries of the other files. -/
theorem Graph.insertAll_filter {g h : Graph} (hg : g.functions = .empty) (hh : h.functions = .empty)
    {run : List Insertion} (plain : ∀ i ∈ run, PlainPath i.1) (kept : String → Bool) :
    (h.insertAll (run.filter (kept ·.1))).functions.entries =
      (g.insertAll run).functions.entries.filter (kept ·.2.filePath) := by
  have fewer : ∀ i ∈ run.filter (kept ·.1), PlainPath i.1 :=
    fun i member => plain i (List.mem_filter.mp member).1
  refine ascending_ext (Catalog.ascending _) ((Catalog.ascending _).filter _) ?_
  rintro ⟨key, r⟩
  rw [List.mem_filter]
  by_cases keeps : kept r.filePath = true
  · have same : (run.filter (kept ·.1)).filter (·.1 == r.filePath) =
        run.filter (·.1 == r.filePath) := by
      rw [List.filter_filter]
      refine List.filter_congr fun i _ => ?_
      by_cases own : i.1 = r.filePath <;> simp [own, keeps]
    rw [agreeOn_of_same_filter hh hg fewer plain same key r rfl, and_iff_left keeps]
  · have none : (run.filter (kept ·.1)).filter (·.1 == r.filePath) = [] := by
      refine List.filter_eq_nil_iff.mpr fun i member own => keeps ?_
      exact beq_iff_eq.mp own ▸ (List.mem_filter.mp member).2
    rw [agreeOn_of_same_filter hh hh fewer (b := []) (by simp) none key r rfl, insertAll, List.foldl_nil, hh]
    exact iff_of_false List.not_mem_nil fun both => keeps both.2

/-- Names without colons make plain paths. -/
theorem PlainPath.of_names {names : List Bytes} (noColon : ∀ name ∈ names, 0x3a ∉ name) :
    PlainPath (Entry.shownPath names) := by
  have absent : ':' ∉ (Entry.shownPath names).toList := by
    rw [Entry.toList_shownPath]
    induction names with
    | nil => exact List.not_mem_nil
    | cons name names ih =>
      obtain ⟨here, later⟩ := List.forall_mem_cons.mp noColon
      have first : ':' ∉ (Text.decodeLossy name).toList :=
        fun shown => here (Text.mem_of_mem_decodeLossy (by decide) shown)
      cases names with
      | nil => rwa [List.map_singleton, List.intercalate_singleton]
      | cons next names =>
        rw [List.map_cons, List.map_cons, List.intercalate_cons_cons, List.mem_append, List.mem_append,
          ← List.map_cons (f := fun name => (Text.decodeLossy name).toList)]
        rintro ((own | slash) | behind)
        · exact first own
        · exact absurd (List.mem_singleton.mp slash) (by decide)
        · exact ih later behind
  exact ⟨fun inside => absent (inside.subset List.mem_cons_self),
    fun atEnd => absent (atEnd.subset List.mem_cons_self)⟩

/-- Whether a path leads to a name of the file map. -/
def Graph.lists (g : Graph) (path : String) : Bool :=
  (g.files.get? ("/" ++ (splitLast path).1)).any (·.contains (splitLast path).2)

namespace Listing

variable {fs : FileSystem} {pool : Pool} {root : Path} {errors errors' : List String}
  {met met' : List Entry}

theorem asListed_any (names : List String) (name : String) :
    (asListed names).any (·.contains name) = names.contains name := by
  cases names <;> rfl

/-- What is met less is listed less. -/
theorem ofMet_sublist (leaves : ∀ e ∈ met, e.node.isDirectory = false) (sublist : met'.Sublist met)
    {directory : String} {names' : List String}
    (listed : (ofMet fs pool root errors' met').directories.get? directory = some names') :
    ∃ names, (ofMet fs pool root errors met).directories.get? directory = some names ∧
      names'.Sublist names := by
  have fewer : (namesIn fs root met' directory).Sublist (namesIn fs root met directory) :=
    (sublist.filter _).map _
  rw [ofMet_names _ _ _ _ fun e member => leaves e (sublist.mem member), asListed] at listed
  split at listed
  · contradiction
  · rename_i nonempty
    cases listed
    refine ⟨_, ?_, fewer⟩
    rw [ofMet_names _ _ _ _ leaves, asListed, if_neg]
    intro nothing
    rw [nothing] at fewer
    exact nonempty (List.sublist_nil.mp fewer)

theorem directoryOf?_of_source {e : Entry} {source : SourceFile}
    (isSource : sourceOf? fs pool root e = some source) :
    (directoryOf? fs root e).isSome = true := by
  by_contra unlisted
  simp [sourceOf?, unlisted] at isSource

section
variable {base : Place} {entries : List (Bytes × Node)} (tree : fs.NamedTree root base entries)
  (texts : (Node.directory entries).Everywhere fun m => ∀ e ∈ m.entries, Text.IsUtf8 e.1)
  (leaves : ∀ e ∈ met, e.node.isDirectory = false)
  (found : ∀ e ∈ met, (Node.directory entries).at? e.place = some e.node)
  (once : (met.map (·.place)).Nodup) (sublist : met'.Sublist met)

include tree texts leaves found once sublist

/-- Of what is listed it stays listed what is still met. -/
theorem lists_eq {e : Entry} (member : e ∈ met) (listed : (directoryOf? fs root e).isSome = true)
    {g : Graph} (files : g.files = (ofMet fs pool root errors' met').directories) :
    g.lists (Entry.shownPath e.place) = met'.any (·.place == e.place) := by
  have names {e : Entry} (member : e ∈ met) := tree.names (found e member)
  have shown {e : Entry} (member : e ∈ met) : ∀ name ∈ e.place, Text.IsUtf8 name :=
    FileSystem.names_down texts (found e member)
  have own : directoryOf? fs root e = some ("/" ++ Entry.shownPath e.above) := by
    rw [tree.directoryOf?_eq (names member)] at listed ⊢
    split at listed
    · contradiction
    · rw [if_neg ‹_›]
  rw [Graph.lists, Entry.place, Entry.splitLast_shownPath (names member), files,
    ofMet_names _ _ _ _ fun e member => leaves e (sublist.mem member), asListed_any, Bool.eq_iff_iff,
    List.contains_iff_mem, List.any_eq_true]
  constructor
  · intro isShown
    obtain ⟨e', inDirectory, sameName⟩ := List.mem_map.mp isShown
    obtain ⟨member', key⟩ := List.mem_filter.mp inDirectory
    have among := sublist.mem member'
    rw [beq_iff_eq, tree.directoryOf?_eq (names among)] at key
    split at key
    · contradiction
    · have above : Entry.shownPath e'.above = Entry.shownPath e.above :=
        (String.append_right_inj _).mp (Option.some.inj key)
      have shownAlike : e'.place.map Text.decodeLossy = e.place.map Text.decodeLossy := by
        have inside := Entry.shownPath_inj
          (fun name inside => names among name (List.mem_append_left _ inside))
          (fun name inside => names member name (List.mem_append_left _ inside)) above
        rw [Entry.place, Entry.place, List.map_append, List.map_append, inside]
        exact congrArg (_ ++ [·]) sameName
      have alike := congrArg (List.map Text.encode) shownAlike
      rw [Text.encode_shown_names (shown among), Text.encode_shown_names (shown member)] at alike
      exact ⟨e', member', beq_iff_eq.mpr alike⟩
  · rintro ⟨e', member', samePlace⟩
    have same : e' = e :=
      List.inj_on_of_nodup_map once (sublist.mem member') member (beq_iff_eq.mp samePlace)
    rw [same] at member'
    exact List.mem_map_of_mem (List.mem_filter.mpr ⟨member', beq_iff_eq.mpr own⟩)

/-- The sources that are left are those whose path is still listed. -/
theorem sources_eq {g : Graph} (files : g.files = (ofMet fs pool root errors' met').directories) :
    (ofMet fs pool root errors' met').sources =
      (ofMet fs pool root errors met).sources.filter (g.lists ·.relative) := by
  have less : met' = met.filter fun e => met'.any (·.place == e.place) :=
    eq_filter_of_sublist Entry.place sublist once
  rw [ofMet_sources _ _ _ _ fun e member => leaves e (sublist.mem member),
    ofMet_sources _ _ _ _ leaves, less, List.filterMap_filter, List.filter_filterMap]
  refine List.filterMap_congr fun e member => ?_
  cases isSource : sourceOf? fs pool root e with
  | none => simp
  | some source =>
    have listed := lists_eq tree texts leaves found once sublist member
      (directoryOf?_of_source isSource) files
    rw [(sourceOf?_eq_some isSource).1,
      Walk.relative_path tree.spelled (tree.names (found e member)), Option.filter_some]
    exact if_congr (Bool.eq_iff_iff.mp listed.symm) rfl rfl

end

end Listing

namespace FileOutcome

variable {α : Type} {f : FileOutcome → List α} {path : α → String}

/-- What comes of the outcomes of certain files is what bears the paths of these files. -/
theorem flatMap_filter (own : ∀ o, ∀ a ∈ f o, path a = o.relative) (kept : String → Bool)
    (outcomes : List FileOutcome) :
    (outcomes.filter (kept ·.relative)).flatMap f = (outcomes.flatMap f).filter (kept <| path ·) := by
  induction outcomes with
  | nil => rfl
  | cons o outcomes ih =>
    rw [List.flatMap_cons, List.filter_append, ← ih]
    by_cases keeps : kept o.relative = true
    · have whole : (f o).filter (kept <| path ·) = f o :=
        List.filter_eq_self.mpr fun a member => by rw [own o a member, keeps]
      rw [List.filter_cons, if_pos keeps, List.flatMap_cons, whole]
    · have nothing : (f o).filter (kept <| path ·) = [] :=
        List.filter_eq_nil_iff.mpr fun a member => by rwa [own o a member]
      rw [List.filter_cons, if_neg keeps, nothing, List.nil_append]

theorem flatMap_untimed (timeless : ∀ o : FileOutcome, f o.untimed = f o)
    {outcomes outcomes' : List FileOutcome}
    (same : outcomes.map (·.untimed) = outcomes'.map (·.untimed)) :
    outcomes.flatMap f = outcomes'.flatMap f := by
  have untimed (outcomes : List FileOutcome) :
      (outcomes.map (·.untimed)).flatMap f = outcomes.flatMap f := by
    rw [List.flatMap_map]
    exact congrArg outcomes.flatMap (funext timeless)
  rw [← untimed outcomes, same, untimed]

end FileOutcome

namespace Builder

/-- What is left of a graph and a report when less is kept. -/
structure Restriction (m m' : Merged) : Prop where
  names : ∀ directory names', m'.1.files.get? directory = some names' →
    ∃ names, m.1.files.get? directory = some names ∧ names'.Sublist names
  functions : m'.1.functions.entries = m.1.functions.entries.filter (m'.1.lists ·.2.filePath)
  skippedFiles : m'.2.skippedFiles = m.2.skippedFiles.filter (m'.1.lists ·.path)
  skippedNodes : m'.2.skippedNodes = m.2.skippedNodes.filter (m'.1.lists ·.path)

/-- Merges, the second of which has outcomes of certain files only. -/
theorem merge_kept {b b' : Builder} {l l' : Listing} {url url' : String}
    {outcomes outcomes' : List FileOutcome} (plain : ∀ o ∈ outcomes, PlainPath o.relative)
    {kept : String → Bool}
    (same : outcomes'.map (·.untimed) = (outcomes.filter (kept ·.relative)).map (·.untimed)) :
    let m := (b.merge l url outcomes).value
    let m' := (b'.merge l' url' outcomes').value
    m'.1.functions.entries = m.1.functions.entries.filter (kept ·.2.filePath) ∧
      m'.2.skippedFiles = m.2.skippedFiles.filter (kept ·.path) ∧
      m'.2.skippedNodes = m.2.skippedNodes.filter (kept ·.path) := by
  have inserted : ∀ i ∈ outcomes.flatMap (·.insertions), PlainPath i.1 := by
    intro i member
    obtain ⟨o, among, own⟩ := List.mem_flatMap.mp member
    exact FileOutcome.path_of_insertion own ▸ plain o among
  -- Each part of a merge is gathered from the outcomes, and bears their paths.
  have part {α : Type} {f : FileOutcome → List α} {path : α → String}
      (own : ∀ o, ∀ a ∈ f o, path a = o.relative) (timeless : ∀ o : FileOutcome, f o.untimed = f o) :
      outcomes'.flatMap f = (outcomes.flatMap f).filter (kept <| path ·) :=
    (FileOutcome.flatMap_untimed timeless same).trans (FileOutcome.flatMap_filter own kept outcomes)
  have insertions := part (fun _ _ => FileOutcome.path_of_insertion) fun _ => rfl
  have nodes := part (fun _ _ => FileOutcome.path_of_skippedNode) fun _ => rfl
  have files := part (f := (·.skipped?.toList))
    (fun _ _ member => FileOutcome.path_of_skipped (Option.mem_toList.mp member)) fun _ => rfl
  rw [← List.filterMap_eq_flatMap_toList, ← List.filterMap_eq_flatMap_toList] at files
  intro m m'
  simp only [m, m', merge_value, BuildReport.ofOutcomes]
  refine ⟨?_, files, nodes⟩
  rw [insertions]
  exact Graph.insertAll_filter (Graph.ofListing_functions _ _) (Graph.ofListing_functions _ _)
    inserted kept

/-- Which entries are kept where a decision stands in the place of the rule files. -/
def keepsBy (excluded : Entry → Bool) (options : BuildOptions) (e : Entry) : Bool :=
  !(e.node.isDirectory && options.ignoreDirs.any (Text.encode · == e.name))
    && !(options.respectGitignore && excluded e)

/-- What rule files decide about an entry. -/
def ruledOut (fs : FileSystem) (root : Path) (e : Entry) : Bool :=
  Ignore.leavesOut fs root (e.directories root) (e.path root) e.node.isDirectory

theorem keepsBy_mono {excluded : Entry → Bool} {options options' : BuildOptions}
    (ignored : options.ignoreDirs ⊆ options'.ignoreDirs)
    (heeded : options.respectGitignore = true → options'.respectGitignore = true) (e : Entry)
    (kept : keepsBy excluded options' e = true) : keepsBy excluded options e = true := by
  simp only [keepsBy, Bool.and_eq_true, Bool.not_eq_true', Bool.and_eq_false_iff,
    List.any_eq_false] at kept ⊢
  refine ⟨kept.1.imp_right fun others name member => others name (ignored member),
    kept.2.imp_left fun unheeded => ?_⟩
  by_contra heeds
  simp [heeded (by simpa using heeds)] at unheeded

section
variable (excluded : Entry → Bool) (b : Builder) (fs : FileSystem) (root : Path)

def foundBy : List Entry :=
  (fs.node? root).elim [] (Node.walk (keepsBy excluded b.options) (Walk.opens root) [])

def metBy : List Entry :=
  (b.foundBy excluded fs root).filter (!·.node.isDirectory)

def listingBy : Listing :=
  Listing.ofMet fs b.pool root (Walk.errors fs root b.options.respectGitignore)
    (b.foundBy excluded fs root)

/-- What a build answers where a decision stands in the place of the rule files. -/
def answerBy (clock : Clock) (url : String) : Merged :=
  (b.merge (b.listingBy excluded fs root) url
    ((inOrder (b.listingBy excluded fs root)).map (Analysis.outcome clock fs b.pool))).value

end

section
variable {excluded : Entry → Bool} {b : Builder} {fs : FileSystem} {root : Path} {base : Place}
  {entries : List (Bytes × Node)} (tree : fs.NamedTree root base entries)

include tree

theorem foundBy_eq : b.foundBy excluded fs root =
    (Node.directory entries).walk (keepsBy excluded b.options) (Walk.opens root) [] := by
  rw [foundBy, FileSystem.node?, tree.found]
  rfl

omit tree in
theorem metBy_leaf : ∀ e ∈ b.metBy excluded fs root, e.node.isDirectory = false :=
  Listing.leaves_filter _

omit tree in
theorem listingBy_eq : b.listingBy excluded fs root =
    Listing.ofMet fs b.pool root (Walk.errors fs root b.options.respectGitignore ++
      ((b.foundBy excluded fs root).filter (·.node.isDirectory)).map (Listing.shutError root))
        (b.metBy excluded fs root) :=
  Listing.ofMet_shut ..

theorem metBy_found {e : Entry} (met : e ∈ b.metBy excluded fs root) :
    (Node.directory entries).at? e.place = some e.node := by
  have leaf := metBy_leaf e met
  rw [metBy, foundBy_eq tree] at met
  exact Node.walk_there tree.distinct (List.mem_filter.mp met).1 leaf

theorem metBy_once : ((b.metBy excluded fs root).map (·.place)).Nodup := by
  rw [metBy, foundBy_eq tree]
  exact (Node.walk_once _ [] tree.distinct).sublist (List.filter_sublist.map _)

/-- Each source of a build is shown by the names of a file. -/
theorem relative_of_outcome {clock : Clock} {o : FileOutcome}
    (member : o ∈ (inOrder (b.listingBy excluded fs root)).map (Analysis.outcome clock fs b.pool)) :
    ∃ q n, (Node.directory entries).at? q = some n ∧ n.isDirectory = false ∧
      o.relative = Entry.shownPath q := by
  obtain ⟨source, isSource, rfl⟩ := List.mem_map.mp member
  rw [inOrder, List.mem_mergeSort, listingBy_eq, Listing.ofMet_sources _ _ _ _ metBy_leaf] at isSource
  obtain ⟨e, met, isSource⟩ := List.mem_filterMap.mp isSource
  have there := metBy_found tree met
  refine ⟨e.place, e.node, there, metBy_leaf e met, ?_⟩
  have relative := congrArg SourceFile.relative (Listing.sourceOf?_eq_some isSource).1
  rw [Analysis.outcome_eq]
  exact relative.trans (Walk.relative_path tree.spelled (tree.names there))

end

/-- Builds answer by what the rule files decide. -/
theorem build_answerBy {r : Registry} {options : BuildOptions} {b : Builder}
    (made : (ofRegistry r options).value = .ok b) (host : Host) {fs : FileSystem} {root : Path}
    (isDirectory : fs.isDirectory root = true) (url : String) :
    (b.build host fs root url).value.1 =
      .ok (b.answerBy (ruledOut fs root) fs root host.clock url) :=
  build_made made host url isDirectory

/-- Of two builders with the same parsers the one that keeps less answers a part of what the other
one answers. -/
theorem answerBy_restriction {b b' : Builder} (pool : b'.pool = b.pool)
    (ignored : b.options.ignoreDirs ⊆ b'.options.ignoreDirs)
    (heeded : b.options.respectGitignore = true → b'.options.respectGitignore = true)
    {fs : FileSystem} {root : Path} {base : Place} {entries : List (Bytes × Node)}
    (tree : fs.NamedTree root base entries)
    (texts : (Node.directory entries).Everywhere fun m => ∀ e ∈ m.entries, Text.IsUtf8 e.1)
    (plain : ∀ q n, (Node.directory entries).at? q = some n → n.isDirectory = false →
      PlainPath (Entry.shownPath q))
    (exceeds : Language → Nat → String → Bool) (spent spent' : Path → Nat) (url url' : String)
    (excluded : Entry → Bool) :
    Restriction (b.answerBy excluded fs root ⟨exceeds, spent⟩ url)
      (b'.answerBy excluded fs root ⟨exceeds, spent'⟩ url') := by
  have sublist : (b'.metBy excluded fs root).Sublist (b.metBy excluded fs root) := by
    rw [metBy, metBy, foundBy_eq tree, foundBy_eq tree]
    exact (Node.walk_sublist (keepsBy_mono ignored heeded) _ _ []).filter _
  let m' := b'.answerBy excluded fs root ⟨exceeds, spent'⟩ url'
  have files : m'.1.files = (b'.listingBy excluded fs root).directories := merge_files ..
  have sources : inOrder (b'.listingBy excluded fs root) =
      (inOrder (b.listingBy excluded fs root)).filter (m'.1.lists ·.relative) := by
    rw [inOrder, inOrder, filter_mergeSort sourceLE_trans sourceLE_total]
    refine congrArg (List.mergeSort · sourceLE) ?_
    rw [listingBy_eq, pool] at files
    rw [listingBy_eq, listingBy_eq, pool]
    exact Listing.sources_eq tree texts metBy_leaf (fun _ => metBy_found tree) (metBy_once tree)
      sublist files
  have outcomes : ((inOrder (b'.listingBy excluded fs root)).map
        (Analysis.outcome ⟨exceeds, spent'⟩ fs b'.pool)).map (·.untimed) =
      (((inOrder (b.listingBy excluded fs root)).map
        (Analysis.outcome ⟨exceeds, spent⟩ fs b.pool)).filter (m'.1.lists ·.relative)).map
          (·.untimed) := by
    rw [sources, pool, List.filter_map, List.map_map, List.map_map]
    refine (List.map_congr_left fun source _ => Analysis.outcome_untimed ..).trans
      (congrArg (List.map _) (List.filter_congr fun source _ => ?_))
    rw [Function.comp_apply, Analysis.outcome_eq]
  have plainOutcomes : ∀ o ∈ (inOrder (b.listingBy excluded fs root)).map
      (Analysis.outcome ⟨exceeds, spent⟩ fs b.pool), PlainPath o.relative := by
    intro o member
    obtain ⟨q, n, there, leaf, relative⟩ := relative_of_outcome tree member
    exact relative ▸ plain q n there leaf
  obtain ⟨functions, skippedFiles, skippedNodes⟩ := merge_kept plainOutcomes outcomes
  refine ⟨fun directory names' listed => ?_, functions, skippedFiles, skippedNodes⟩
  rw [answerBy, merge_files] at listed ⊢
  rw [listingBy_eq, pool] at listed
  rw [listingBy_eq]
  exact Listing.ofMet_sublist metBy_leaf sublist listed

/-- Who ignores more directories, or heeds the rule files as well, loses what he leaves out and
nothing else: lists get shorter, and the functions, the skipped files and the skipped nodes are those
of the files that are still listed. That is so whatever the rule files decide. -/
theorem stricter_filter_only_removes {r : Registry} {options options' : BuildOptions}
    {b b' : Builder} (made : (ofRegistry r options).value = .ok b)
    (made' : (ofRegistry r options').value = .ok b')
    (ignored : options.ignoreDirs ⊆ options'.ignoreDirs)
    (heeded : options.respectGitignore = true → options'.respectGitignore = true)
    (timeout : options'.parseTimeout = options.parseTimeout) {fs : FileSystem} {root : Path}
    {base : Place} {entries : List (Bytes × Node)} (tree : fs.NamedTree root base entries)
    (texts : (Node.directory entries).Everywhere fun m => ∀ e ∈ m.entries, Text.IsUtf8 e.1)
    (plain : ∀ q n, (Node.directory entries).at? q = some n → n.isDirectory = false →
      PlainPath (Entry.shownPath q))
    (exceeds : Language → Nat → String → Bool) (spent spent' : Path → Nat) (crew crew' : Crew)
    (url url' : String) :
    (∀ excluded, Restriction (b.answerBy excluded fs root ⟨exceeds, spent⟩ url)
      (b'.answerBy excluded fs root ⟨exceeds, spent'⟩ url')) ∧
    ∃ m m', (b.build ⟨⟨exceeds, spent⟩, crew⟩ fs root url).value.1 = .ok m ∧
      (b'.build ⟨⟨exceeds, spent'⟩, crew'⟩ fs root url').value.1 = .ok m' ∧ Restriction m m' := by
  have pool : b'.pool = b.pool := by rw [eq_of_made made, eq_of_made made', timeout]
  have least : b.options = options := by rw [eq_of_made made]
  have most : b'.options = options' := by rw [eq_of_made made']
  have restricted := answerBy_restriction pool (least ▸ most ▸ ignored) (least ▸ most ▸ heeded) tree
    texts plain exceeds spent spent' url url'
  exact ⟨restricted, _, _, build_answerBy made ⟨⟨exceeds, spent⟩, crew⟩ tree.isDirectory url,
    build_answerBy made' ⟨⟨exceeds, spent'⟩, crew'⟩ tree.isDirectory url', restricted _⟩

/-- A directory that comes to be ignored, and a file that the rule files come to leave out. -/
theorem stricter_filter_only_removes_directory_and_file :
    let python : LanguageEntry := ⟨"python", ["py"], [], "name", "call", "function", .python⟩
    let options : BuildOptions := { ignoreDirs := [] }
    let options' : BuildOptions := { ignoreDirs := ["o"], respectGitignore := true }
    let b : Builder := ⟨(Pool.ofEntries [python]).withTimeout none, options⟩
    let b' : Builder := ⟨(Pool.ofEntries [python]).withTimeout none, options'⟩
    let below : List (Bytes × Node) := [(Text.encode "b.py", .file []), (Text.encode "a.py", .file [])]
    let entries : List (Bytes × Node) := [(Text.encode "o", .directory [(Text.encode "a.py", .pipe)]),
      (Text.encode "d", .directory below)]
    let fs : FileSystem := ⟨.directory entries, []⟩
    let root : Path := ⟨[Path.slash]⟩
    let excluded (e : Entry) : Bool := e.name.head? == some 0x62
    let m := b.answerBy excluded fs root .byLength "repo"
    let m' := b'.answerBy excluded fs root .byLength "repo"
    (ofRegistry ⟨[python]⟩ options).value = .ok b ∧ (ofRegistry ⟨[python]⟩ options').value = .ok b' ∧
      fs.NamedTree root [] entries ∧
      ((Node.directory entries).Everywhere fun m => ∀ e ∈ m.entries, Text.IsUtf8 e.1) ∧
      (∀ q n, (Node.directory entries).at? q = some n → n.isDirectory = false →
        PlainPath (Entry.shownPath q)) ∧
      Restriction m m' ∧ m.1.files.get? "/d" = some ["a.py", "b.py"] ∧
      m.1.files.get? "/o" = some ["a.py"] ∧ m'.1.files.get? "/d" = some ["a.py"] ∧
      m'.1.files.get? "/o" = none := by
  intro python options options' b b' below entries fs root excluded m m'
  have made : (ofRegistry ⟨[python]⟩ options).value = .ok b := by rfl
  have made' : (ofRegistry ⟨[python]⟩ options').value = .ok b' := by rfl
  have all : (Node.directory entries).Everywhere fun m => (m.entries.map (·.1)).Nodup ∧
      (∀ e ∈ m.entries, Path.IsName e.1 ∧ ∀ x ∈ e.1, x.toNat < 0x80) ∧ ∀ e ∈ m.entries, 0x3a ∉ e.1 :=
    .of_every (by decide +kernel)
  have tree : fs.NamedTree root [] entries := {
    found := by cbv
    distinct := fun q m there => (all q m there).1
    named := fun q m there e member => ((all q m there).2.1 e member).1 }
  have texts : (Node.directory entries).Everywhere fun m => ∀ e ∈ m.entries, Text.IsUtf8 e.1 :=
    fun q m there e member => .of_below ((all q m there).2.1 e member).2
  have met : b.metBy excluded fs root = [⟨[Text.encode "d"], Text.encode "a.py", .file []⟩,
      ⟨[Text.encode "d"], Text.encode "b.py", .file []⟩,
      ⟨[Text.encode "o"], Text.encode "a.py", .pipe⟩] := by
    rw [metBy, foundBy_eq tree]
    cbv
  have met' : b'.metBy excluded fs root =
      [⟨[Text.encode "d"], Text.encode "a.py", .file []⟩] := by
    rw [metBy, foundBy_eq tree]
    cbv
  have plain : ∀ q n, (Node.directory entries).at? q = some n → n.isDirectory = false →
      PlainPath (Entry.shownPath q) := by
    intro q n there _
    exact .of_names (FileSystem.names_down (fun q m there e member => (all q m there).2.2 e member) there)
  have restricted := (stricter_filter_only_removes made made' (by decide) (by decide) rfl tree texts
    plain Clock.byLength.exceeds (fun _ => 0) (fun _ => 0) (.inTurn 1) (.inTurn 1) "repo" "repo").1 excluded
  have files (b : Builder) (directory : String) :
      (b.answerBy excluded fs root .byLength "repo").1.files.get? directory =
        Listing.asListed (Listing.namesIn fs root (b.metBy excluded fs root) directory) := by
    rw [answerBy, merge_files, listingBy_eq, Listing.ofMet_names _ _ _ _ metBy_leaf]
  refine ⟨made, made', tree, texts, plain, restricted, ?_⟩
  rw [files, files, files, files, met, met']
  refine ⟨?_, ?_, ?_, ?_⟩ <;> cbv

end Builder

end CodeAtlas
