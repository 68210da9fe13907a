import CodeAtlas.Proofs.Accounting
import CodeAtlas.Proofs.FileMap

namespace CodeAtlas

/-- A path divided at its last slash; without one, all of it is the name. -/
def splitLast (path : String) : String × String :=
  let parts := path.toList.splitOn '/'
  (.ofList (['/'].intercalate parts.dropLast), .ofList (parts.getLast?.getD []))

/-- A path from the root on that leads to a name of the file map. -/
structure Graph.PointsAtListed (g : Graph) (path : String) : Prop where
  listed : ∃ names, g.files.get? ("/" ++ (splitLast path).1) = some names ∧ (splitLast path).2 ∈ names
  nonempty : path ≠ ""
  fromRoot : path.toList.head? ≠ some '/'
  plain : ∀ part ∈ path.toList.splitOn '/', part ≠ ['.'] ∧ part ≠ ['.', '.']

namespace Entry

variable {names : List Bytes} {name : Bytes}

theorem splitLast_shownPath (areNames : ∀ n ∈ names ++ [name], Path.IsName n) :
    splitLast (shownPath (names ++ [name])) = (shownPath names, Text.decodeLossy name) := by
  rw [splitLast, splitOn_shownPath areNames (by simp), List.map_append, List.map_singleton,
    List.dropLast_concat, List.getLast?_concat, ← toList_shownPath]
  simp

theorem head?_shownPath (areNames : ∀ n ∈ names, Path.IsName n) :
    (shownPath names).toList.head? ≠ some '/' := by
  cases names with
  | nil => simp [shownPath]
  | cons first rest =>
    have isName := areNames first List.mem_cons_self
    obtain ⟨c, cs, shown⟩ := List.exists_cons_of_ne_nil isName.shown.1
    have notSlash : c ≠ '/' := fun same =>
      isName.slash_notMem_shown (shown ▸ same ▸ List.mem_cons_self)
    rw [toList_shownPath, List.map_cons, shown]
    cases rest <;> simp [List.intercalate, notSlash]

end Entry

namespace Builder

/-- An entry is listed unless it is a link to a directory. -/
def Listed (fs : FileSystem) (root : Path) (e : Entry) : Prop :=
  ¬(e.node.isLink = true ∧ fs.isDirectory (e.path root) = true)

/-- A regular file, or a link to one. -/
def LeadsToFile (fs : FileSystem) (root : Path) (e : Entry) : Prop :=
  e.node.isFile = true ∨ e.node.isLink = true ∧ fs.isFile (e.path root) = true

/-- A parser is loaded for the extension of the name. -/
def HasParser (b : Builder) (e : Entry) : Prop :=
  ∃ bytes ext, Path.extensionOf e.name = some bytes ∧ Text.decode? bytes = some ext ∧
    (b.pool.parserFor ext).isSome = true

/-- The paths of functions, and those of the files and nodes that were skipped. -/
def reportedPaths (m : Merged) : List String :=
  m.1.records.map (·.filePath) ++ m.2.skippedFiles.map (·.path) ++ m.2.skippedNodes.map (·.path)

/-- Whatever is reported bears the path of a source. -/
theorem relative_of_reported (b : Builder) (l : Listing) (url : String) {outcomes : List FileOutcome}
    {path : String} (reported : path ∈ reportedPaths (b.merge l url outcomes).value) :
    path ∈ outcomes.map (·.relative) := by
  have accounts := b.merge_accounts l url outcomes
  rw [reportedPaths, List.mem_append, List.mem_append] at reported
  rcases reported with (record | file) | node
  · obtain ⟨r, member, rfl⟩ := List.mem_map.mp record
    obtain ⟨o, there, own⟩ := List.mem_flatMap.mp (accounts.records.mem_iff.mp member)
    obtain ⟨i, inserted, rfl⟩ := List.mem_map.mp own
    exact List.mem_map.mpr ⟨o, there, (FileOutcome.path_of_insertion inserted).symm⟩
  · rw [accounts.skipped] at file
    obtain ⟨failure, member, rfl⟩ := List.mem_map.mp file
    obtain ⟨o, there, skipped⟩ := List.mem_filterMap.mp member
    exact List.mem_map.mpr ⟨o, there, (FileOutcome.path_of_skipped skipped).symm⟩
  · rw [merge_value] at node
    obtain ⟨n, member, rfl⟩ := List.mem_map.mp node
    obtain ⟨o, there, own⟩ := List.mem_flatMap.mp member
    exact List.mem_map.mpr ⟨o, there, (FileOutcome.path_of_skippedNode own).symm⟩

section
variable {b : Builder} {fs : FileSystem} {root : Path} {base : Place} {entries : List (Bytes × Node)}
  {e : Entry}

theorem directoryOf?_isSome (tree : fs.NamedTree root base entries)
    (areNames : ∀ name ∈ e.place, Path.IsName name) :
    (Listing.directoryOf? fs root e).isSome = true ↔ Listed fs root e := by
  rw [tree.directoryOf?_eq areNames, Listed, ← Bool.and_eq_true]
  split <;> simp [*]

theorem readable_iff :
    Listing.readable fs (e.path root) e.node = true ↔ LeadsToFile fs root e := by
  rw [Listing.readable, Bool.or_eq_true, Bool.and_eq_true, LeadsToFile]

theorem supportsPath_iff (served : b.pool.Served) (isName : Path.IsName e.name) :
    b.pool.supportsPath (e.path root) = true ↔ b.HasParser e := by
  have supported (ext : String) :
      b.pool.supportsExtension ext = true ↔ (b.pool.parserFor ext).isSome = true := by
    refine ⟨served ext, fun found => ?_⟩
    obtain ⟨⟨p, entry⟩, found⟩ := Option.isSome_iff_exists.mp found
    obtain ⟨i, place, _⟩ := Pool.parserFor_eq_some.mp found
    exact Option.isSome_iff_exists.mpr ⟨i, place⟩
  rw [Pool.supportsPath, Pool.textExtension?, Path.extension?, Entry.fileName?_path root isName,
    Option.bind_some, Option.any_eq_true, HasParser]
  simp only [Option.bind_eq_some_iff, supported]
  constructor
  · rintro ⟨ext, ⟨bytes, named, text⟩, found⟩
    exact ⟨bytes, ext, named, text, found⟩
  · rintro ⟨bytes, ext, named, text, found⟩
    exact ⟨ext, ⟨bytes, named, text⟩, found⟩

variable (tree : fs.NamedTree root base entries)
include tree

/-- An entry is a source by what it leads to and by its name. -/
theorem sourceOf?_eq_some_iff (served : b.pool.Served) (met : e ∈ b.met fs root) {s : SourceFile} :
    Listing.sourceOf? fs b.pool root e = some s ↔
      Listed fs root e ∧ LeadsToFile fs root e ∧ b.HasParser e ∧
        s = ⟨e.path root, Entry.shownPath e.place⟩ := by
  obtain ⟨_, _, names⟩ := tree.met_found met
  have isName : Path.IsName e.name := names e.name (List.mem_append_right _ (by simp))
  have conditions : ((Listing.directoryOf? fs root e).isSome &&
      Listing.readable fs (e.path root) e.node && b.pool.supportsPath (e.path root)) = true ↔
        Listed fs root e ∧ LeadsToFile fs root e ∧ b.HasParser e := by
    rw [Bool.and_eq_true, Bool.and_eq_true, directoryOf?_isSome tree names, readable_iff,
      supportsPath_iff served isName, and_assoc]
  rw [Listing.sourceOf?, Walk.relative_path tree.spelled names, ← and_assoc, ← and_assoc,
    and_assoc (a := Listed fs root e), ← conditions]
  split_ifs with holds
  · rw [and_iff_right holds, Option.some.injEq, eq_comm]
    rfl
  · exact iff_of_false not_false fun both => holds both.1

theorem mem_sources_iff (served : b.pool.Served) {s : SourceFile} :
    s ∈ inOrder (b.listing fs root) ↔ ∃ e ∈ b.met fs root, Listed fs root e ∧ LeadsToFile fs root e ∧
      b.HasParser e ∧ s = ⟨e.path root, Entry.shownPath e.place⟩ := by
  rw [inOrder, List.mem_mergeSort, listing_sources, List.mem_filterMap]
  exact exists_congr fun e => and_congr_right fun met => sourceOf?_eq_some_iff tree served met

/-- Entries are told apart by their paths, and so are sources. -/
theorem sources_once : ((inOrder (b.listing fs root)).map (·.path)).Nodup := by
  have apart : (b.met fs root).Pairwise fun a b => a.place ≠ b.place := by
    rw [met, Walk.met, tree.found_eq]
    exact (List.pairwise_map.mp (Node.walk_once _ [] tree.distinct)).sublist List.filter_sublist
  have once : ((b.listing fs root).sources.map (·.path)).Nodup := by
    rw [listing_sources, List.Nodup, List.pairwise_map, List.pairwise_filterMap]
    refine apart.imp_of_mem fun {e e'} met met' different s isSource s' isSource' same => ?_
    rw [(Listing.sourceOf?_eq_some isSource).1, (Listing.sourceOf?_eq_some isSource').1] at same
    have names := (tree.met_found met).2.2
    have names' := (tree.met_found met').2.2
    have components := (Entry.components_pathOf tree.spelled names).symm.trans
      ((congrArg Path.components same).trans (Entry.components_pathOf tree.spelled names'))
    exact different (List.map_injective_iff.mpr (fun _ _ => Path.Component.name.inj)
      (List.append_cancel_left components))
  exact ((List.mergeSort_perm _ sourceLE).map _).nodup_iff.mpr once

/-- Where the path of a listed entry leads to. -/
theorem pointsAtListed (met : e ∈ b.met fs root) (listed : Listed fs root e) {g : Graph}
    (files : g.files = (b.listing fs root).directories) :
    g.PointsAtListed (Entry.shownPath e.place) := by
  obtain ⟨_, _, names⟩ := tree.met_found met
  have nonempty : e.place ≠ [] := by simp [Entry.place]
  have key : Listing.directoryOf? fs root e = some ("/" ++ Entry.shownPath e.above) := by
    rw [tree.directoryOf?_eq names, if_neg (by rwa [Bool.and_eq_true])]
  have shown : e.shown ∈ Listing.namesIn fs root (b.met fs root) ("/" ++ Entry.shownPath e.above) :=
    List.mem_map_of_mem (List.mem_filter.mpr ⟨met, beq_iff_eq.mpr key⟩)
  constructor
  · rw [Entry.place, Entry.splitLast_shownPath names, files, listing_names, Listing.asListed,
      if_neg (List.ne_nil_of_mem shown)]
    exact ⟨_, rfl, shown⟩
  · exact fun empty => nonempty (Entry.shownPath_eq_nil names empty)
  · exact Entry.head?_shownPath names
  · rw [Entry.splitOn_shownPath names nonempty]
    exact List.forall_mem_map.mpr fun name member => (names name member).shown.2

end

/-- A build analyzes those of the listed entries that are files or links to files and have a parser,
each of them once and by their paths; and whatever path it reports leads to a name of the file
map. -/
theorem analysis_agrees_with_listing {r : Registry} {options : BuildOptions} {b : Builder}
    (made : (ofRegistry r options).value = .ok b) {fs : FileSystem} {root : Path} {base : Place}
    {entries : List (Bytes × Node)} (tree : fs.NamedTree root base entries) (host : Host)
    (url : String) :
    let l := b.listing fs root
    let sources := inOrder l
    ∃ g report, (b.build host fs root url).value.1 = .ok (g, report) ∧
      (b.merge l url (sources.map (Analysis.outcome host.clock fs b.pool))).value = (g, report) ∧
      (∀ s, s ∈ sources ↔ ∃ e ∈ b.met fs root, Listed fs root e ∧ LeadsToFile fs root e ∧
        b.HasParser e ∧ s = ⟨e.path root, Entry.shownPath e.place⟩) ∧
      (sources.map (·.path)).Nodup ∧ sources.Pairwise (·.relative ≤ ·.relative) ∧
      ∀ path ∈ reportedPaths (g, report), g.PointsAtListed path := by
  intro l sources
  have served : b.pool.Served := by
    rw [eq_of_made made]
    exact Pool.withTimeout_served (Pool.ofEntries_served r.entries) options.parseTimeout
  have ascending := List.pairwise_mergeSort sourceLE_trans sourceLE_total l.sources
  refine ⟨_, _, build_made made host url tree.isDirectory, rfl, fun s => mem_sources_iff tree served,
    sources_once tree, ?_, fun path reported => ?_⟩
  · exact ascending.imp fun below => by simpa [sourceLE] using below
  · have relative := b.relative_of_reported l url reported
    rw [List.map_map] at relative
    obtain ⟨s, isSource, rfl⟩ := List.mem_map.mp relative
    obtain ⟨e, met, listed, _, _, rfl⟩ := (mem_sources_iff tree served).mp isSource
    rw [Function.comp_apply, Analysis.outcome_eq]
    exact pointsAtListed tree met listed (merge_files ..)

/-- A link to a file, its name no text, in a directory beside a pipe. -/
theorem analysis_agrees_with_listing_of_lossy_names :
    let python : LanguageEntry := ⟨"python", ["py"], [], "name", "call", "function", .python⟩
    let b : Builder := ⟨(Pool.ofEntries [python]).withTimeout none, {}⟩
    let name : Bytes := 0xff :: Text.encode ".py"
    let below : List (Bytes × Node) := [(Text.encode "p.py", .pipe), (name, .link [Path.slash, 0x61])]
    let entries : List (Bytes × Node) := [(Text.encode "d", .directory below), (Text.encode "a", .file [])]
    let fs : FileSystem := ⟨.directory entries, []⟩
    let root : Path := ⟨[Path.slash]⟩
    (ofRegistry ⟨[python]⟩ {}).value = .ok b ∧ fs.NamedTree root [] entries ∧
      let l := b.listing fs root
      ∃ g report, (b.build {} fs root "repo").value.1 = .ok (g, report) ∧
        (b.merge l "repo" ((inOrder l).map (Analysis.outcome .byLength fs b.pool))).value =
          (g, report) ∧
        ⟨⟨Text.encode "/d/" ++ name⟩, "d/\ufffd.py"⟩ ∈ inOrder l ∧
        ∀ path ∈ reportedPaths (g, report), g.PointsAtListed path := by
  intro python b name below entries fs root
  have made : (ofRegistry ⟨[python]⟩ {}).value = .ok b := by rfl
  have all : (Node.directory entries).Everywhere fun m => (m.entries.map (·.1)).Nodup ∧
      ∀ e ∈ m.entries, Path.IsName e.1 :=
    .of_every (by decide +kernel)
  have tree : fs.NamedTree root [] entries := {
    found := by cbv
    distinct := fun q m there => (all q m there).1
    named := fun q m there => (all q m there).2 }
  obtain ⟨g, report, built, merged, exact, _, _, points⟩ :=
    analysis_agrees_with_listing made tree {} "repo"
  let e : Entry := ⟨[Text.encode "d"], name, .link [Path.slash, 0x61]⟩
  have met : e ∈ b.met fs root := by
    have last : (b.met fs root).getLast? = some e := by cbv
    exact List.mem_of_getLast? last
  have isFile : fs.isFile (e.path root) = true := by cbv
  have notDirectory : fs.isDirectory (e.path root) = false := by cbv
  have path : e.path root = ⟨Text.encode "/d/" ++ name⟩ := by cbv
  have shown : Entry.shownPath e.place = "d/\ufffd.py" := by cbv
  have text : Text.decode? (Text.encode "py") = some "py" := Text.decode?_encode "py"
  have isSource := (exact _).mpr ⟨e, met, fun toDirectory => by simp [notDirectory] at toDirectory,
    .inr ⟨rfl, isFile⟩, ⟨Text.encode "py", "py", by decide, text, by rfl⟩, rfl⟩
  rw [path, shown] at isSource
  exact ⟨made, tree, g, report, built, merged, isSource, points⟩

end Builder

end CodeAtlas
