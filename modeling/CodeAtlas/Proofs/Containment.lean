import CodeAtlas.Proofs.ExtensionIndex
import CodeAtlas.Proofs.Scheduling
import CodeAtlas.Proofs.Trimming
import Mathlib

namespace CodeAtlas

namespace Builder

section
variable (b : Builder) (clock : Clock) (fs : FileSystem) (root : Path)

/-- What a walk with the builder's options meets. -/
def met : List Entry :=
  Walk.met fs root b.options.ignoreDirs b.options.respectGitignore

/-- What is wrong with an entry, if it is a source and cannot be read, decoded or parsed, whatever
happens to others. -/
def failure? (e : Entry) : Option SkippedFile :=
  (Listing.sourceOf? fs b.pool root e).bind fun source =>
    (Analysis.outcome clock fs b.pool source).skipped?

/-- All sources that fail. -/
def failing : List Entry :=
  (b.met fs root).filter fun e => (b.failure? clock fs root e).isSome

/-- The file system without the files that fail, for a root that lies at a place. -/
def withoutFailing (base : Place) : FileSystem :=
  fs.without ((b.failing clock fs root).map fun e => base ++ e.place)

theorem listing_sources :
    (b.listing fs root).sources =
      (b.met fs root).filterMap (Listing.sourceOf? fs b.pool root) := by
  rw [listing, Walk.run_eq, Listing.ofMet_sources _ _ _ _ fun _ => Walk.leaf_of_met, met]

theorem listing_errors :
    (b.listing fs root).errors =
      Walk.allErrors fs root b.options.ignoreDirs b.options.respectGitignore := by
  rw [listing, Walk.run_eq, Listing.ofMet_errors _ _ _ _ fun _ => Walk.leaf_of_met]

theorem listing_names (directory : String) :
    (b.listing fs root).directories.get? directory =
      Listing.asListed (Listing.namesIn fs root (b.met fs root) directory) := by
  rw [listing, Walk.run_eq, Listing.ofMet_names _ _ _ _ fun _ => Walk.leaf_of_met, met]

end

section
variable {b : Builder} {clock clock' : Clock} {fs : FileSystem} {root : Path} {base : Place}
  {entries : List (Bytes × Node)}

theorem mem_failing {e : Entry} :
    e ∈ b.failing clock fs root ↔
      e ∈ b.met fs root ∧ (b.failure? clock fs root e).isSome = true := by
  rw [failing, List.mem_filter]

/-- Where the first entry that is met fails, and no other does. -/
theorem failing_of_met {e : Entry} {rest : List Entry} {failure : SkippedFile}
    (met : b.met fs root = e :: rest) (fails : b.failure? clock fs root e = some failure)
    (others : ∀ other ∈ rest, b.failure? clock fs root other = none) :
    b.failing clock fs root = [e] := by
  have none : rest.filter (fun e => (b.failure? clock fs root e).isSome) = [] :=
    List.filter_eq_nil_iff.mpr fun other member => by simp [others other member]
  rw [failing, met, List.filter_cons_of_pos (by rw [fails]; rfl), none]

/-- What is wrong with a source is what parsing it by itself answers. -/
theorem failure?_eq_some {e : Entry} {failure : SkippedFile} :
    b.failure? clock fs root e = some failure ↔
      (Listing.sourceOf? fs b.pool root e).isSome = true ∧
        failure.path = Walk.relative root (e.path root) ∧
        (b.pool.parseFile clock fs (e.path root)).value.1 = .error failure.error := by
  rw [failure?]
  cases isSource : Listing.sourceOf? fs b.pool root e with
  | none => simp
  | some source =>
    obtain ⟨rfl, _⟩ := Listing.sourceOf?_eq_some isSource
    obtain ⟨path, error⟩ := failure
    simp only [Option.bind_some, Analysis.outcome_eq, FileOutcome.skipped?]
    cases (b.pool.parseFile clock fs (e.path root)).value.1 with
    | ok u => simp [Except.map]
    | error own => simp [Except.map, eq_comm]

/-- Sources are told by their extensions, so none fails for its extension. -/
theorem failure?_supported (served : b.pool.Served) {e : Entry} {failure : SkippedFile}
    (fails : b.failure? clock fs root e = some failure) (ext : String) :
    failure.error ≠ .unsupportedExtension ext := by
  obtain ⟨isSource, _, error⟩ := failure?_eq_some.mp fails
  obtain ⟨source, isSource⟩ := Option.isSome_iff_exists.mp isSource
  have supports := (Listing.sourceOf?_eq_some isSource).2
  intro unsupported
  exact served.parseFile clock fs supports ext (unsupported ▸ error)

theorem source_of_failing {e : Entry} (fails : (b.failure? clock fs root e).isSome = true) :
    (Listing.sourceOf? fs b.pool root e).isSome = true := by
  obtain ⟨failure, found⟩ := Option.isSome_iff_exists.mp fails
  exact (failure?_eq_some.mp found).1

theorem failing_once (tree : fs.PlainTree root base entries) :
    ((b.failing clock fs root).map (·.place)).Nodup :=
  (tree.met_once _ _).sublist (List.filter_sublist.map _)

theorem failing_trimmed (tree : fs.PlainTree root base entries) :
    fs.Trimmed (b.withoutFailing clock fs root base) base
      fun q => (b.failing clock fs root).any (·.place == q) := by
  refine tree.trimmed (failing_once tree) fun e member => ?_
  obtain ⟨met, fails⟩ := mem_failing.mp member
  exact ⟨e.node, (tree.met met).1, (tree.source met (source_of_failing fails)).1⟩

/-- Of what is met, that is gone which fails. -/
theorem gone_iff (tree : fs.PlainTree root base entries) {e : Entry} (met : e ∈ b.met fs root) :
    ((b.failing clock fs root).any (·.place == e.place)) =
      (b.failure? clock fs root e).isSome := by
  rw [Bool.eq_iff_iff, List.any_eq_true]
  constructor
  · rintro ⟨e', member, same⟩
    obtain ⟨met', fails⟩ := mem_failing.mp member
    exact tree.met_eq met' met (by simpa using same) ▸ fails
  · intro fails
    exact ⟨e, mem_failing.mpr ⟨met, fails⟩, by simp⟩

/-- Rule files never fail, and say the same without those that do. -/
theorem failing_rules (tree : fs.PlainTree root base entries) (ownNames : fs.OwnNames base) :
    Ignore.SameRules fs (b.withoutFailing clock fs root base) root := by
  refine (failing_trimmed tree).sameRules tree ownNames fun q isGone => ?_
  obtain ⟨e, member, atPlace⟩ := List.any_eq_true.mp isGone
  obtain ⟨met, fails⟩ := mem_failing.mp member
  obtain ⟨_, ext, extension⟩ := tree.source met (source_of_failing fails)
  refine ⟨e.name, ext, ?_, extension⟩
  rw [← (beq_iff_eq.mp atPlace : e.place = q)]
  exact List.getLast?_concat

section
variable (tree : fs.PlainTree root base entries)
  (ownNames : b.options.respectGitignore = true → fs.OwnNames base)

include tree ownNames

theorem met_withoutFailing :
    b.met (b.withoutFailing clock fs root base) root =
      (b.met fs root).filter fun e => !(b.failure? clock fs root e).isSome := by
  rw [met, (failing_trimmed tree).met tree fun heeded => failing_rules tree (ownNames heeded)]
  exact List.filter_congr fun e member => congrArg (!·) (gone_iff tree member)

/-- Sources without those that fail. -/
theorem sources_withoutFailing :
    (b.listing (b.withoutFailing clock fs root base) root).sources =
      (b.listing fs root).sources.filter fun source =>
        (Analysis.outcome clock fs b.pool source).parsed := by
  rw [listing_sources, listing_sources, met_withoutFailing tree ownNames, List.filter_filterMap,
    List.filterMap_filter]
  refine List.filterMap_congr fun e member => ?_
  rw [Listing.sourceOf?_congr fs _ b.pool root (tree.met member).2.2.1, failure?]
  cases Listing.sourceOf? fs b.pool root e with
  | none => simp
  | some source =>
    rw [Option.bind_some, ← FileOutcome.parsed_eq, Option.filter_some]

/-- What is left has the outcome it had, the time apart. -/
theorem outcome_withoutFailing {exceeds : Language → Nat → String → Bool}
    (spent spent' : Path → Nat) {source : SourceFile}
    (member : source ∈
      (b.listing (b.withoutFailing ⟨exceeds, spent⟩ fs root base) root).sources) :
    (Analysis.outcome ⟨exceeds, spent'⟩ (b.withoutFailing ⟨exceeds, spent⟩ fs root base) b.pool
        source).untimed =
      (Analysis.outcome ⟨exceeds, spent⟩ fs b.pool source).untimed := by
  rw [listing_sources, met_withoutFailing tree ownNames] at member
  obtain ⟨e, left, isSource⟩ := List.mem_filterMap.mp member
  obtain ⟨met, works⟩ := List.mem_filter.mp left
  rw [← gone_iff tree met] at works
  have trimmed : fs.Trimmed (b.withoutFailing ⟨exceeds, spent⟩ fs root base) base _ :=
    failing_trimmed tree
  have read := trimmed.read tree (tree.met met).1 (by simpa using works)
  have path : source.path = Entry.pathOf root e.place := by
    rw [(Listing.sourceOf?_eq_some isSource).1]
    rfl
  rw [← path] at read
  have parsed := Pool.parseFile_congr read ⟨exceeds, spent⟩ b.pool
  rw [Analysis.outcome_untimed exceeds spent' spent, Analysis.outcome_eq, parsed,
    ← Analysis.outcome_eq]

theorem outcomes_withoutFailing (exceeds : Language → Nat → String → Bool)
    (spent spent' : Path → Nat) :
    let fs' := b.withoutFailing ⟨exceeds, spent⟩ fs root base
    ((inOrder (b.listing fs' root)).map (Analysis.outcome ⟨exceeds, spent'⟩ fs' b.pool)).map
        (·.untimed) =
      (((inOrder (b.listing fs root)).map (Analysis.outcome ⟨exceeds, spent⟩ fs b.pool)).filter
        (·.parsed)).map (·.untimed) := by
  intro fs'
  have sources : inOrder (b.listing fs' root) = (inOrder (b.listing fs root)).filter fun source =>
      (Analysis.outcome ⟨exceeds, spent⟩ fs b.pool source).parsed := by
    rw [inOrder, inOrder, sources_withoutFailing tree ownNames,
      filter_mergeSort sourceLE_trans sourceLE_total]
  rw [List.filter_map, List.map_map, List.map_map]
  refine Eq.trans (List.map_congr_left fun source member => ?_) (congrArg (List.map _) sources)
  have among : source ∈ (b.listing fs' root).sources := List.mem_mergeSort.mp member
  exact outcome_withoutFailing tree ownNames spent spent' among

/-- Under each directory the names of what failed are missing. -/
theorem names_withoutFailing (directory : String) :
    let fs' := b.withoutFailing clock fs root base
    let names := Listing.namesIn fs root (b.met fs root) directory
    let names' := Listing.namesIn fs' root (b.met fs' root) directory
    names'.Sublist names ∧
      names.Perm (names' ++ Listing.namesIn fs root (b.failing clock fs root) directory) := by
  intro fs' names names'
  have left : names' = Listing.namesIn fs root
      ((b.met fs root).filter fun e => !(b.failure? clock fs root e).isSome) directory := by
    simp only [names', fs', Listing.namesIn, met_withoutFailing tree ownNames]
    refine congrArg (List.map _) (List.filter_congr fun e member => ?_)
    have met := (List.mem_filter.mp member).1
    rw [Listing.directoryOf?_congr fs _ root (tree.met met).2.2.1]
  rw [left]
  constructor
  · exact (List.filter_sublist.filter _).map _
  · have split := List.filter_append_perm (fun e => !(b.failure? clock fs root e).isSome)
      (b.met fs root)
    simp only [Bool.not_not] at split
    have named := (split.symm.filter (Listing.directoryOf? fs root · == some directory)).map
      (·.shown)
    rwa [List.filter_append, List.map_append] at named

end

/-- Each source that fails is skipped, with its own failure. -/
theorem skipped_perm (b : Builder) (clock : Clock) (fs : FileSystem) (root : Path) :
    let outcomes := (inOrder (b.listing fs root)).map (Analysis.outcome clock fs b.pool)
    ((outcomes.filterMap (·.skipped?)).map some).Perm
      ((b.failing clock fs root).map (b.failure? clock fs root)) := by
  intro outcomes
  let own (source : SourceFile) := (Analysis.outcome clock fs b.pool source).skipped?
  have sorted : (outcomes.filterMap (·.skipped?)).Perm
      ((b.listing fs root).sources.filterMap own) := by
    rw [List.filterMap_map]
    exact (List.mergeSort_perm _ sourceLE).filterMap own
  have each : (b.listing fs root).sources.filterMap own =
      (b.met fs root).filterMap (b.failure? clock fs root) := by
    rw [listing_sources, List.filterMap_filterMap]
    rfl
  have some (es : List Entry) : (es.filterMap (b.failure? clock fs root)).map some =
      (es.filter fun e => (b.failure? clock fs root e).isSome).map (b.failure? clock fs root) := by
    induction es with
    | nil => rfl
    | cons e es ih =>
      cases failure : b.failure? clock fs root e <;> simp [failure, ih]
  rw [failing, ← some, ← each]
  exact sorted.map _

theorem skipped_ascending (clock : Clock) (fs : FileSystem) (pool : Pool) (l : Listing) :
    (((inOrder l).map (Analysis.outcome clock fs pool)).filterMap (·.skipped?)).Pairwise
      (·.path ≤ ·.path) := by
  have sorted := List.pairwise_mergeSort sourceLE_trans sourceLE_total l.sources
  rw [List.filterMap_map, List.pairwise_filterMap]
  refine sorted.imp fun {a b} below x skippedA y skippedB => ?_
  have inOrder : a.relative ≤ b.relative := by simpa [sourceLE] using below
  rw [FileOutcome.path_of_skipped skippedA, FileOutcome.path_of_skipped skippedB,
    Analysis.outcome_eq, Analysis.outcome_eq]
  exact inOrder

end

/-- What a directory's build with files that fail and one without them have to do with each other. -/
structure Contained (b : Builder) (clock : Clock) (fs : FileSystem) (root : Path) (m m' : Merged) :
    Prop where
  functions : m'.1.functions = m.1.functions
  report : { m'.2 with parseTimeMs := 0 } = { m.2 with skippedFiles := [], parseTimeMs := 0 }
  skipped : (m.2.skippedFiles.map some).Perm
    ((b.failing clock fs root).map (b.failure? clock fs root))
  own : ∀ e ∈ b.failing clock fs root, ∃ failure, b.failure? clock fs root e = some failure ∧
    failure.path = Walk.relative root (e.path root) ∧
    (b.pool.parseFile clock fs (e.path root)).value.1 = .error failure.error ∧
    ∀ ext, failure.error ≠ .unsupportedExtension ext
  once : ((b.failing clock fs root).map (·.place)).Nodup
  ascending : m.2.skippedFiles.Pairwise (·.path ≤ ·.path)
  names : ∀ directory,
    let names := (m.1.files.get? directory).getD []
    let names' := (m'.1.files.get? directory).getD []
    names'.Sublist names ∧
      names.Perm (names' ++ Listing.namesIn fs root (b.failing clock fs root) directory)
  directories : ∀ directory,
    (m.1.files.has directory = true ↔ (m.1.files.get? directory).getD [] ≠ []) ∧
      (m'.1.files.has directory = true ↔ (m'.1.files.get? directory).getD [] ≠ [])

/-- What a build by a new builder answers. -/
theorem build_made {r : Registry} {options : BuildOptions} {b : Builder}
    (made : (ofRegistry r options).value = .ok b) (host : Host) {fs : FileSystem} {root : Path}
    (url : String) (isDirectory : fs.isDirectory root = true) :
    (b.build host fs root url).value.1 = .ok (b.merge (b.listing fs root) url
      ((inOrder (b.listing fs root)).map (Analysis.outcome host.clock fs b.pool))).value := by
  rw [eq_of_made made, build_value host _ url isDirectory, Analysis.run_value]

theorem merge_files (b : Builder) (l : Listing) (url : String) (outcomes : List FileOutcome) :
    (b.merge l url outcomes).value.1.files = l.directories := by
  rw [merge_value, Graph.insertAll_eq, Graph.ofListing_eq]

theorem merge_errors (b : Builder) (l : Listing) (url : String) (outcomes : List FileOutcome) :
    (b.merge l url outcomes).value.2.walkErrors = l.errors := by
  rw [merge_value]

/-- What is reported where one entry fails. -/
theorem build_of_failing {r : Registry} {options : BuildOptions} {b : Builder}
    (made : (ofRegistry r options).value = .ok b) (host : Host) {fs : FileSystem} {root : Path}
    (url : String) (isDirectory : fs.isDirectory root = true) {e : Entry}
    (all : b.failing host.clock fs root = [e]) {failure : SkippedFile}
    (fails : b.failure? host.clock fs root e = some failure) :
    ∃ m, (b.build host fs root url).value.1 = .ok m ∧ m.2.skippedFiles = [failure] ∧
      m.1.files = (b.listing fs root).directories ∧ m.2.walkErrors = (b.listing fs root).errors := by
  have each := b.skipped_perm host.clock fs root
  rw [all, List.map_singleton, fails, List.perm_singleton, ← List.map_singleton (f := some),
    (List.map_injective_iff.mpr (Option.some_injective _)).eq_iff] at each
  refine ⟨_, build_made made host url isDirectory, ?_, merge_files .., merge_errors ..⟩
  rw [merge_value]
  exact each

/-- Outcomes that failed have no part in the functions of a merge, nor in its counts. -/
theorem merge_parsed (b : Builder) {l l' : Listing} (url : String)
    {outcomes outcomes' : List FileOutcome}
    (same : outcomes'.map (·.untimed) = (outcomes.filter (·.parsed)).map (·.untimed))
    (errors : l'.errors = l.errors) :
    let m := (b.merge l url outcomes).value
    let m' := (b.merge l' url outcomes').value
    m'.1.functions = m.1.functions ∧
      { m'.2 with parseTimeMs := 0 } = { m.2 with skippedFiles := [], parseTimeMs := 0 } := by
  have insertions : outcomes'.flatMap (·.insertions) = outcomes.flatMap (·.insertions) := by
    rw [← FileOutcome.insertions_untimed, same, FileOutcome.insertions_untimed,
      FileOutcome.insertions_parsed]
  have counted : { BuildReport.ofOutcomes outcomes' with parseTimeMs := 0 } =
      { BuildReport.ofOutcomes outcomes with skippedFiles := [], parseTimeMs := 0 } := by
    rw [← BuildReport.ofOutcomes_untimed, same, BuildReport.ofOutcomes_untimed,
      BuildReport.ofOutcomes_parsed]
  intro m m'
  simp only [m, m', merge_value, insertions, errors]
  constructor
  · exact Graph.insertAll_functions_congr (by simp only [Graph.ofListing_functions]) _
  · exact congrArg (fun report : BuildReport =>
      { report with skippedLanguages := b.pool.skipped, walkErrors := l.errors }) counted

theorem merge_contained {b : Builder} {fs : FileSystem} {root : Path} {base : Place}
    {entries : List (Bytes × Node)} (tree : fs.PlainTree root base entries)
    (ownNames : b.options.respectGitignore = true → fs.OwnNames base) (served : b.pool.Served)
    (url : String) (exceeds : Language → Nat → String → Bool) (spent spent' : Path → Nat) :
    let clock : Clock := ⟨exceeds, spent⟩
    let fs' := b.withoutFailing clock fs root base
    Contained b clock fs root
      (b.merge (b.listing fs root) url
        ((inOrder (b.listing fs root)).map (Analysis.outcome clock fs b.pool))).value
      (b.merge (b.listing fs' root) url
        ((inOrder (b.listing fs' root)).map (Analysis.outcome ⟨exceeds, spent'⟩ fs' b.pool))).value := by
  intro clock fs'
  have errors : (b.listing fs' root).errors = (b.listing fs root).errors := by
    rw [listing_errors, listing_errors]
    exact (failing_trimmed tree).allErrors tree (fun heeded => failing_rules tree (ownNames heeded)) _
  have merged := b.merge_parsed url
    (outcomes_withoutFailing tree ownNames exceeds spent spent') errors
  exact {
    functions := merged.1
    report := merged.2
    skipped := by
      rw [merge_value]
      exact b.skipped_perm clock fs root
    own := by
      intro e member
      obtain ⟨failure, fails⟩ := Option.isSome_iff_exists.mp (mem_failing.mp member).2
      obtain ⟨_, path, error⟩ := failure?_eq_some.mp fails
      exact ⟨failure, fails, path, error, failure?_supported served fails⟩
    once := failing_once tree
    ascending := by
      rw [merge_value]
      exact skipped_ascending clock fs b.pool (b.listing fs root)
    names := fun directory => by
      simp only [merge_files, listing_names, Listing.asListed_getD]
      exact names_withoutFailing tree ownNames directory
    directories := fun directory => by
      simp only [merge_files, listing_names, Listing.asListed_getD, Catalog.has_eq_isSome,
        Listing.asListed_isSome, and_self] }

/-- Sources that fail, wherever they stand in a tree without links, change nothing but their own
entries: the functions and the counts are those of the tree without them, each is reported once with
its own error in the order of the paths, and in the file map their names alone are missing. -/
theorem failing_files_contained {r : Registry} {options : BuildOptions} {b : Builder}
    (made : (ofRegistry r options).value = .ok b) {fs : FileSystem} {root : Path} {base : Place}
    {entries : List (Bytes × Node)} (tree : fs.PlainTree root base entries)
    (ownNames : options.respectGitignore = true → fs.OwnNames base) (url : String)
    (exceeds : Language → Nat → String → Bool) (spent spent' : Path → Nat) (crew crew' : Crew) :
    let clock : Clock := ⟨exceeds, spent⟩
    let fs' := b.withoutFailing clock fs root base
    ∃ m m', (b.build ⟨clock, crew⟩ fs root url).value.1 = .ok m ∧
      (b.build ⟨⟨exceeds, spent'⟩, crew'⟩ fs' root url).value.1 = .ok m' ∧
      Contained b clock fs root m m' := by
  intro clock fs'
  obtain rfl := eq_of_made made
  obtain ⟨entries', found', _⟩ := (failing_trimmed tree).trees tree
  have isDirectory : fs.isDirectory root = true := by
    rw [FileSystem.isDirectory, FileSystem.node?, tree.found]
    rfl
  have isDirectory' : fs'.isDirectory root = true := by
    rw [FileSystem.isDirectory, FileSystem.node?, found']
    rfl
  have served := Pool.withTimeout_served (Pool.ofEntries_served r.entries) options.parseTimeout
  exact ⟨_, _, build_made made ⟨clock, crew⟩ url isDirectory,
    build_made made ⟨⟨exceeds, spent'⟩, crew'⟩ url isDirectory',
    merge_contained tree ownNames served url exceeds spent spent'⟩

/-- A file that is no text, one that may not be opened, and one in a directory whose parse takes too
long, beside a file of no language; rule files are heeded. -/
theorem failing_files_contained_in_mixed_tree :
    let python : LanguageEntry := ⟨"python", ["py"], [], "name", "call", "function", .python⟩
    let options : BuildOptions := { respectGitignore := true, parseTimeout := some 5000 }
    let b : Builder := ⟨(Pool.ofEntries [python]).withTimeout options.parseTimeout, options⟩
    let exceeds (_ : Language) (_ : Nat) (text : String) : Bool := text == "slow"
    let clock : Clock := ⟨exceeds, fun _ => 1⟩
    let below : List (Bytes × Node) := [(Text.encode "c.py", .file (Text.encode "slow"))]
    let entries : List (Bytes × Node) := [(Text.encode "a.py", .file [0xff]),
      (Text.encode "b.py", .locked false), (Text.encode "d", .directory below),
      (Text.encode "notes", .file [])]
    let fs : FileSystem := ⟨.directory entries, []⟩
    let root : Path := ⟨[Path.slash]⟩
    (ofRegistry ⟨[python]⟩ options).value = .ok b ∧ fs.PlainTree root [] entries ∧
      fs.OwnNames [] ∧
      (∃ e ∈ b.failing clock fs root,
        b.failure? clock fs root e = some ⟨"a.py", .invalidEncoding⟩) ∧
      (∃ e ∈ b.failing clock fs root,
        b.failure? clock fs root e = some ⟨"b.py", .read .permissionDenied⟩) ∧
      ∃ m m', (b.build ⟨clock, .inTurn 2⟩ fs root "repo").value.1 = .ok m ∧
        (b.build ⟨⟨exceeds, fun _ => 2⟩, .inTurn 1⟩ (b.withoutFailing clock fs root []) root
          "repo").value.1 = .ok m' ∧
        Contained b clock fs root m m' := by
  intro python options b exceeds clock below entries fs root
  have made : (ofRegistry ⟨[python]⟩ options).value = .ok b := by rfl
  have all : (Node.directory entries).Everywhere fun m => (m.entries.map (·.1)).Nodup ∧
      (∀ e ∈ m.entries, Path.IsName e.1) ∧ m.isLink = false :=
    .of_every (by decide +kernel)
  have tree : fs.PlainTree root [] entries := {
    found := by cbv
    distinct := fun q m there => (all q m there).1
    named := fun q m there => (all q m there).2.1
    unlinked := fun q m there => (all q m there).2.2 }
  have ownNames : fs.OwnNames [] := by
    have atRoot : fs.root.at? [] = some (.directory entries) := rfl
    refine FileSystem.ownNames_of_unlinked (fun q target there => ?_) atRoot
    have notLink := tree.unlinked q _ there
    contradiction
  let first : Entry := ⟨[], Text.encode "a.py", .file [0xff]⟩
  let second : Entry := ⟨[], Text.encode "b.py", .locked false⟩
  have met : (Walk.met fs root options.ignoreDirs true).take 2 = [first, second] := by cbv
  have supported : b.pool.supportsExtension "py" = true := by rfl
  have fails {e : Entry} {name : String} {error : ParseError} (member : e ∈ [first, second])
      (extension : Pool.textExtension? (e.path root) = some "py")
      (isSource : (Listing.directoryOf? fs root e).isSome = true ∧ e.node.isFile = true)
      (relative : Walk.relative root (e.path root) = name)
      (failed : (b.pool.parseFile clock fs (e.path root)).value.1 = .error error) :
      ∃ e ∈ b.failing clock fs root, b.failure? clock fs root e = some ⟨name, error⟩ := by
    have failure : b.failure? clock fs root e = some ⟨name, error⟩ := by
      refine failure?_eq_some.mpr ⟨?_, relative.symm, failed⟩
      simp [Listing.sourceOf?, isSource, Listing.readable, Pool.supportsPath, extension, supported]
    have there : e ∈ b.met fs root := List.mem_of_mem_take (met.symm ▸ member)
    exact ⟨e, mem_failing.mpr ⟨there, by rw [failure]; rfl⟩, failure⟩
  have noText : Text.decode? [0xff] = none := by cbv
  have unreadable : ∃ e ∈ b.failing clock fs root,
      b.failure? clock fs root e = some ⟨"a.py", .invalidEncoding⟩ := by
    have extension : Pool.textExtension? (first.path root) = some "py" := by cbv
    have read : fs.read (first.path root) = .ok [0xff] := by cbv
    refine fails List.mem_cons_self extension ⟨by rfl, by rfl⟩ (by cbv) ?_
    simp [Pool.parseFile, extension, supported, read, noText]
  have locked : ∃ e ∈ b.failing clock fs root,
      b.failure? clock fs root e = some ⟨"b.py", .read .permissionDenied⟩ := by
    have extension : Pool.textExtension? (second.path root) = some "py" := by cbv
    have read : fs.read (second.path root) = .error .permissionDenied := by cbv
    refine fails (List.mem_cons_of_mem _ List.mem_cons_self) extension ⟨by rfl, by rfl⟩ (by cbv) ?_
    simp [Pool.parseFile, extension, supported, read]
  exact ⟨made, tree, ownNames, unreadable, locked,
    failing_files_contained made tree (fun _ => ownNames) "repo" exceeds _ _ _ _⟩

end Builder

end CodeAtlas
