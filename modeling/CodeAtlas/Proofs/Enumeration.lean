import CodeAtlas.Proofs.Heeding
import CodeAtlas.Proofs.Scheduling

namespace CodeAtlas

/-- One tree with the entries of its directories in two orders. -/
inductive Node.Reordered : Node → Node → Prop
  | leaf {n : Node} : n.isOpen = false → Reordered n n
  | directory {entries listed : List (Bytes × Node)} :
      (listed.map (·.1)).Perm (entries.map (·.1)) →
      (∀ name n n', (name, n) ∈ entries → (name, n') ∈ listed → Reordered n n') →
      Reordered (.directory entries) (.directory listed)

/-- An entry of a directory has its counterpart in the other order. -/
theorem exists_mem_of_names {entries listed : List (Bytes × Node)}
    (names : (listed.map (·.1)).Perm (entries.map (·.1))) {name : Bytes} {n : Node}
    (member : (name, n) ∈ entries) : ∃ n', (name, n') ∈ listed := by
  have named : name ∈ listed.map (·.1) :=
    names.mem_iff.mpr (List.mem_map.mpr ⟨(name, n), member, rfl⟩)
  obtain ⟨⟨_, n'⟩, member', rfl⟩ := List.mem_map.mp named
  exact ⟨n', member'⟩

/-- Two orders of one tree show the same at every place, and no name twice in either. -/
theorem Node.Reordered.agree {n n' : Node} (reordered : n.Reordered n') (distinct : n.Distinct) :
    n'.Distinct ∧ ∀ q, (n.at? q).map Node.shape = (n'.at? q).map Node.shape := by
  induction reordered with
  | leaf => exact ⟨distinct, fun q => rfl⟩
  | @directory entries listed names each ih =>
    have nodup : (entries.map (·.1)).Nodup := distinct.names
    have nodup' : (listed.map (·.1)).Nodup := names.nodup_iff.mpr nodup
    have below {name : Bytes} {n' : Node} (member' : (name, n') ∈ listed) :
        ∃ n, (name, n) ∈ entries ∧ n'.Distinct ∧
          ∀ q, (n.at? q).map Node.shape = (n'.at? q).map Node.shape := by
      obtain ⟨n, member⟩ := exists_mem_of_names names.symm member'
      exact ⟨n, member, ih name n n' member member' (distinct.entry member)⟩
    constructor
    · refine Everywhere.directory nodup' fun e member' => ?_
      obtain ⟨n, _, inner, _⟩ := below member'
      exact inner
    · intro q
      cases q with
      | nil => rfl
      | cons name q =>
        by_cases named : name ∈ listed.map (·.1)
        · obtain ⟨⟨_, n'⟩, member', rfl⟩ := List.mem_map.mp named
          obtain ⟨n, member, _, same⟩ := below member'
          rw [at?_directory nodup member, at?_directory nodup' member', same q]
        · rw [at?_absent named, at?_absent (mt names.mem_iff.mpr named)]

/-- Two file systems that show the same at every place. -/
structure FileSystem.Alike (fs fs' : FileSystem) : Prop where
  current : fs'.current = fs.current
  shapes : ∀ q, (fs.root.at? q).map Node.shape = (fs'.root.at? q).map Node.shape

namespace FileSystem

variable {fs fs' : FileSystem}

theorem Alike.agree (alike : Alike fs fs') : fs.root.AgreeBut (fun _ => False) fs'.root where
  kept q _ := alike.shapes q
  lost _ isGone := isGone.elim

theorem Alike.find (alike : Alike fs fs') (last : Bool) (p : Path) :
    (∃ e, fs.find last p = .error e ∧ fs'.find last p = .error e) ∨
      ∃ q, fs.find last p = .ok (q, fs.root.at? q) ∧ fs'.find last p = .ok (q, fs'.root.at? q) := by
  have found := find_found alike.agree alike.current last p
  generalize fs.find last p = a at found ⊢
  generalize fs'.find last p = b at found ⊢
  cases found with
  | failed e => exact Or.inl ⟨e, rfl, rfl⟩
  | same _ => exact Or.inr ⟨_, rfl, rfl⟩
  | lost isGone => exact isGone.elim

theorem Alike.read (alike : Alike fs fs') : fs'.read = fs.read := by
  funext p
  rcases read_agree alike.agree alike.current p with same | ⟨_, isGone, _⟩
  · exact same
  · exact isGone.elim

theorem Alike.node? (alike : Alike fs fs') (p : Path) :
    (fs.node? p).map Node.shape = (fs'.node? p).map Node.shape := by
  rcases alike.find true p with ⟨e, before, after⟩ | ⟨q, before, after⟩
  · rw [FileSystem.node?, FileSystem.node?, before, after]
  · rw [FileSystem.node?, FileSystem.node?, before, after]
    exact alike.shapes q

theorem Alike.canonical? (alike : Alike fs fs') : fs'.canonical? = fs.canonical? := by
  funext p
  rcases alike.find true p with ⟨e, before, after⟩ | ⟨q, before, after⟩
  · rw [FileSystem.canonical?, FileSystem.canonical?, before, after]
  · have same := alike.shapes q
    rw [FileSystem.canonical?, FileSystem.canonical?, before, after]
    cases here : fs.root.at? q with
    | none =>
      rw [here] at same
      rw [Option.map_eq_none_iff.mp same.symm]
    | some n =>
      rw [here] at same
      obtain ⟨n', here', _⟩ := Option.map_eq_some_iff.mp same.symm
      rw [here']

theorem Alike.isDirectory (alike : Alike fs fs') : fs'.isDirectory = fs.isDirectory := by
  have shown (n : Option Node) : (n.map Node.shape).any Node.isDirectory = n.any Node.isDirectory := by
    cases n with
    | none => rfl
    | some n => exact n.isDirectory_shape
  funext p
  rw [FileSystem.isDirectory, FileSystem.isDirectory, ← shown, ← alike.node? p, shown]

theorem Alike.isFile (alike : Alike fs fs') : fs'.isFile = fs.isFile := by
  have shown (n : Option Node) : (n.map Node.shape).any Node.isFile = n.any Node.isFile := by
    cases n with
    | none => rfl
    | some n => cases n <;> rfl
  funext p
  rw [FileSystem.isFile, FileSystem.isFile, ← shown, ← alike.node? p, shown]

theorem Alike.sameRules (alike : Alike fs fs') (root : Path) : Ignore.SameRules fs fs' root where
  shared := by
    funext dir
    simp only [Ignore.shared, RuleFile.load, alike.read]
  excludes := by
    funext dir
    simp only [Ignore.excludes, RuleFile.load, alike.read]
  base := by rw [alike.canonical?]

theorem Alike.found (alike : Alike fs fs') (distinct : fs.root.Distinct)
    (distinct' : fs'.root.Distinct) (root : Path) (ignored : List String) (heedRules : Bool) :
    Walk.found fs' root ignored heedRules = Walk.found fs root ignored heedRules := by
  rcases alike.find true root with ⟨e, before, after⟩ | ⟨q, before, after⟩
  · rw [Walk.found, Walk.found, FileSystem.node?, FileSystem.node?, before, after]
    rfl
  · cases here : fs.root.at? q with
    | none =>
      have here' := alike.agree.at_none not_false here
      rw [Walk.found, Walk.found, FileSystem.node?, FileSystem.node?, before, after, here, here']
      rfl
    | some n =>
      obtain ⟨n', here', _⟩ := alike.agree.at_some not_false here
      rw [here] at before
      rw [here'] at after
      let gone (_ : Place) : Bool := false
      have below : n.AgreeBut (fun p => gone p = true) n' :=
        ⟨fun p _ => (alike.agree.below here here').kept p not_false, fun _ isGone => by cases isGone⟩
      have rules : heedRules = true → Ignore.SameRules fs fs' root := fun _ => alike.sameRules root
      have met := Walk.found_agree before after below (distinct.below here) (distinct'.below here')
        rules ignored
      simpa [gone] using met

theorem Alike.listing (alike : Alike fs fs') (distinct : fs.root.Distinct)
    (distinct' : fs'.root.Distinct) (b : Builder) (root : Path) :
    b.listing fs' root = b.listing fs root := by
  have readable (p : Path) (n : Node) : Listing.readable fs' p n = Listing.readable fs p n := by
    cases n with
    | link =>
      simp only [Listing.readable, alike.isFile]
    | file | directory | pipe | locked => rfl
  have add : Listing.add fs' b.pool root = Listing.add fs b.pool root := by
    funext l e
    simp only [Listing.add, readable, alike.isDirectory]
  have errors : Walk.errors fs' root b.options.respectGitignore =
      Walk.errors fs root b.options.respectGitignore :=
    Walk.errors_congr (fun _ => alike.sameRules root) (alike.node? root).symm
  rw [Builder.listing, Builder.listing, Walk.run, Walk.run, alike.found distinct distinct', add,
    errors]

theorem Alike.outcome (alike : Alike fs fs') (clock : Clock) (pool : Pool) :
    Analysis.outcome clock fs' pool = Analysis.outcome clock fs pool := by
  funext source
  have parsed := Pool.parseFile_congr (congrFun alike.read source.path) clock pool
  rw [Analysis.outcome_eq, Analysis.outcome_eq, parsed]

end FileSystem

/-- Outcomes that differ in the time the files took are merged alike, the time apart. -/
theorem Builder.merge_spent (b : Builder) (l : Listing) (url : String)
    (exceeds : Language → Nat → String → Bool) (spent spent' : Path → Nat) (fs : FileSystem)
    (pool : Pool) (sources : List SourceFile) :
    untimed (b.merge l url (sources.map (Analysis.outcome ⟨exceeds, spent⟩ fs pool))).value =
      untimed (b.merge l url (sources.map (Analysis.outcome ⟨exceeds, spent'⟩ fs pool))).value := by
  rw [merge_untimed, b.merge_untimed l url (sources.map (Analysis.outcome ⟨exceeds, spent'⟩ fs pool)),
    List.map_map, List.map_map]
  exact congrArg (fun outcomes => untimed (b.merge l url outcomes).value)
    (List.map_congr_left fun source _ => Analysis.outcome_untimed ..)

/-- A build does not depend on the order in which any directory lists its entries, also when names
become equal once they are shown; nor on its crew, the time it takes apart. -/
theorem Builder.build_same_for_any_enumeration (r : Registry) (options : BuildOptions)
    (exceeds : Language → Nat → String → Bool) (spent spent' : Path → Nat) (crew crew' : Crew)
    {fs fs' : FileSystem} (current : fs'.current = fs.current) (distinct : fs.root.Distinct)
    (reordered : fs.root.Reordered fs'.root) (root : Path) (url : String) :
    firstAnswer r options ⟨⟨exceeds, spent'⟩, crew'⟩ fs' root url =
      firstAnswer r options ⟨⟨exceeds, spent⟩, crew⟩ fs root url := by
  obtain ⟨distinct', shapes⟩ := reordered.agree distinct
  have alike : FileSystem.Alike fs fs' := ⟨current, shapes⟩
  rw [firstAnswer_value, firstAnswer_value]
  dsimp only
  rw [alike.isDirectory, alike.listing distinct distinct', alike.outcome]
  split
  · rfl
  · split
    · exact congrArg Except.ok (merge_spent ..)
    · rfl

/-- A directory with two files whose names are shown alike, and a file beside it, in two orders. -/
theorem Builder.build_same_for_enumeration_of_lossy_names :
    let first : Bytes := 0xfe :: Text.encode ".py"
    let second : Bytes := 0xff :: Text.encode ".py"
    let inside : List (Bytes × Node) :=
      [(first, .file (Text.encode "def f(): pass")), (second, .file (Text.encode "def f(): g()"))]
    let beside : Bytes × Node := (Text.encode "d.py", .file (Text.encode "def f(): h()"))
    let fs : FileSystem := ⟨.directory [(Text.encode "d", .directory inside), beside], []⟩
    let fs' : FileSystem := ⟨.directory [beside, (Text.encode "d", .directory inside.reverse)], []⟩
    let root : Path := ⟨[Path.slash]⟩
    Text.decodeLossy first = Text.decodeLossy second ∧ fs.root.Distinct ∧
      fs.root.Reordered fs'.root ∧
      firstAnswer .builtin {} ⟨.byLength, .inTurn 2⟩ fs' root "repo" =
        firstAnswer .builtin {} ⟨.byLength, .inTurn 1⟩ fs root "repo" := by
  intro first second inside beside fs fs' root
  have lossy : Text.decodeLossy first = Text.decodeLossy second := by
    rw [Text.decodeLossy, Text.scanChars, Text.decodeLossy, Text.scanChars]
    rfl
  have names : (inside.map (·.1)).Nodup := by decide
  have leaves : ∀ e ∈ inside, e.2.isOpen = false := by simp [inside, Node.isOpen]
  have distinct : fs.root.Distinct := Node.Everywhere.of_every (by decide +kernel)
  have below : (Node.directory inside).Reordered (.directory inside.reverse) := by
    refine .directory ((List.reverse_perm inside).map _) fun name n n' before after => ?_
    have same : n = n' :=
      congrArg Prod.snd (List.inj_on_of_nodup_map names before (List.mem_reverse.mp after) rfl)
    exact same ▸ .leaf (leaves _ before)
  have reordered : fs.root.Reordered fs'.root := by
    refine .directory (.swap ..) fun name n n' before after => ?_
    simp only [beside, List.mem_cons, List.not_mem_nil, or_false, Prod.mk.injEq] at before after
    rcases before with ⟨rfl, rfl⟩ | ⟨rfl, rfl⟩ <;> rcases after with ⟨other, rfl⟩ | ⟨other, rfl⟩
    · exact absurd other (by decide)
    · exact below
    · exact .leaf rfl
    · exact absurd other (by decide)
  have current : fs'.current = fs.current := rfl
  exact ⟨lossy, distinct, reordered,
    build_same_for_any_enumeration .builtin {} _ _ _ _ _ current distinct reordered root "repo"⟩

end CodeAtlas
