import CodeAtlas.Proofs.Acting
import CodeAtlas.Proofs.Document.RoundTrip
import CodeAtlas.Proofs.Revisiting

namespace CodeAtlas

open FileSystem

namespace Command

variable {c : Config} {dir : Option Path} {a : BuildArguments} {written : Place → Prop}
  {fs fs' : FileSystem} {b b' : Builder} {root root' : Path} {base base' : Place}

/-- In a tree that has grown a build has the builder and the root it had. -/
theorem Builds.again (builds : Builds c dir a fs b root base) (grown : Grown written fs fs')
    (builds' : Builds c dir a fs' b' root' base') : b' = b ∧ root' = root ∧ base' = base := by
  obtain ⟨⟨r, registry, made⟩, canonical, _, found, _⟩ := builds
  obtain ⟨⟨r', registry', made'⟩, canonical', _, found', _⟩ := builds'
  rw [registry] at registry'
  cases registry'
  rw [made] at made'
  cases made'
  have sameRoot : root' = root := by
    rw [canonical?] at canonical canonical'
    split at canonical
    · rename_i led
      obtain ⟨_, led', _⟩ := grown.find led
      rw [led'] at canonical'
      exact Option.some.inj (canonical'.symm.trans canonical)
    · contradiction
  subst sameRoot
  obtain ⟨_, again, _⟩ := grown.find found
  rw [again] at found'
  exact ⟨rfl, rfl, (Prod.mk.inj (Except.ok.inj found')).1.symm⟩

end Command

namespace Run

open Command

variable {s s' : Surroundings} {line : CommandLine} {a : BuildArguments} {c : Config}
  {dir : Option Path} {fs : FileSystem}

/-- What a build that succeeds has done, and what it had left before its log was closed. -/
structure Leaves (s : Surroundings) (c : Config) (dir : Option Path) (a : BuildArguments)
    (fs : FileSystem) (r : RunResult) (b : Builder) (root : Path) (base : Place)
    (left : FileSystem) : Prop where
  builds : Builds c dir a (opened s c dir fs) b root base
  delivers : Delivers a (documentPath c dir a)
    ((b.graphOf s.host.clock (opened s c dir fs) root
      (a.repoUrl.getD c.project.repositoryUrl)).toText c.output.pretty)
    (opened s c dir fs) left r.output
  logged : Grown (fun q => ∃ p ∈ logFiles s c dir, r.files.LeadsTo p q) left r.files

/-- A run has printed a text, or written it to where its document goes. -/
def Answers (r : RunResult) (a : BuildArguments) (p : Path) (text : String) : Prop :=
  if a.stdout then r.output = text ++ "\n" else r.files.read p = .ok (Text.encode text)

/-- Where two runs of a build write to. -/
def WrittenTo (s s' : Surroundings) (c : Config) (dir : Option Path) (a : BuildArguments)
    (fs : FileSystem) (q : Place) : Prop :=
  (a.stdout = false ∧ fs.LeadsTo (documentPath c dir a) q) ∨
    ∃ p ∈ logFiles s c dir ++ logFiles s' c dir, fs.LeadsTo p q

/-- A second build sees nothing of what a first one has left, and no log is written over the
document. -/
structure Repeatable (s s' : Surroundings) (c : Config) (dir : Option Path) (a : BuildArguments)
    (fs first second : FileSystem) : Prop where
  clock : s'.host.clock.exceeds = s.host.clock.exceeds
  sight : ∀ b root base, Builds c dir a (opened s c dir fs) b root base →
    b.Undisturbed (opened s c dir fs) (opened s' c dir first)
      (WrittenTo s s' c dir a (opened s' c dir first)) root base
  apart : a.stdout = false → ∀ q, second.LeadsTo (documentPath c dir a) q →
    ∀ p ∈ logFiles s c dir ++ logFiles s' c dir, ¬second.LeadsTo p q

theorem leaves_of_success (isBuild : line.command = .build a)
    (loaded : loadConfig fs line.config = .ok (c, dir)) (succeeds : (command s line fs).exit = 0) :
    ∃ b root base left, Leaves s c dir a fs (command s line fs) b root base left := by
  obtain ⟨left, ends, logged⟩ := command_ends loaded succeeds
  rw [isBuild] at ends
  obtain ⟨g, report, built, delivers⟩ := runBuild_ends ends
  obtain ⟨b, root, base, builds, answer⟩ := buildGraph_ends built
  obtain ⟨_, _, made⟩ := builds.made
  have isGraph := Builder.graphOf_built made (Builder.isDirectory_of_built answer) answer
  exact ⟨b, root, base, left, builds, isGraph ▸ delivers, logged.toGrown⟩

section
variable {r : RunResult} {b : Builder} {root : Path} {base : Place} {left : FileSystem}
  (leaves : Leaves s c dir a fs r b root base left)

include leaves

/-- From one build to the next the tree grows, and only where they write. -/
theorem Leaves.grown (s' : Surroundings) :
    Grown (WrittenTo s s' c dir a (opened s' c dir r.files)) r.files (opened s' c dir r.files) ∧
      Grown (WrittenTo s s' c dir a (opened s' c dir r.files)) (opened s c dir fs)
        (opened s' c dir r.files) := by
  have opening : Grown (WrittenTo s s' c dir a (opened s' c dir r.files)) r.files
      (opened s' c dir r.files) := by
    refine (opened_grown s' c dir r.files).mono ?_
    rintro q ⟨p, member, leads⟩
    exact .inr ⟨p, List.mem_append_right _ member, leads⟩
  have logging : Grown (WrittenTo s s' c dir a (opened s' c dir r.files)) left r.files := by
    refine leaves.logged.mono ?_
    rintro q ⟨p, member, leads⟩
    exact .inr ⟨p, List.mem_append_left _ member, opening.leadsTo leads⟩
  have delivery : Grown (WrittenTo s s' c dir a (opened s' c dir r.files)) (opened s c dir fs) left := by
    refine leaves.delivers.grown.mono ?_
    rintro q ⟨unprinted, leads⟩
    exact .inl ⟨unprinted, opening.leadsTo (logging.leadsTo leads)⟩
  exact ⟨opening, (delivery.trans logging).trans opening⟩

/-- What is delivered answers, unless the log is written over it. -/
theorem Leaves.answers (apart : a.stdout = false → ∀ q, r.files.LeadsTo (documentPath c dir a) q →
      ∀ p ∈ logFiles s c dir, ¬r.files.LeadsTo p q) :
    Answers r a (documentPath c dir a)
      ((b.graphOf s.host.clock (opened s c dir fs) root
        (a.repoUrl.getD c.project.repositoryUrl)).toText c.output.pretty) := by
  rw [Answers, leaves.delivers.output]
  split
  · rfl
  · rename_i unprinted
    have unprinted : a.stdout = false := by simpa using unprinted
    obtain ⟨place, found⟩ := leaves.delivers.written unprinted
    have spared : ¬∃ p ∈ logFiles s c dir, r.files.LeadsTo p place := by
      rintro ⟨p, member, leads⟩
      obtain ⟨n, found', _⟩ := leaves.logged.find found
      exact apart unprinted place ⟨n, found'⟩ p member leads
    rw [read_of_find (leaves.logged.find_file found spared)]
    rfl

end

/-- A build of valid settings succeeds if its document can be written. -/
theorem ends_build (isBuild : line.command = .build a) (loaded : loadConfig fs line.config = .ok (c, dir))
    (opens : LogOpens s c dir fs) (valid : (settingsFor a c).validate = []) (unprinted : a.stdout = false)
    {b : Builder} {root : Path} {base : Place} (builds : Builds c dir a (opened s c dir fs) b root base)
    {between left : FileSystem}
    (made : Act.Ends (makeDirectoryOf (documentPath c dir a)) (opened s c dir fs) () between "")
    (wrote : between.write (documentPath c dir a) (Text.encode
      ((b.graphOf s.host.clock (opened s c dir fs) root
        (a.repoUrl.getD c.project.repositoryUrl)).toText c.output.pretty)) = .ok left) :
    (command s line fs).exit = 0 ∧ ∃ records, (command s line fs).files = closed s c dir fs records left := by
  obtain ⟨_, _, isMade⟩ := builds.made
  have built := ends_buildGraph builds (Builder.build_made isMade s.host _ builds.isDirectory)
  have ends := ends_runBuild valid unprinted built made wrote
  exact (ends_command loaded opens isBuild ends).imp_right And.right

/-- The builder that no settings make. -/
def plainBuilder : Builder :=
  ⟨(Pool.ofEntries Registry.builtin.entries).withTimeout none, ({} : Config).buildOptions⟩

theorem plainBuilder_made :
    (Builder.ofRegistry .builtin ({} : Config).buildOptions).value = .ok plainBuilder := by
  rfl

/-- A project without settings, whose builds write a document into a directory that is there. -/
structure Sample (a : BuildArguments) (files : Option Bytes → FileSystem) (root : Path)
    (base : Place) : Prop where
  settings : ∀ document, loadConfig (files document) none = .ok ({}, none)
  valid : (settingsFor a {}).validate = []
  unprinted : a.stdout = false
  builds : ∀ document, Builds {} none a (files document) plainBuilder root base
  ready : ∀ document, Act.Ends (makeDirectoryOf (documentPath {} none a)) (files document) ()
    (files document) ""
  writes : ∀ document content, (files document).write (documentPath {} none a) content =
    .ok (files (some content))

/-- What a build of such a project writes. -/
def Sample.text (s : Surroundings) (a : BuildArguments) (fs : FileSystem) (root : Path) : String :=
  (plainBuilder.graphOf s.host.clock fs root (a.repoUrl.getD "")).toText true

theorem Sample.build {files : Option Bytes → FileSystem} {root : Path} {base : Place}
    (sample : Sample a files root base) (s : Surroundings) (document : Option Bytes) :
    let r := command s { command := .build a } (files document)
    r.exit = 0 ∧ r.files = files (some (Text.encode (Sample.text s a (files document) root))) := by
  have loaded : loadConfig (files document) ({ command := .build a } : CommandLine).config =
      .ok ({}, none) := sample.settings document
  have opens : LogOpens s {} none (files document) := logOpens_of_none rfl
  obtain ⟨exit, _, left⟩ := ends_build rfl loaded opens sample.valid sample.unprinted
    (sample.builds document) (sample.ready document) (sample.writes document _)
  exact ⟨exit, left⟩

theorem Sample.read {files : Option Bytes → FileSystem} {root : Path} {base : Place}
    (sample : Sample a files root base) (content : Bytes) :
    (files (some content)).read (documentPath {} none a) = .ok content := by
  obtain ⟨written, wrote, read⟩ := write_read (sample.writes none content) content
  rw [sample.writes none content] at wrote
  cases wrote
  exact read

/-- A project, and maybe a document beside it. -/
def besideFiles (document : Option Bytes) : FileSystem where
  root := .directory ((Text.encode "p",
      .directory [(Text.encode "x.py", .file (Text.encode "def f(): pass"))]) ::
    document.toList.map fun content => (Text.encode "g", .file content))
  current := []

def besideArguments : BuildArguments :=
  { path := some (.ofString "p"), output := some (.ofString "g") }

theorem sample_beside :
    Sample besideArguments besideFiles (.ofString "/p") [Text.encode "p"] where
  settings document := by cases document <;> cbv
  valid := by cbv
  unprinted := rfl
  builds document := {
    made := ⟨.builtin, rfl, plainBuilder_made⟩
    canonical := by cases document <;> cbv
    found := by cases document <;> exact ⟨_, by cbv, rfl⟩ }
  ready _ := ⟨rfl, rfl, rfl⟩
  writes document _ := by cases document <;> cbv

theorem besideFiles_undisturbed (content : Bytes) :
    plainBuilder.Undisturbed (besideFiles none) (besideFiles (some content))
      (WrittenTo s s' {} none besideArguments (besideFiles (some content))) (.ofString "/p")
      [Text.encode "p"] := by
  have met : plainBuilder.met (besideFiles (some content)) (.ofString "/p") =
      [⟨[], Text.encode "x.py", .file (Text.encode "def f(): pass")⟩] := by
    change Walk.met _ _ ({} : Config).buildOptions.ignoreDirs false = _
    cbv
  have source (document : Option Bytes) : (besideFiles document).find true (.ofString "/p/x.py") =
      .ok ([Text.encode "p", Text.encode "x.py"], some (.file (Text.encode "def f(): pass"))) := by
    cases document <;> cbv
  have written : ∀ q, WrittenTo s s' {} none besideArguments (besideFiles (some content)) q →
      q = [Text.encode "g"] := by
    have document : (besideFiles (some content)).find true (.ofString "g") =
        .ok ([Text.encode "g"], some (.file content)) := by
      cbv
    rintro q (⟨_, _, led⟩ | ⟨_, none, _⟩)
    · have led : (besideFiles (some content)).find true (.ofString "g") = _ := led
      rw [document] at led
      exact (Prod.mk.inj (Except.ok.inj led)).1.symm
    · contradiction
  have path : Entry.path (.ofString "/p") ⟨[], Text.encode "x.py", .file (Text.encode "def f(): pass")⟩ =
      .ofString "/p/x.py" := by
    rfl
  constructor
  · rw [met, List.forall_mem_singleton]
    rfl
  · rw [met, List.forall_mem_singleton, path, pathExists, pathExists, node?, node?, source, source]
    exact id
  · rw [met, List.forall_mem_singleton, path]
    refine fun _ => ⟨fun isWritten => absurd (written _ isWritten) (by decide), ?_⟩
    rintro q ⟨n, led⟩ isWritten
    rw [source, written q isWritten] at led
    exact absurd (Prod.mk.inj (Except.ok.inj led)).1 (by decide)
  · exact fun heeds => absurd heeds Bool.false_ne_true

/-- An empty directory, and maybe a document in it. -/
def insideFiles (document : Option Bytes) : FileSystem where
  root := .directory (document.toList.map fun content => (Text.encode "skeleton_graph.json", .file content))
  current := []

theorem sample_inside : Sample {} insideFiles (.ofString "/") [] where
  settings document := by cases document <;> cbv
  valid := by cbv
  unprinted := rfl
  builds document := {
    made := ⟨.builtin, rfl, plainBuilder_made⟩
    canonical := by cases document <;> cbv
    found := by cases document <;> exact ⟨_, by cbv, rfl⟩ }
  ready _ := ⟨rfl, rfl, rfl⟩
  writes document _ := by cases document <;> cbv

theorem insideFiles_met (document : Option Bytes) : plainBuilder.met (insideFiles document) (.ofString "/") =
    document.toList.map fun content => ⟨[], Text.encode "skeleton_graph.json", .file content⟩ := by
  change Walk.met _ _ ({} : Config).buildOptions.ignoreDirs false = _
  cases document <;> cbv

theorem insideFiles_sources (document : Option Bytes) :
    (plainBuilder.listing (insideFiles document) (.ofString "/")).sources = [] := by
  rw [Builder.listing_sources, insideFiles_met]
  cases document with
  | none => rfl
  | some content =>
    have unsupported : plainBuilder.pool.supportsPath (.ofString "/skeleton_graph.json") = false := by
      decide +kernel
    have path : Entry.path (.ofString "/") ⟨[], Text.encode "skeleton_graph.json", .file content⟩ =
        .ofString "/skeleton_graph.json" := by
      rfl
    have none : Listing.sourceOf? (insideFiles (some content)) plainBuilder.pool (.ofString "/")
        ⟨[], Text.encode "skeleton_graph.json", .file content⟩ = none := by
      rw [Listing.sourceOf?, path, unsupported, Bool.and_false]
      rfl
    exact List.filterMap_cons_none none

theorem insideFiles_names (content : Bytes) :
    (plainBuilder.listing (insideFiles (some content)) (.ofString "/")).directories.get? "/" =
      some ["skeleton_graph.json"] := by
  rw [Builder.listing_names, insideFiles_met]
  cbv

theorem insideFiles_text (s : Surroundings) (document : Option Bytes) :
    Graph.ofText (Sample.text s {} (insideFiles document) (.ofString "/")) =
      .ok {
        repositoryUrl := ""
        files := (plainBuilder.listing (insideFiles document) (.ofString "/")).directories } := by
  rw [Sample.text, Builder.graphOf_of_no_sources (insideFiles_sources document)]
  refine Graph.ofText_toText true ?_ ?_ <;> exact List.forall_mem_nil _

/-- Two builds in succession, of the same settings, that both succeed answer the same, byte for byte, if
the second one sees nothing of what the first one has left: each entry it meets was there, leads nowhere
it did not lead, and is no source that was written, and the rule files it heeds decide the same. -/
theorem repeated_build_same_document {words : List String}
    (parsed : Arguments.parse (s.lookUp? "CODESKEL_REPO_URL") words = .ok line)
    (label : s'.lookUp? "CODESKEL_REPO_URL" = s.lookUp? "CODESKEL_REPO_URL")
    (isBuild : line.command = .build a) (distinct : fs.root.Distinct) :
    let first := Run.words s words fs
    let second := Run.words s' words first.files
    first.exit = 0 → second.exit = 0 →
    loadConfig fs line.config = .ok (c, dir) → loadConfig first.files line.config = .ok (c, dir) →
    Repeatable s s' c dir a fs first.files second.files →
    ∃ text, Answers first a (documentPath c dir a) text ∧ Answers second a (documentPath c dir a) text := by
  intro first second succeeds succeeds' loaded loaded' repeatable
  have isFirst : first = command s line fs := by
    simp only [first, Run.words, parsed]
  have isSecond : second = command s' line first.files := by
    simp only [second, Run.words, label, parsed]
  rw [isFirst] at succeeds
  rw [isSecond] at succeeds'
  obtain ⟨b, root, base, left, leaves⟩ := leaves_of_success isBuild loaded succeeds
  obtain ⟨b', root', base', left', leaves'⟩ := leaves_of_success isBuild loaded' succeeds'
  rw [← isFirst] at leaves
  rw [← isSecond] at leaves'
  obtain ⟨opening, grown⟩ := leaves.grown s'
  obtain ⟨rfl, rfl, rfl⟩ := leaves.builds.again grown leaves'.builds
  obtain ⟨_, found, _⟩ := leaves.builds.found
  have sameGraph := Builder.graphOf_grown grown ((opened_grown s c dir fs).distinct distinct) found
    (repeatable.sight _ _ _ leaves.builds) repeatable.clock (a.repoUrl.getD c.project.repositoryUrl)
  have onward {p : Path} {q : Place} (leads : first.files.LeadsTo p q) : second.files.LeadsTo p q :=
    leaves'.logged.leadsTo (leaves'.delivers.grown.leadsTo (opening.leadsTo leads))
  refine ⟨_, leaves.answers fun unprinted q leads p member leads' => ?_,
    sameGraph ▸ leaves'.answers fun unprinted q leads p member => ?_⟩
  · exact repeatable.apart unprinted q (onward leads) p (List.mem_append_left _ member) (onward leads')
  · exact repeatable.apart unprinted q leads p (List.mem_append_right _ member)

theorem repeated_build_beside_project :
    let s : Surroundings := { today := "" }
    let words := ["build", "--path", "p", "--output", "g"]
    let first := Run.words s words (besideFiles none)
    let second := Run.words s words first.files
    first.exit = 0 ∧ second.exit = 0 ∧ (besideFiles none).root.Distinct ∧
      Repeatable s s {} none besideArguments (besideFiles none) first.files second.files ∧
      ∃ text, Answers first besideArguments (.ofString "g") text ∧
        Answers second besideArguments (.ofString "g") text := by
  intro s words first second
  obtain ⟨exit, files⟩ := sample_beside.build s none
  generalize Text.encode (Sample.text s besideArguments (besideFiles none) (.ofString "/p")) = content at files
  obtain ⟨exit', _⟩ := sample_beside.build s (some content)
  have parsed : Arguments.parse (s.lookUp? "CODESKEL_REPO_URL") words =
      .ok { command := .build besideArguments } := by rfl
  have isFirst : first = command s { command := .build besideArguments } (besideFiles none) := by
    simp only [first, Run.words, parsed]
  have isSecond : second = command s { command := .build besideArguments } (besideFiles (some content)) := by
    simp only [second, Run.words, parsed, isFirst, files]
  have distinct : (besideFiles none).root.Distinct := Node.Everywhere.of_every (by decide +kernel)
  have repeatable : Repeatable s s {} none besideArguments (besideFiles none) first.files second.files := by
    rw [isFirst, files]
    have unchanged : Grown (fun _ => False) (besideFiles none) (besideFiles none) := .refl _
    refine ⟨rfl, fun b root base builds => ?_, fun _ _ _ _ none => absurd none List.not_mem_nil⟩
    obtain ⟨rfl, rfl, rfl⟩ := (sample_beside.builds none).again unchanged builds
    exact besideFiles_undisturbed content
  have loaded' : loadConfig first.files none = .ok ({}, none) := by
    rw [isFirst, files]
    exact sample_beside.settings (some content)
  rw [← isFirst] at exit
  rw [← isSecond] at exit'
  exact ⟨exit, exit', distinct, repeatable, repeated_build_same_document parsed rfl rfl distinct exit exit'
    (sample_beside.settings none) loaded' repeatable⟩

/-- A second build lists the document of the first one. -/
theorem second_build_lists_document :
    let s : Surroundings := { today := "" }
    let first := Run.words s ["build"] (insideFiles none)
    let second := Run.words s ["build"] first.files
    let document : Path := .ofString "skeleton_graph.json"
    first.exit = 0 ∧ second.exit = 0 ∧ ∃ content content', first.files.read document = .ok content ∧
      second.files.read document = .ok content' ∧ content' ≠ content := by
  intro s first second document
  obtain ⟨exit, files⟩ := sample_inside.build s none
  obtain ⟨exit', files'⟩ := sample_inside.build s
    (some (Text.encode (Sample.text s {} (insideFiles none) (.ofString "/"))))
  have parsed : Arguments.parse (s.lookUp? "CODESKEL_REPO_URL") ["build"] = .ok { command := .build {} } := by
    rfl
  have isFirst : first = command s { command := .build {} } (insideFiles none) := by
    simp only [first, Run.words, parsed]
  have isSecond : second = command s { command := .build {} } first.files := by
    simp only [second, Run.words, parsed]
  rw [isFirst, files] at isSecond
  rw [isFirst, files, isSecond, files']
  refine ⟨isFirst ▸ exit, exit', _, _, sample_inside.read _, sample_inside.read _, fun same => ?_⟩
  have texts := congrArg Graph.ofText (Text.encode_injective same)
  rw [insideFiles_text, insideFiles_text] at texts
  have listed := congrArg (Catalog.get? · "/") (Graph.mk.inj (Except.ok.inj texts)).2.1
  have nothing : (plainBuilder.listing (insideFiles none) (.ofString "/")).directories.get? "/" = none := by
    rw [Builder.listing_names, insideFiles_met]
    rfl
  have something := insideFiles_names (Text.encode (Sample.text s {} (insideFiles none) (.ofString "/")))
  exact Option.some_ne_none _ (something.symm.trans (listed.trans nothing))

end Run

end CodeAtlas
