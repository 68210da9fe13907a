import CodeAtlas.Proofs.Document.Enrichment
import CodeAtlas.Proofs.KeyLaw
import CodeAtlas.Proofs.Repeating

namespace CodeAtlas

section
variable {α : Type} [BEq α] [LawfulBEq α]

/-- The parts between separators are without them. -/
theorem notMem_of_mem_splitOn {a : α} {l part : List α} (member : part ∈ l.splitOn a) :
    a ∉ part := by
  induction l generalizing part with
  | nil =>
    rw [List.splitOn_nil, List.mem_singleton] at member
    rw [member]
    exact List.not_mem_nil
  | cons x l ih =>
    rw [List.splitOn_cons_eq_if_modifyHead] at member
    split at member
    · rcases List.mem_cons.mp member with rfl | later
      · exact List.not_mem_nil
      · exact ih later
    · rename_i other
      obtain ⟨first, rest, parts⟩ := List.exists_cons_of_ne_nil (List.splitOn_ne_nil a l)
      rw [parts] at ih member
      rcases List.mem_cons.mp member with rfl | later
      · rw [List.mem_cons, not_or]
        exact ⟨fun same => other (beq_iff_eq.mpr same.symm), ih List.mem_cons_self⟩
      · exact ih (List.mem_cons_of_mem _ later)

end

namespace Text

/-- The lines of a text, each of which a line end closes. -/
def lines (text : String) : List String :=
  (text.toList.splitOn '\n').dropLast.map String.ofList

/-- Texts, each with a line end behind it. -/
def listed (texts : List String) : String :=
  String.join (texts.map (· ++ "\n"))

/-- The parts of a text between line ends. -/
def parts (text : String) : List String :=
  (text.toList.splitOn '\n').map String.ofList

theorem parts_eq_singleton {text : String} (whole : '\n' ∉ text.toList) : parts text = [text] := by
  rw [parts, List.splitOn_eq_singleton whole, List.map_singleton, String.ofList_toList]

/-- A text takes as many lines as it has parts. -/
theorem lines_listed (texts : List String) : lines (listed texts) = texts.flatMap parts := by
  induction texts with
  | nil => rfl
  | cons text texts ih =>
    have chars :
        (listed (text :: texts)).toList = text.toList ++ '\n' :: (listed texts).toList := by
      simp [listed]
    rw [lines, chars, List.splitOn_append_cons_self,
      List.dropLast_append_of_ne_nil (List.splitOn_ne_nil _ _), List.map_append, List.flatMap_cons]
    exact congrArg (parts text ++ ·) ih

/-- The lines are the texts if none of them holds a line end. -/
theorem lines_listed_eq {texts : List String} :
    lines (listed texts) = texts ↔ ∀ text ∈ texts, '\n' ∉ text.toList := by
  constructor
  · intro same text member
    rw [← same, lines_listed, List.mem_flatMap] at member
    obtain ⟨_, _, part⟩ := member
    obtain ⟨chars, inside, rfl⟩ := List.mem_map.mp part
    rw [String.toList_ofList]
    exact notMem_of_mem_splitOn inside
  · intro whole
    rw [lines_listed]
    induction texts with
    | nil => rfl
    | cons text texts ih =>
      obtain ⟨first, rest⟩ := List.forall_mem_cons.mp whole
      rw [List.flatMap_cons, parts_eq_singleton first, ih rest, List.singleton_append]

end Text

namespace Graph

variable {g : Graph}

/-- Numbers are written without line ends, so that a key holds none but those of its base. -/
theorem Numbered.newline_mem {key : String} {r : FunctionRecord} (law : g.Numbered key r) :
    '\n' ∈ key.toList ↔ '\n' ∈ r.filePath.toList ∨ '\n' ∈ r.functionName.toList := by
  have base : '\n' ∈ r.base.toList ↔ '\n' ∈ r.filePath.toList ∨ '\n' ∈ r.functionName.toList := by
    simp [FunctionRecord.base, baseKey]
  rcases law.suffix with rfl | ⟨n, _, _, rfl, _⟩
  · exact base
  · have digits : '\n' ∉ Nat.toDigits 10 n := fun member =>
      absurd (Nat.isDigit_of_mem_toDigits (by decide) (by decide) member) (by decide)
    rw [← base, String.toList_append, String.toList_append]
    simp [digits]

/-- The keys hold no line ends if the paths and the names of the records do not. -/
theorem Lawful.newline_free (law : g.Lawful) :
    (∀ key ∈ g.functions.names, '\n' ∉ key.toList) ↔
      ∀ r ∈ g.records, '\n' ∉ r.filePath.toList ∧ '\n' ∉ r.functionName.toList := by
  rw [Catalog.names, records, List.forall_mem_map, List.forall_mem_map]
  refine forall₂_congr fun e member => ?_
  rw [(law e.1 e.2 member).newline_mem, not_or]

theorem pending_eq (none : ∀ r ∈ g.records, r.summary = none) : g.pending = g.functions.entries :=
  List.filter_eq_self.mpr fun e member => by rw [none e.2 (List.mem_map_of_mem member)]; rfl

theorem ofText_toText_of_pending (none : ∀ r ∈ g.records, r.summary = none) (pretty : Bool) :
    ofText (g.toText pretty) = .ok g := by
  refine ofText_toText pretty (fun e member => ?_) fun e member j attached => ?_
  · rw [none e.2 (List.mem_map_of_mem member)]
    exact nofun
  · rw [none e.2 (List.mem_map_of_mem member)] at attached
    contradiction

end Graph

namespace Command

open Act

/-- Where a run looks for the graph whose work it lists. -/
def queuePath (c : Config) (dir graph : Option Path) : Path :=
  graph.getD (c.resolveOutput dir)

/-- A graph that is found is listed by the keys of what is pending. -/
theorem ends_listPending {c : Config} {dir graph : Option Path} {fs : FileSystem} {g : Graph}
    (read : Graph.readFrom fs (queuePath c dir graph) = .ok g) :
    Ends (listPending c dir graph) fs () fs (Text.listed (g.pending.map (·.1))) := by
  have found : (Graph.readFrom fs (queuePath c dir graph)).mapError (DocumentError.failure
      ("Failed to read graph: " ++ (queuePath c dir graph).display)) = .ok g := by
    rw [read]
    rfl
  have printed : String.join (g.pending.map (·.1 ++ "\n")) =
      Text.listed (g.pending.map (·.1)) := by
    rw [Text.listed, List.map_map]
    rfl
  refine (Quiet.files.ends rfl).bind (((Quiet.ofExcept _).ends found).bind ?_)
  exact ⟨rfl, rfl, (String.append_empty ..).trans printed⟩

end Command

namespace Builder

variable {b : Builder} {clock : Clock} {fs : FileSystem} {root : Path} {url : String}

theorem graphOf_lawful : (b.graphOf clock fs root url).Lawful := by
  rw [graphOf, merge_value]
  exact (Graph.lawful_of_empty (Graph.ofListing_functions _ _)).insertAll _

theorem graphOf_pending : ∀ r ∈ (b.graphOf clock fs root url).records, r.summary = none :=
  (b.merge_accounts _ _ _).pending

end Builder

namespace Run

open Command

variable {s s' : Surroundings} {line line' : CommandLine} {a : BuildArguments} {c c' : Config}
  {dir dir' graph : Option Path} {fs fs' : FileSystem}

/-- The document of a build is what a path leads to, and no log was written over it. -/
structure Handed (s : Surroundings) (c : Config) (dir : Option Path) (a : BuildArguments)
    (left fs : FileSystem) (p : Path) : Prop where
  apart : ∀ q, left.LeadsTo (documentPath c dir a) q → ∀ log ∈ logFiles s c dir, ¬left.LeadsTo log q
  same : fs.read p = left.read (documentPath c dir a)

/-- A run has listed the keys of a graph, none of whose functions has a summary. -/
structure ListsKeys (r : RunResult) (g : Graph) : Prop where
  exit : r.exit = 0
  output : r.output = Text.listed g.functions.names
  pending : g.pending.map (·.1) = g.functions.names
  ascending : g.functions.names.Pairwise (· < ·)

/-- A document is listed by the keys of its graph if nothing has a summary yet. -/
theorem listsKeys {g : Graph} (isPending : line.command = .pending graph)
    (loaded : loadConfig fs line.config = .ok (c, dir)) (opens : LogOpens s c dir fs)
    (none : ∀ r ∈ g.records, r.summary = none)
    {pretty : Bool} (document : (opened s c dir fs).read (queuePath c dir graph) =
      .ok (Text.encode (g.toText pretty))) : ListsKeys (command s line fs) g := by
  have read : Graph.readFrom (opened s c dir fs) (queuePath c dir graph) = .ok g := by
    rw [Graph.readFrom, FileSystem.readText, document]
    simp only [bind, Except.bind, Text.decode?_encode]
    exact Graph.ofText_toText_of_pending none pretty
  have pending : g.pending.map (·.1) = g.functions.names := by
    rw [Graph.pending_eq none, Catalog.names]
  obtain ⟨exit, printed, _⟩ := ends_command loaded opens isPending (ends_listPending read)
  exact ⟨exit, pending ▸ printed, pending, pending ▸ g.pending_ascending⟩

/-- What a build has written is listed key by key in ascending order by a run whose log opens, with as
many lines for each key as it has parts. The lines are the keys unless the path of a file or the name of a
function holds a line end. -/
theorem pending_lists_keys {words words' : List String}
    (parsed : Arguments.parse (s.lookUp? "CODESKEL_REPO_URL") words = .ok line)
    (parsed' : Arguments.parse (s'.lookUp? "CODESKEL_REPO_URL") words' = .ok line')
    (isBuild : line.command = .build a) (isPending : line'.command = .pending graph)
    (unprinted : a.stdout = false) :
    let first := Run.words s words fs
    let second := Run.words s' words' fs'
    first.exit = 0 →
    loadConfig fs line.config = .ok (c, dir) → loadConfig fs' line'.config = .ok (c', dir') →
    LogOpens s' c' dir' fs' →
    Handed s c dir a first.files (opened s' c' dir' fs') (queuePath c' dir' graph) →
    ∃ b root base g report, Builds c dir a (opened s c dir fs) b root base ∧
      (b.build s.host (opened s c dir fs) root
        (a.repoUrl.getD c.project.repositoryUrl)).value.1 = .ok (g, report) ∧
      ListsKeys second g ∧
      Text.lines second.output = g.functions.names.flatMap Text.parts ∧
      (Text.lines second.output = g.functions.names ↔
        ∀ r ∈ g.records, '\n' ∉ r.filePath.toList ∧ '\n' ∉ r.functionName.toList) := by
  intro first second succeeds loaded loaded' opens handed
  have isFirst : first = command s line fs := words_of_parsed parsed
  have isSecond : second = command s' line' fs' := words_of_parsed parsed'
  rw [isFirst] at succeeds
  obtain ⟨b, root, base, left, leaves⟩ := leaves_of_success isBuild loaded succeeds
  rw [← isFirst] at leaves
  obtain ⟨_, _, made⟩ := leaves.builds.made
  have document := leaves.answers fun _ => handed.apart
  rw [Answers, if_neg (by simp [unprinted]), ← handed.same] at document
  -- No build attaches a summary, so that every key is pending.
  have lists := listsKeys (s := s') isPending loaded' opens Builder.graphOf_pending document
  have built := Builder.build_made made s.host (a.repoUrl.getD c.project.repositoryUrl)
    leaves.builds.isDirectory
  refine ⟨b, root, base, _, _, leaves.builds, built, isSecond ▸ lists, ?_, ?_⟩
  · rw [isSecond, lists.output]
    exact Text.lines_listed _
  · rw [isSecond, lists.output]
    exact Text.lines_listed_eq.trans Builder.graphOf_lawful.newline_free

theorem pending_lists_keys_beside_project :
    let s : Surroundings := { today := "" }
    let first := Run.words s ["build", "--path", "p", "--output", "g"] (besideFiles none)
    let second := Run.words s ["pending", "--graph", "g"] first.files
    first.exit = 0 ∧ LogOpens s {} none first.files ∧
      Handed s {} none besideArguments first.files first.files (.ofString "g") ∧
      ∃ g, ListsKeys second g ∧ Text.lines second.output = g.functions.names.flatMap Text.parts ∧
        (Text.lines second.output = g.functions.names ↔
          ∀ r ∈ g.records, '\n' ∉ r.filePath.toList ∧ '\n' ∉ r.functionName.toList) := by
  intro s first second
  obtain ⟨exit, files⟩ := sample_beside.build s none
  have parsed : Arguments.parse (s.lookUp? "CODESKEL_REPO_URL")
      ["build", "--path", "p", "--output", "g"] = .ok { command := .build besideArguments } := by rfl
  have parsed' : Arguments.parse (s.lookUp? "CODESKEL_REPO_URL") ["pending", "--graph", "g"] =
      .ok { command := .pending (some (.ofString "g")) } := by rfl
  have isFirst : first = command s { command := .build besideArguments } (besideFiles none) :=
    words_of_parsed parsed
  have loaded' : loadConfig first.files none = .ok ({}, none) := by
    rw [isFirst, files]
    exact sample_beside.settings (some _)
  have handed : Handed s {} none besideArguments first.files first.files (.ofString "g") :=
    ⟨fun _ _ _ none => absurd none List.not_mem_nil, rfl⟩
  rw [← isFirst] at exit
  obtain ⟨_, _, _, g, _, _, _, lists⟩ := pending_lists_keys parsed parsed' rfl rfl rfl exit
    (sample_beside.settings none) loaded' (logOpens_of_none rfl) handed
  exact ⟨exit, logOpens_of_none rfl, handed, g, lists⟩

/-- A method whose computed name takes three lines. -/
def brokenMethod : ExtractedFunction :=
  ⟨"[\nx\n]", "[\nx\n]() \x7b\x7d", .empty⟩

/-- The source of such a method, and a document beside it. -/
def brokenFiles (document : Bytes) : FileSystem where
  root := .directory [
    (Text.encode "a.js", .file (Text.encode ("class A \x7b " ++ brokenMethod.snippet ++ " \x7d"))),
    (Text.encode "g", .file document)]
  current := []

/-- Its key is broken up. -/
theorem pending_breaks_key :
    let s : Surroundings := { today := "" }
    let g := Graph.insertAll { repositoryUrl := "" } [("a.js", brokenMethod)]
    let r := Run.words s ["pending", "--graph", "g"] (brokenFiles (Text.encode (g.toText true)))
    ListsKeys r g ∧ g.functions.names = ["a.js::[\nx\n]"] ∧
      Text.lines r.output = ["a.js::[", "x", "]"] := by
  intro s g r
  have parsed : Arguments.parse (s.lookUp? "CODESKEL_REPO_URL") ["pending", "--graph", "g"] =
      .ok { command := .pending (some (.ofString "g")) } := by rfl
  have isRun : r = command s { command := .pending (some (.ofString "g")) }
      (brokenFiles (Text.encode (g.toText true))) := words_of_parsed parsed
  have loaded (document : Bytes) : loadConfig (brokenFiles document) none = .ok ({}, none) := by
    cbv
  have read (document : Bytes) : (brokenFiles document).read (.ofString "g") = .ok document := by
    cbv
  have lists : ListsKeys r g := isRun ▸ listsKeys rfl (loaded _) (logOpens_of_none rfl) (by decide) (read _)
  have names : g.functions.names = ["a.js::[\nx\n]"] := by decide
  refine ⟨lists, names, ?_⟩
  rw [lists.output, Text.lines_listed, names]
  decide

end Run

end CodeAtlas
