import CodeAtlas.Proofs.Accounting
import CodeAtlas.Proofs.Document.Settling

namespace CodeAtlas

inductive Enrichment where
  | attach (key : String) (summary : Json)
  /-- The graph is written, indented or in one line, and read again. -/
  | reload (pretty : Bool)

namespace Graph

def enrich (g : Graph) : Enrichment → Except DocumentError Graph
  | .attach key summary => .ok (g.attachSummary key summary).2
  | .reload pretty => ofText (g.toText pretty)

def enrichAll (g : Graph) (run : List Enrichment) : Except DocumentError Graph :=
  run.foldlM enrich g

/-- The graph without its summaries. -/
def bare (g : Graph) : Graph where
  repositoryUrl := g.repositoryUrl
  files := g.files
  functions.entries := g.functions.entries.map fun e => (e.1, { e.2 with summary := none })
  functions.ascending := List.pairwise_map.mpr g.functions.ascending

end Graph

namespace Enrichment

/-- The summary of a key's function after a step. -/
def after (key : String) : Enrichment → Option Json → Option Json
  | attach other summary, old => if other = key then some summary else old
  | reload _, some .null => none
  | reload _, old => old

def afterAll (key : String) (run : List Enrichment) (old : Option Json) : Option Json :=
  run.foldl (fun summary step => step.after key summary) old

def Untouched (key : String) (run : List Enrichment) : Prop :=
  ∀ summary, attach key summary ∉ run

/-- The last summary attached to a key is `null`, and the graph is read again after that. -/
def NullLeft (key : String) (run : List Enrichment) : Prop :=
  ∃ before later, run = before ++ attach key .null :: later ∧ Untouched key later ∧
    ∃ pretty, reload pretty ∈ later

variable {key : String} {step : Enrichment} {run : List Enrichment}

theorem untouched_cons :
    Untouched key (step :: run) ↔ (∀ summary, step ≠ attach key summary) ∧ Untouched key run := by
  simp only [Untouched, List.mem_cons, not_or, forall_and, eq_comm]

theorem after_untouched (untouched : ∀ summary, step ≠ attach key summary) {old : Option Json}
    (notNull : old ≠ some .null) : step.after key old = old := by
  cases step with
  | attach other summary =>
    rw [after, if_neg]
    rintro rfl
    exact untouched summary rfl
  | reload pretty =>
    rw [after]
    exact notNull

theorem afterAll_untouched (untouched : Untouched key run) {old : Option Json}
    (notNull : old ≠ some .null) : afterAll key run old = old := by
  induction run with
  | nil => rfl
  | cons step run ih =>
    obtain ⟨here, untouched⟩ := untouched_cons.mp untouched
    rw [afterAll, List.foldl_cons, after_untouched here notNull]
    exact ih untouched

/-- A `null` stays until the graph is read again. -/
theorem afterAll_null (untouched : Untouched key run) :
    afterAll key run (some .null) = none ↔ ∃ pretty, reload pretty ∈ run := by
  induction run with
  | nil => simp [afterAll]
  | cons step run ih =>
    obtain ⟨here, later⟩ := untouched_cons.mp untouched
    cases step with
    | attach other summary =>
      have elsewhere : other ≠ key := by
        rintro rfl
        exact here summary rfl
      rw [afterAll, List.foldl_cons, after, if_neg elsewhere]
      refine (ih later).trans ?_
      simp only [List.mem_cons, reduceCtorEq, false_or]
    | reload pretty =>
      have missing : afterAll key run none = none := afterAll_untouched later (by simp)
      exact iff_of_true missing ⟨pretty, List.mem_cons_self⟩

theorem afterAll_last (before later : List Enrichment) (summary : Json) (old : Option Json) :
    afterAll key (before ++ attach key summary :: later) old = afterAll key later (some summary) := by
  rw [afterAll, List.foldl_append, List.foldl_cons, after, if_pos rfl, afterAll]

theorem untouched_or_last (key : String) (run : List Enrichment) :
    Untouched key run ∨ ∃ before summary later, run = before ++ attach key summary :: later ∧
      Untouched key later := by
  induction run with
  | nil => exact .inl fun _ => List.not_mem_nil
  | cons step run ih =>
    rcases ih with untouched | ⟨before, summary, later, rfl, untouched⟩
    · by_cases here : ∃ summary, step = attach key summary
      · obtain ⟨summary, rfl⟩ := here
        exact .inr ⟨[], summary, run, rfl, untouched⟩
      · exact .inl (untouched_cons.mpr ⟨not_exists.mp here, untouched⟩)
    · exact .inr ⟨step :: before, summary, later, rfl, untouched⟩

/-- A summary is missing after a run if it was before and none was attached, or if a `null` was, which
then was read as nothing. -/
theorem afterAll_eq_none {old : Option Json} (notNull : old ≠ some .null) :
    afterAll key run old = none ↔ Untouched key run ∧ old = none ∨ NullLeft key run := by
  constructor
  · intro missing
    rcases untouched_or_last key run with untouched | ⟨before, summary, later, rfl, untouched⟩
    · exact .inl ⟨untouched, (afterAll_untouched untouched notNull).symm.trans missing⟩
    · rw [afterAll_last] at missing
      by_cases null : summary = .null
      · subst null
        exact .inr ⟨before, later, rfl, untouched, (afterAll_null untouched).mp missing⟩
      · rw [afterAll_untouched untouched fun same => null (Option.some.inj same)] at missing
        cases missing
  · rintro (⟨untouched, rfl⟩ | ⟨before, later, rfl, untouched, read⟩)
    · exact afterAll_untouched untouched notNull
    · rw [afterAll_last]
      exact (afterAll_null untouched).mpr read

end Enrichment

theorem Catalog.get?_alter {α : Type} (c : Catalog α) (name : String) (f : α → α) (other : String) :
    (c.alter name f).get? other = if other = name then (c.get? name).map f else c.get? other := by
  cases given : c.get? name with
  | some a =>
    simp only [alter, given]
    exact c.get?_insert name (f a) other
  | none =>
    simp only [alter, given]
    split
    · rename_i same
      rw [same, given, Option.map_none]
    · rfl

theorem Catalog.get?_map {α β : Type} {c : Catalog α} {d : Catalog β} (f : α → β)
    (entries : d.entries = c.entries.map fun e => (e.1, f e.2)) (name : String) :
    d.get? name = (c.get? name).map f := by
  rw [get?, get?, entries, List.find?_map, Option.map_map, Option.map_map]
  rfl

namespace Graph

open Enrichment

variable {g g' g'' : Graph} {step : Enrichment} {run : List Enrichment}

/-- A graph and what became of it: its summaries may be other ones. -/
structure Became (g g' : Graph) (after : String → Option Json → Option Json) : Prop where
  url : g'.repositoryUrl = g.repositoryUrl
  files : g'.files = g.files
  functions : ∀ key, g'.functions.get? key =
    (g.functions.get? key).map fun r => { r with summary := after key r.summary }

section

variable {first second : String → Option Json → Option Json}

theorem Became.trans (became : Became g g' first) (thereupon : Became g' g'' second) :
    Became g g'' fun key old => second key (first key old) where
  url := thereupon.url.trans became.url
  files := thereupon.files.trans became.files
  functions key := by
    rw [thereupon.functions, became.functions, Option.map_map]
    rfl

theorem Became.has (became : Became g g' first) (key : String) :
    g'.functions.has key = g.functions.has key := by
  rw [Catalog.has_eq_isSome, Catalog.has_eq_isSome, became.functions, Option.isSome_map]

theorem Became.bare (became : Became g g' first) : g'.bare = g.bare := by
  have functions : g'.bare.functions = g.bare.functions := by
    refine Catalog.ext_of_get? fun key => ?_
    let summaryless (r : FunctionRecord) : FunctionRecord := { r with summary := none }
    have lookup (g : Graph) : g.bare.functions.get? key = (g.functions.get? key).map summaryless :=
      Catalog.get?_map summaryless rfl key
    rw [lookup, lookup, became.functions, Option.map_map]
    rfl
  change Graph.mk g'.repositoryUrl g'.files g'.bare.functions =
    Graph.mk g.repositoryUrl g.files g.bare.functions
  rw [became.url, became.files, functions]

end

theorem storable_iff : g.Storable ↔
    ∀ key r, g.functions.get? key = some r → r.Storable summaryLevels := by
  constructor
  · exact fun storable key r given => storable (key, r) (Catalog.get?_eq_some.mp given)
  · exact fun storable e member => storable e.1 e.2 (Catalog.get?_eq_some.mpr member)

theorem became_attach (g : Graph) (key : String) (summary : Json) :
    Became g (g.attachSummary key summary).2 fun other => (attach key summary).after other := by
  rw [attachSummary]
  split
  · refine ⟨rfl, rfl, fun other => (Catalog.get?_alter ..).trans ?_⟩
    split
    · rename_i same
      subst same
      simp only [after, if_true]
    · rename_i different
      simp only [after, if_neg (Ne.symm different)]
      exact Option.map_id'.symm
  · rename_i missing
    refine ⟨rfl, rfl, fun other => ?_⟩
    by_cases same : other = key
    · rw [Catalog.has_eq_isSome, Bool.not_eq_true, Option.isSome_eq_false_iff, Option.isNone_iff_eq_none] at missing
      rw [same, missing, Option.map_none]
    · simp only [after, if_neg (Ne.symm same)]
      exact Option.map_id'.symm

theorem Storable.attached (storable : g.Storable) (key : String) {summary : Json}
    (storableSummary : summary.Storable summaryLevels) : (g.attachSummary key summary).2.Storable := by
  refine storable_iff.mpr fun other r given j attached => ?_
  rw [(became_attach g key summary).functions] at given
  obtain ⟨old, before, rfl⟩ := Option.map_eq_some_iff.mp given
  simp only [after] at attached
  split at attached
  · cases attached
    exact storableSummary
  · exact storable_iff.mp storable other old before j attached

theorem became_settled (g : Graph) (pretty : Bool) :
    Became g g.settled fun key => (reload pretty).after key where
  url := rfl
  files := rfl
  functions key := by
    rw [Catalog.get?_map FunctionRecord.settled (d := g.settled.functions) rfl]
    congr 1
    funext r
    obtain ⟨_, _, _, _, summary⟩ := r
    rcases summary with _ | _ | _ <;> rfl

end Graph

/-- What a step attaches can be written. -/
def Enrichment.Storable : Enrichment → Prop
  | attach _ summary => summary.Storable Graph.summaryLevels
  | reload _ => True

namespace Graph

open Enrichment

variable {g : Graph} {step : Enrichment} {run : List Enrichment}

/-- A graph that can be written takes a step, and can be written after it. -/
theorem enrich_done (storable : g.Storable) (storableStep : step.Storable) :
    ∃ g', g.enrich step = .ok g' ∧ g'.Storable ∧ Became g g' fun key => step.after key := by
  cases step with
  | attach key summary => exact ⟨_, rfl, storable.attached key storableStep, became_attach g key summary⟩
  | reload pretty =>
    have read : ofText (g.toText pretty) = .ok g.settled := by
      rw [← toText_settled]
      exact ofText_toText pretty g.settled_settled storable.settled
    exact ⟨_, read, storable.settled, became_settled g pretty⟩

theorem enrichAll_done (storable : g.Storable) (storableSteps : ∀ step ∈ run, step.Storable) :
    ∃ g', g.enrichAll run = .ok g' ∧ Became g g' fun key => afterAll key run := by
  induction run generalizing g with
  | nil => exact ⟨g, rfl, rfl, rfl, fun key => Option.map_id'.symm⟩
  | cons step run ih =>
    obtain ⟨storableStep, storableSteps⟩ := List.forall_mem_cons.mp storableSteps
    obtain ⟨g', done, storable', became⟩ := enrich_done storable storableStep
    obtain ⟨g'', allDone, becameLater⟩ := ih storable' storableSteps
    refine ⟨g'', ?_, became.trans becameLater⟩
    rw [enrichAll, List.foldlM_cons, done]
    exact allDone

theorem attachSummary_answer (g : Graph) (key : String) (summary : Json) :
    (g.attachSummary key summary).1 = g.functions.has key := by
  rw [attachSummary]
  split
  · rename_i there
    exact there.symm
  · rename_i missing
    exact (Bool.not_eq_true _ ▸ missing).symm

theorem attachSummary_missing {key : String} (missing : g.functions.has key = false) (summary : Json) :
    (g.attachSummary key summary).2 = g := by
  rw [attachSummary, if_neg (by simp [missing])]

theorem mem_pending {key : String} :
    key ∈ g.pending.map (·.1) ↔ ∃ r, g.functions.get? key = some r ∧ r.summary = none := by
  simp only [pending, List.mem_map, List.mem_filter, Option.isNone_iff_eq_none]
  constructor
  · rintro ⟨⟨_, r⟩, ⟨member, nothing⟩, rfl⟩
    exact ⟨r, Catalog.get?_eq_some.mpr member, nothing⟩
  · rintro ⟨r, given, nothing⟩
    exact ⟨(key, r), ⟨Catalog.get?_eq_some.mp given, nothing⟩, rfl⟩

theorem pending_ascending (g : Graph) : (g.pending.map (·.1)).Pairwise (· < ·) :=
  List.pairwise_map.mpr (g.functions.ascending.filter _)

theorem settled_of_build {host : Host} {fs : FileSystem} {b : Builder} {root : Path} {url : String}
    {report : BuildReport} (built : (b.build host fs root url).value.1 = .ok (g, report)) : g.Settled := by
  by_cases isDirectory : fs.isDirectory root = true
  · rw [b.build_value host url isDirectory, Except.ok.injEq] at built
    generalize (Analysis.run _ _ _ _ _ _).value.1 = outcomes at built
    have pending := (b.merge_accounts (b.listing fs root) url outcomes).pending
    rw [built] at pending
    intro e member
    rw [pending e.2 (List.mem_map_of_mem member)]
    simp
  · simp only [Builder.build, isDirectory] at built
    cases built

/-- Whatever is attached in whatever order, and however often the graph is written and read in between,
the graph stays what it was but for its summaries: an attachment finds its function if the graph had it
from the start and changes nothing else, and what is pending in the end is what was pending and left
alone, and what was given a `null` that was then read as nothing. No graph that is built or read has a
`null` to begin with. -/
theorem pending_after_any_run :
    (∀ (host : Host) (fs : FileSystem) (b : Builder) (root : Path) (url : String) (g : Graph)
        (report : BuildReport), (b.build host fs root url).value.1 = .ok (g, report) → g.Settled) ∧
      (∀ (text : String) (g : Graph), ofText text = .ok g → g.Settled) ∧
      ∀ (g : Graph) (run : List Enrichment), g.Settled → g.Storable → (∀ step ∈ run, step.Storable) →
        (∀ before key summary later, run = before ++ attach key summary :: later →
          ∃ h, g.enrichAll before = .ok h ∧ (h.attachSummary key summary).1 = g.functions.has key ∧
            (g.functions.has key = false → (h.attachSummary key summary).2 = h)) ∧
        ∃ g', g.enrichAll run = .ok g' ∧ g'.bare = g.bare ∧ (g'.pending.map (·.1)).Pairwise (· < ·) ∧
          ∀ key, key ∈ g'.pending.map (·.1) ↔ g.functions.has key = true ∧
            (Untouched key run ∧ key ∈ g.pending.map (·.1) ∨ NullLeft key run) := by
  refine ⟨fun _ _ _ _ _ _ _ => settled_of_build, fun _ _ => settled_of_ofText, ?_⟩
  intro g run settled storable storableSteps
  constructor
  · rintro before key summary later rfl
    obtain ⟨h, done, became⟩ := enrichAll_done storable (List.forall_mem_append.mp storableSteps).1
    refine ⟨h, done, (attachSummary_answer h key summary).trans (became.has key), fun missing => ?_⟩
    exact attachSummary_missing ((became.has key).trans missing) summary
  · obtain ⟨g', done, became⟩ := enrichAll_done storable storableSteps
    refine ⟨g', done, became.bare, g'.pending_ascending, fun key => ?_⟩
    rw [mem_pending, mem_pending, Catalog.has_eq_isSome]
    cases given : g.functions.get? key with
    | none => simp [became.functions, given]
    | some r =>
      have notNull : r.summary ≠ some .null := settled (key, r) (Catalog.get?_eq_some.mp given)
      simp [became.functions, given, afterAll_eq_none notNull]

/-- Of three functions, one is given a `null` that is read as nothing, one a text, and one a `null` that
is not read again; a fourth key is not there. -/
theorem pending_after_run_with_null :
    let fs : FileSystem := ⟨.directory [], []⟩
    let root : Path := ⟨[Path.slash]⟩
    let b : Builder := ⟨{}, {}⟩
    let f (name : String) : FunctionRecord := ⟨"a.py", name, "", .empty, none⟩
    let g : Graph := ⟨"url", .empty, .ofList [("a", f "a"), ("b", f "b"), ("c", f "c")]⟩
    let before := [attach "a" .null, attach "b" (.string "x")]
    let later := [reload true, attach "c" .null]
    (∃ g report, (b.build {} fs root "url").value.1 = .ok (g, report) ∧ g.Settled) ∧
      ofText (g.toText false) = .ok g ∧ g.Settled ∧
      (∃ h, g.enrichAll before = .ok h ∧ (h.attachSummary "d" .null).1 = false ∧
        (h.attachSummary "d" .null).2 = h) ∧
      ∃ g', g.enrichAll (before ++ attach "d" .null :: later) = .ok g' ∧ g'.bare = g.bare ∧
        "a" ∈ g'.pending.map (·.1) ∧ "b" ∉ g'.pending.map (·.1) ∧ "c" ∉ g'.pending.map (·.1) := by
  intro fs root b f g before later
  have isDirectory : fs.isDirectory root = true := by cbv
  have entries : g.functions.entries = [("a", f "a"), ("b", f "b"), ("c", f "c")] := by rfl
  have settled : g.Settled := by simp [Settled, entries, f]
  have storable : g.Storable := by simp [Storable, entries, f, FunctionRecord.Storable]
  have null : Json.null.Storable summaryLevels := ⟨trivial, trivial, by decide⟩
  have text : (Json.string "x").Storable summaryLevels := ⟨trivial, trivial, by decide⟩
  have read : ofText (g.toText false) = .ok g := ofText_toText false settled storable
  obtain ⟨ofBuild, ofRead, ofRun⟩ := pending_after_any_run
  obtain ⟨answers, g', done, bare, -, pending⟩ := ofRun g (before ++ attach "d" .null :: later) settled storable
    (by simp [before, later, Enrichment.Storable, null, text])
  obtain ⟨h, reached, missing, unchanged⟩ := answers before "d" .null later rfl
  have absent : g.functions.has "d" = false := by rfl
  have filled (key : String) (there : afterAll key (before ++ attach "d" .null :: later) none ≠ none) :
      key ∉ g'.pending.map (·.1) := by
    intro member
    refine there ((afterAll_eq_none (by simp)).mpr ?_)
    exact ((pending key).mp member).2.imp_left fun left => ⟨left.1, rfl⟩
  refine ⟨⟨_, _, b.build_value {} "url" isDirectory, ofBuild _ _ b root "url" _ _
    (b.build_value {} "url" isDirectory)⟩, read, ofRead _ g read,
    ⟨h, reached, missing.trans absent, unchanged absent⟩, g', done, bare, ?_, ?_, ?_⟩
  · refine (pending "a").mpr ⟨rfl, .inr ⟨[], attach "b" (.string "x") :: attach "d" .null :: later, rfl, ?_, ?_⟩⟩
    · simp [Untouched, later]
    · exact ⟨true, by simp [later]⟩
  · exact filled "b" (by simp [afterAll, after, before, later])
  · exact filled "c" (by simp [afterAll, after, before, later])

end Graph

end CodeAtlas
