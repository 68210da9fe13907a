import CodeAtlas.Proofs.Document.RoundTrip

namespace CodeAtlas

namespace JsonText

variable {α : Type} {shows : JsonText → α → Prop} {values : List JsonText} {a missing : α}

theorem Given.length (given : Given shows values a) : values.length = 1 := by
  obtain ⟨t, rfl, -⟩ := given
  rfl

theorem GivenOr.length (given : GivenOr missing shows values a) : values.length ≤ 1 := by
  rcases given with ⟨rfl, -⟩ | given
  · exact Nat.zero_le 1
  · exact Nat.le_of_eq given.length

/-- An object that lacks a field it must have, or has a field twice. -/
inductive Flawed (required optional : List String) : JsonText → Prop where
  | lacks {members : List (Member JsonText)} (close : Gap) (name : String) (needed : name ∈ required)
      (none : valuesOf name members = []) : Flawed required optional (.object members close)
  | repeats {members : List (Member JsonText)} (close : Gap) (name : String)
      (known : name ∈ required ++ optional) (twice : 2 ≤ (valuesOf name members).length) :
      Flawed required optional (.object members close)

/-- No object is flawed whose required fields are given once and whose others at most once. -/
theorem not_flawed {required optional : List String} {members : List (Member JsonText)} {close : Gap}
    (once : ∀ name ∈ required, (valuesOf name members).length = 1)
    (atMost : ∀ name ∈ optional, (valuesOf name members).length ≤ 1) :
    ¬Flawed required optional (.object members close) := by
  rintro (⟨_, name, needed, none⟩ | ⟨_, name, known, twice⟩)
  · have given := once name needed
    rw [none] at given
    contradiction
  · rcases List.mem_append.mp known with needed | known
    · exact absurd (once name needed) (Nat.ne_of_gt twice)
    · exact absurd (atMost name known) (Nat.not_le_of_gt twice)

end JsonText

open JsonText

namespace FunctionRecord

def Flawed (t : JsonText) : Prop :=
  t.Flawed ["file_path", "function_name", "code_snippet", "calls"] ["summary"]

theorem Presents.sound {levels : Nat} {t : JsonText} {r : FunctionRecord} (presents : Presents levels t r) :
    ¬Flawed t := by
  cases presents with
  | object members close named fields =>
    refine not_flawed ?_ ?_
    · simpa using ⟨fields.filePath.length, fields.functionName.length, fields.codeSnippet.length,
        fields.calls.length⟩
    · simpa using fields.summary.length
  | array => exact nofun

end FunctionRecord

namespace Graph

/-- The values that stand for the functions of a graph. -/
def functionsOf : JsonText → List JsonText
  | .object members _ => valuesOf "functions" members
  | .array items _ => ((items.map (·.value)).drop 2).take 1
  | _ => []

/-- The values that stand for its records, those of a repeated key among them. -/
def recordsOf (t : JsonText) : List JsonText :=
  (functionsOf t).flatMap fun
    | .object members _ => members.map (·.value.value)
    | _ => []

/-- A field is missing or given twice, in the graph or in a record. -/
def Flawed (t : JsonText) : Prop :=
  t.Flawed ["repository_url"] ["file_system_map", "functions"] ∨ ∃ r ∈ recordsOf t, FunctionRecord.Flawed r

theorem Presents.functions {t : JsonText} {g : Graph} (presents : Presents t g) :
    GivenOr .empty (IsCatalog (FunctionRecord.Presents summaryLevels)) (functionsOf t) g.functions := by
  cases presents with
  | object members close named fields => exact fields.functions
  | @array g items close url files functions inOrder trailing fields =>
    obtain ⟨a, rfl, -⟩ := fields.url
    rw [functionsOf, inOrder]
    rcases fields.files with ⟨rfl, -⟩ | ⟨b, rfl, -⟩
    · cases trailing rfl
      exact fields.functions
    · have third : (functions.take 1) = functions := List.take_of_length_le fields.functions.length
      simpa [third] using fields.functions

/-- Every record of a text that presents a graph presents a record. -/
theorem Presents.record {t r : JsonText} {g : Graph} (presents : Presents t g) (member : r ∈ recordsOf t) :
    ∃ record, FunctionRecord.Presents summaryLevels r record := by
  obtain ⟨functions, among, inside⟩ := List.mem_flatMap.mp member
  rcases presents.functions with ⟨none, -⟩ | ⟨_, only, _, ⟨members, close, rfl, all⟩, -⟩
  · rw [none] at among
    contradiction
  · rw [only, List.mem_singleton] at among
    subst among
    obtain ⟨m, there, rfl⟩ := List.mem_map.mp inside
    have records : ∀ m ∈ members, ∃ record, FunctionRecord.Presents summaryLevels m.value.value record :=
      ((List.forall₂_and_left _ _).mp (all.imp fun _ e shown => ⟨⟨e.2, shown.2⟩, shown⟩)).1
    exact records m there

theorem Presents.sound {t : JsonText} {g : Graph} (presents : Presents t g) : ¬Flawed t := by
  rintro (flawed | ⟨r, member, flawed⟩)
  · revert flawed
    cases presents with
    | object members close named fields =>
      refine not_flawed ?_ ?_
      · simpa using fields.url.length
      · simpa using ⟨fields.files.length, fields.functions.length⟩
    | array => exact nofun
  · obtain ⟨record, shown⟩ := presents.record member
    exact shown.sound flawed

/-- However a graph is spelled, it is read as the graph and written as one text, which is rewritten
as itself. A field that is missing or repeated is an error. -/
theorem spelling_does_not_matter (t : Spaced JsonText) :
    (∀ g : Graph, g.Settled → g.Storable → Presents t.value g →
      ofText t.text = .ok g ∧ ∀ pretty,
        (ofText t.text).map (toText pretty) = .ok (g.toText pretty) ∧
          ∀ pretty', (ofText (g.toText pretty)).map (toText pretty') = .ok (g.toText pretty')) ∧
      (Flawed t.value → ∃ flaw, ofText t.text = .error (.json t.text flaw)) := by
  constructor
  · intro g settled storable presents
    have read : ofText t.text = .ok g := (ofText_spaced t).1 g presents
    refine ⟨read, fun pretty => ⟨congrArg (Except.map (toText pretty)) read, fun pretty' => ?_⟩⟩
    exact congrArg (Except.map (toText pretty')) (ofText_toText pretty settled storable)
  · intro flawed
    exact (ofText_spaced t).2 fun g presents => presents.sound flawed

/-- An unknown field, an escaped name, a key given twice, a record that is a list and calls in
disorder; and the same text without its last field. -/
theorem spelling_does_not_matter_in_disorder :
    let item (value : JsonText) : Spaced JsonText := ⟨.none, value, .none⟩
    let member (name : Quoted) (value : JsonText) : Member JsonText := ⟨.none, name, .none, item value⟩
    let text (s : String) : JsonText := .string (.ofText s)
    let calls : JsonText := .array [item (text "h"), item (text "g"), item (text "h")] .none
    let earlier : JsonText := .array [item (text ""), item (text ""), item (text ""), item calls,
      item .null] .none
    let last : JsonText := .array [item (text "a.py"), item (text "f"), item (text "x"), item calls] .none
    let functions : JsonText := .object [member (.ofText "k") earlier, member (.ofText "k") last] .none
    let url : Quoted := ⟨.hex (.ofNat 0) (.ofNat 0) (.ofNat 7) (.ofNat 2) ::
      (Quoted.ofText "epository_url").strokes⟩
    let fields : List (Member JsonText) := [member (.ofText "x") (.array [] .none),
      member (.ofText "functions") functions]
    let t : Spaced JsonText := item (.object (fields ++ [member url (text "u")]) .none)
    let t' : Spaced JsonText := item (.object fields .none)
    let r : FunctionRecord := ⟨"a.py", "f", "x", .ofList ["g", "h"], none⟩
    let g : Graph := ⟨"u", .empty, .ofList [("k", r)]⟩
    t.text = "\x7b\x22x\x22:[],\x22functions\x22:\x7b\x22k\x22:[\x22\x22,\x22\x22,\x22\x22," ++
        "[\x22h\x22,\x22g\x22,\x22h\x22],null],\x22k\x22:[\x22a.py\x22,\x22f\x22,\x22x\x22," ++
        "[\x22h\x22,\x22g\x22,\x22h\x22]]\x7d,\x22\\u0072epository_url\x22:\x22u\x22\x7d" ∧
      ofText t.text = .ok g ∧ ∃ flaw, ofText t'.text = .error (.json t'.text flaw) := by
  intro item member text calls earlier last functions url fields t t' r g
  have strings (s : String) : (text s).IsString s := ⟨.ofText s, rfl, Quoted.text?_ofText s⟩
  have set : calls.IsNameSet (.ofList ["g", "h"]) := by
    refine ⟨["h", "g", "h"], ⟨_, _, rfl, ?_⟩, fun name => ?_⟩
    · exact .cons (strings _) (.cons (strings _) (.cons (strings _) .nil))
    · rw [NameSet.mem_ofList]
      simp only [List.mem_cons, List.not_mem_nil, or_false]
      tauto
  have first : FunctionRecord.Presents summaryLevels earlier ⟨"", "", "", r.calls, none⟩ :=
    .array _ _ (rfl : _ = [text ""] ++ [text ""] ++ [text ""] ++ [calls] ++ [.null])
      ⟨⟨_, rfl, strings _⟩, ⟨_, rfl, strings _⟩, ⟨_, rfl, strings _⟩, ⟨_, rfl, set⟩,
        .inr ⟨_, rfl, .inl ⟨rfl, rfl⟩⟩⟩
  have second : FunctionRecord.Presents summaryLevels last r :=
    .array _ _ (rfl : _ = [text "a.py"] ++ [text "f"] ++ [text "x"] ++ [calls] ++ [])
      ⟨⟨_, rfl, strings _⟩, ⟨_, rfl, strings _⟩, ⟨_, rfl, strings _⟩, ⟨_, rfl, set⟩, .inl ⟨rfl, rfl⟩⟩
  have catalog : functions.IsCatalog (FunctionRecord.Presents summaryLevels) (.ofList [("k", r)]) := by
    refine ⟨[("k", ⟨"", "", "", r.calls, none⟩), ("k", r)], ⟨_, _, rfl, ?_⟩, fun name => ?_⟩
    · exact .cons ⟨Quoted.text?_ofText "k", first⟩ (.cons ⟨Quoted.text?_ofText "k", second⟩ .nil)
    · rw [Catalog.get?_ofList]
      cases same : name == "k" <;> simp [List.lookup_cons, same]
  have presents : Presents t.value g := by
    refine .object _ _ ?_ ⟨⟨text "u", rfl, strings _⟩, .inl ⟨rfl, rfl⟩, .inr ⟨functions, rfl, catalog⟩⟩
    have named : ∀ m ∈ fields ++ [member url (text "u")], (m.name.text?).isSome = true := by decide
    exact fun m there => Option.isSome_iff_ne_none.mp (named m there)
  have settled : g.Settled := List.forall_mem_singleton.mpr nofun
  have storable : g.Storable := List.forall_mem_singleton.mpr nofun
  have flawed : Flawed t'.value := .inl (.lacks _ "repository_url" (List.mem_singleton_self _) rfl)
  exact ⟨by decide +kernel, ((spelling_does_not_matter t).1 g settled storable presents).1,
    (spelling_does_not_matter t').2 flawed⟩

end Graph

end CodeAtlas
