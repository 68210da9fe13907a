import CodeAtlas.Proofs.Document.Graphs
import CodeAtlas.Proofs.Json.Spelling
import CodeAtlas.Proofs.Utf8
import CodeAtlas.Proofs.Writing
import Mathlib.Data.List.Permutation

namespace CodeAtlas

open JsonText

/-- A value that a text with room for so many levels gives back. -/
structure Json.Storable (levels : Nat) (j : Json) : Prop where
  floatFree : j.FloatFree
  ascending : j.Ascending
  shallow : j.depth ≤ levels

namespace FunctionRecord

def Storable (levels : Nat) (r : FunctionRecord) : Prop :=
  ∀ j, r.summary = some j → j.Storable levels

/-- A summary of `null` is taken away. -/
def settled (r : FunctionRecord) : FunctionRecord :=
  match r.summary with
  | some .null => { r with summary := none }
  | _ => r

end FunctionRecord

namespace Graph

def Storable (g : Graph) : Prop :=
  ∀ e ∈ g.functions.entries, e.2.Storable summaryLevels

/-- No summary is `null`. -/
def Settled (g : Graph) : Prop :=
  ∀ e ∈ g.functions.entries, e.2.summary ≠ some .null

/-- The graph with no summary in the place of every summary of `null`. -/
def settled (g : Graph) : Graph where
  repositoryUrl := g.repositoryUrl
  files := g.files
  functions.entries := g.functions.entries.map fun e => (e.1, e.2.settled)
  functions.ascending := List.pairwise_map.mpr g.functions.ascending

end Graph

namespace Json

theorem floatFreeItems_iff {items : List Json} : FloatFreeItems items ↔ ∀ a ∈ items, a.FloatFree := by
  induction items with
  | nil => exact iff_of_true trivial nofun
  | cons a rest ih => rw [FloatFreeItems, ih, List.forall_mem_cons]

theorem floatFreeFields_iff {fields : List (String × Json)} :
    FloatFreeFields fields ↔ ∀ f ∈ fields, f.2.FloatFree := by
  induction fields with
  | nil => exact iff_of_true trivial nofun
  | cons f rest ih => rw [FloatFreeFields, ih, List.forall_mem_cons]

theorem floatFree_strings (texts : List String) : (array (texts.map .string)).FloatFree :=
  floatFreeItems_iff.mpr (List.forall_mem_map.mpr fun _ _ => trivial)

end Json

namespace JsonText

variable {α : Type} (l : Layout) (d : Nat)

theorem ofItems_eq_map (items : List Json) :
    ofItems l d items = items.map fun a => ⟨l.line d, ofJson l d a, .none⟩ := by
  induction items with
  | nil => rfl
  | cons a rest ih => rw [ofItems, ih, List.map_cons]

theorem ofFields_eq_map (fields : List (String × Json)) : ofFields l d fields =
    fields.map fun f => ⟨l.line d, .ofText f.1, .none, ⟨l.colon, ofJson l d f.2, .none⟩⟩ := by
  induction fields with
  | nil => rfl
  | cons f rest ih => rw [ofFields, ih, List.map_cons]

theorem ofJson_array (items : List Json) :
    ∃ close, ofJson l d (.array items) = array (ofItems l (d + 1) items) close := by
  cases items <;> exact ⟨_, rfl⟩

theorem ofJson_object (fields : List (String × Json)) :
    ∃ close, ofJson l d (.object fields) = object (ofFields l (d + 1) fields) close := by
  cases fields <;> exact ⟨_, rfl⟩

theorem named_ofFields (fields : List (String × Json)) : Named (ofFields l d fields) := by
  rw [ofFields_eq_map]
  exact List.forall_mem_map.mpr fun f _ => by simp

theorem isString_ofJson (text : String) : (ofJson l d (.string text)).IsString text :=
  ⟨.ofText text, rfl, Quoted.text?_ofText text⟩

theorem isList_ofJson {shows : JsonText → α → Prop} {write : α → Json} {values : List α}
    (each : ∀ a ∈ values, ∀ d, shows (ofJson l d (write a)) a) :
    (ofJson l d (.array (values.map write))).IsList shows values := by
  obtain ⟨close, written⟩ := ofJson_array l d (values.map write)
  refine ⟨_, close, written, ?_⟩
  rw [ofItems_eq_map, List.map_map, List.forall₂_map_left_iff, List.forall₂_same]
  exact fun a member => each a member _

theorem isStrings_ofJson (texts : List String) :
    (ofJson l d (.array (texts.map .string))).IsList IsString texts :=
  isList_ofJson l d fun text _ d => isString_ofJson l d text

theorem isCatalog_ofJson {shows : JsonText → α → Prop} (write : α → Json) {c : Catalog α}
    (each : ∀ e ∈ c.entries, ∀ d, shows (ofJson l d (write e.2)) e.2) :
    (ofJson l d (.object (c.entries.map fun e => (e.1, write e.2)))).IsCatalog shows c := by
  obtain ⟨close, written⟩ := ofJson_object l d (c.entries.map fun e => (e.1, write e.2))
  have entries : (Catalog.ofList c.entries).entries = c.entries := Catalog.foldl_insert .empty c.ascending
  refine ⟨c.entries, ⟨_, close, written, ?_⟩, fun name => ?_⟩
  · rw [ofFields_eq_map, List.map_map, List.forall₂_map_left_iff, List.forall₂_same]
    exact fun e member => ⟨Quoted.text?_ofText e.1, each e member _⟩
  · rw [← Catalog.get?_ofList, Catalog.get?, Catalog.get?, entries]

theorem isSummary_ofJson {levels : Nat} {summary : Option Json} (notNull : summary ≠ some .null)
    (storable : ∀ j, summary = some j → j.Storable levels) :
    IsSummary levels (ofJson l d (summary.getD .null)) summary := by
  cases summary with
  | none => exact .inl ⟨rfl, rfl⟩
  | some j =>
    obtain ⟨free, ascending, shallow⟩ := storable j rfl
    have value := json?_ofJson l j d free ascending
    refine .inr ⟨fun null => ?_, Nat.le_trans (Nat.le_of_eq (depth_ofJson l j d free)) shallow, j, value, rfl⟩
    rw [Option.getD_some] at null
    rw [null] at value
    exact notNull value.symm

end JsonText

namespace FunctionRecord

variable {r : FunctionRecord} {levels : Nat}

theorem toJson_settled (r : FunctionRecord) : r.settled.toJson = r.toJson := by
  obtain ⟨_, _, _, _, summary⟩ := r
  rcases summary with _ | _ | _ <;> rfl

theorem settled_notNull (r : FunctionRecord) : r.settled.summary ≠ some .null := by
  obtain ⟨_, _, _, _, summary⟩ := r
  rcases summary with _ | _ | _ <;> exact nofun

theorem Storable.settled (storable : r.Storable levels) : r.settled.Storable levels := by
  obtain ⟨_, _, _, _, summary⟩ := r
  rcases summary with _ | _ | _ <;> first | exact storable | exact nofun

theorem Storable.floatFree (storable : r.Storable levels) : r.toJson.FloatFree := by
  have summary : (r.summary.getD .null).FloatFree := by
    cases given : r.summary with
    | none => trivial
    | some j => exact (storable j given).floatFree
  exact ⟨trivial, trivial, trivial, Json.floatFree_strings _, summary, trivial⟩

theorem presents_ofJson (l : Layout) (d : Nat) (notNull : r.summary ≠ some .null)
    (storable : r.Storable levels) : Presents levels (ofJson l d r.toJson) r := by
  refine .object _ _ (named_ofFields _ _ _) ⟨⟨_, rfl, ?_⟩, ⟨_, rfl, ?_⟩, ⟨_, rfl, ?_⟩, ⟨_, rfl, ?_⟩,
    .inr ⟨_, rfl, ?_⟩⟩
  · exact isString_ofJson l (d + 1) r.filePath
  · exact isString_ofJson l (d + 1) r.functionName
  · exact isString_ofJson l (d + 1) r.codeSnippet
  · exact ⟨r.calls.names, isStrings_ofJson l (d + 1) r.calls.names, fun _ => .rfl⟩
  · exact isSummary_ofJson l (d + 1) notNull storable

end FunctionRecord

namespace Graph

variable {g : Graph}

theorem toJson_settled (g : Graph) : g.settled.toJson = g.toJson := by
  simp only [toJson, settled, List.map_map, Function.comp_def, FunctionRecord.toJson_settled]

theorem settled_settled (g : Graph) : g.settled.Settled :=
  List.forall_mem_map.mpr fun e _ => e.2.settled_notNull

theorem Storable.settled (storable : g.Storable) : g.settled.Storable :=
  List.forall_mem_map.mpr fun e member => (storable e member).settled

theorem Storable.floatFree (storable : g.Storable) : g.toJson.FloatFree := by
  refine ⟨trivial, Json.floatFreeFields_iff.mpr ?_, Json.floatFreeFields_iff.mpr ?_, trivial⟩
  · exact List.forall_mem_map.mpr fun e _ => Json.floatFree_strings e.2
  · exact List.forall_mem_map.mpr fun e member => (storable e member).floatFree

theorem presents_ofJson (l : Layout) (settled : g.Settled) (storable : g.Storable) :
    Presents (ofJson l 0 g.toJson) g := by
  refine .object _ _ (named_ofFields _ _ _) ⟨⟨_, rfl, ?_⟩, .inr ⟨_, rfl, ?_⟩, .inr ⟨_, rfl, ?_⟩⟩
  · exact isString_ofJson l 1 g.repositoryUrl
  · exact isCatalog_ofJson l 1 (fun names => .array (names.map .string)) fun e _ d =>
      isStrings_ofJson l d e.2
  · exact isCatalog_ofJson l 1 FunctionRecord.toJson fun e member d =>
      FunctionRecord.presents_ofJson l d (settled e member) (storable e member)

def layout (pretty : Bool) : Layout :=
  if pretty then .pretty else .compact

theorem toText_eq (pretty : Bool) (storable : g.Storable) : g.toText pretty =
    (⟨.none, ofJson (layout pretty) 0 g.toJson, .none⟩ : Spaced JsonText).text := by
  have chars {l : Layout} {write items fields} (prints : Prints l write items fields) :
      write 0 g.toJson = Gap.none.chars ++ ((ofJson l 0 g.toJson).chars ++ Gap.none.chars) := by
    rw [chars_ofJson prints _ _ storable.floatFree]
    exact (List.append_nil _).symm
  cases pretty with
  | false => exact congrArg String.ofList (chars prints_compact)
  | true => exact congrArg String.ofList (chars prints_pretty)

theorem ofText_toText (pretty : Bool) (settled : g.Settled) (storable : g.Storable) :
    ofText (g.toText pretty) = .ok g := by
  rw [toText_eq pretty storable]
  exact (ofText_spaced _).1 g (presents_ofJson _ settled storable)

theorem toText_settled (pretty : Bool) (g : Graph) : g.settled.toText pretty = g.toText pretty := by
  rw [toText, toText, toJson_settled]

/-- What is written, in one line or indented, is read as the graph; so is a file that can be
written. -/
theorem written_graph_is_read_back {g : Graph} (storable : g.Storable) :
    (∀ pretty, ofText (g.toText pretty) = .ok g.settled) ∧
      ∀ (fs : FileSystem) (p : Path) (pretty : Bool) (content : Bytes) (written : FileSystem),
        fs.write p content = .ok written →
          ∃ written, g.writeTo fs p pretty = .ok written ∧ readFrom written p = .ok g.settled := by
  have read (pretty : Bool) : ofText (g.toText pretty) = .ok g.settled := by
    rw [← toText_settled]
    exact ofText_toText pretty g.settled_settled storable.settled
  refine ⟨read, fun fs p pretty content _ done => ?_⟩
  obtain ⟨written, wrote, stored⟩ := FileSystem.write_read done (Text.encode (g.toText pretty))
  refine ⟨written, by rw [writeTo, wrote], ?_⟩
  have text : written.readText p = .ok (g.toText pretty) := by
    simp only [FileSystem.readText, stored, bind, Except.bind, Text.decode?_encode]
    rfl
  rw [readFrom, text]
  exact read pretty

/-- A function with a summary of `null` beside one whose summary is a list in an object. -/
theorem written_graph_is_read_back_without_null :
    let f (name : String) (summary : Option Json) : FunctionRecord :=
      ⟨"é \x22.py", name, "def f():\n\tg()", .ofList ["g", "\x07"], summary⟩
    let nested : Json := .object [("lines", .array [.integer ⟨-1, by decide⟩, .null]), ("text", .string "ü")]
    let files : Catalog (List String) := .ofList [("/", ["é \x22.py"])]
    let g : Graph := ⟨"url", files, .ofList [("a", f "a" (some .null)), ("b", f "b" (some nested))]⟩
    let g' : Graph := ⟨"url", files, .ofList [("a", f "a" none), ("b", f "b" (some nested))]⟩
    let fs : FileSystem := ⟨.directory [], []⟩
    let p : Path := ⟨[Path.slash, 0x67]⟩
    g.Storable ∧ (∀ pretty, ofText (g.toText pretty) = .ok g') ∧
      ∃ written, g.writeTo fs p true = .ok written ∧ readFrom written p = .ok g' := by
  intro f nested files g g' fs p
  have entries : g.functions.entries = [("a", f "a" (some .null)), ("b", f "b" (some nested))] := by rfl
  have storable : g.Storable := by
    rw [Storable, entries]
    refine List.forall_mem_cons.mpr ⟨?_, List.forall_mem_singleton.mpr ?_⟩
    · rintro _ ⟨⟩
      exact ⟨trivial, trivial, Nat.zero_le _⟩
    · rintro _ ⟨⟩
      exact ⟨by simp [nested, Json.FloatFree, Json.FloatFreeItems, Json.FloatFreeFields],
        ⟨List.pairwise_pair.mpr (by decide),
          by simp [Json.Ascending, Json.AscendingItems, Json.AscendingFields]⟩, by decide⟩
  have settled : g.settled = g' := by rfl
  have empty : fs.write p [] = .ok ⟨.directory [([0x67], .file [])], []⟩ := by cbv
  have back := written_graph_is_read_back storable
  rw [settled] at back
  exact ⟨storable, back.1, back.2 fs p true [] _ empty⟩

end Graph

end CodeAtlas
