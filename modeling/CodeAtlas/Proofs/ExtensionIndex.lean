import CodeAtlas.Proofs.Catalog
import CodeAtlas.Proofs.Loading
import Mathlib.Data.List.Forall2

namespace CodeAtlas

theorem Text.lowerAscii_beq (a b : String) :
    (Text.lowerAscii a == Text.lowerAscii b) = Text.eqIgnoringCase a b := by
  rw [Bool.eq_iff_iff, beq_iff_eq, Text.eqIgnoringCase, beq_iff_eq, Text.lowerAscii,
    Text.lowerAscii, String.ofList_inj]

/-- Whether an entry claims an extension that is spelled in lower case and without points. -/
def LanguageEntry.claims (e : LanguageEntry) (ext : String) : Bool :=
  e.extensions.any (Text.lowerAscii · == ext)

theorem LanguageEntry.claims_eq_handles (e : LanguageEntry) (ext : String) :
    e.claims (Text.lowerAscii (Text.withoutPoints ext)) = e.handles ext := by
  simp only [claims, handles, Text.lowerAscii_beq]

namespace Pool

/-- The place that an index gives an extension. -/
def lookup (index : List (String × Nat)) (ext : String) : Option Nat :=
  (index.find? (·.1 == ext)).map (·.2)

theorem lookup_isSome (index : List (String × Nat)) (ext : String) :
    (lookup index ext).isSome = index.any (·.1 == ext) := by
  rw [lookup, Option.isSome_map, List.isSome_find?]

/-- A claim adds to an index what was not in it. -/
theorem lookup_claim (place : Nat) (index : List (String × Nat)) (claimed ext : String) :
    lookup (claim place index claimed) ext =
      (lookup index ext).or (if Text.lowerAscii claimed == ext then some place else none) := by
  by_cases same : Text.lowerAscii claimed = ext
  · subst same
    by_cases taken : index.any (·.1 == Text.lowerAscii claimed) = true
    · have there := (lookup_isSome index _).trans taken
      rw [claim, if_pos taken, Option.or_of_isSome there]
    · have absent : lookup index (Text.lowerAscii claimed) = none := by
        rw [← Option.not_isSome_iff_eq_none, lookup_isSome]
        exact taken
      have nowhere := Option.map_eq_none_iff.mp absent
      rw [claim, if_neg taken, absent, lookup, List.find?_append, nowhere]
      simp
  · have other : (Text.lowerAscii claimed == ext) = false := by simpa using same
    rw [claim]
    split
    · simp [other]
    · simp [lookup, List.find?_append, other]

theorem lookup_foldl_claim (place : Nat) (index : List (String × Nat)) (exts : List String)
    (ext : String) :
    lookup (exts.foldl (claim place) index) ext =
      (lookup index ext).or (if exts.any (Text.lowerAscii · == ext) then some place else none) := by
  induction exts generalizing index with
  | nil => simp
  | cons claimed exts ih =>
    rw [List.foldl_cons, ih, lookup_claim, Option.or_assoc, List.any_cons]
    cases Text.lowerAscii claimed == ext <;> simp

theorem mem_claim {place : Nat} {index : List (String × Nat)} {claimed ext : String} :
    ext ∈ (claim place index claimed).map (·.1) ↔
      ext = Text.lowerAscii claimed ∨ ext ∈ index.map (·.1) := by
  rw [claim]
  split
  · rename_i taken
    obtain ⟨entry, member, atName⟩ := List.any_eq_true.mp taken
    have there : Text.lowerAscii claimed ∈ index.map (·.1) :=
      List.mem_map.mpr ⟨entry, member, by simpa using atName⟩
    constructor
    · exact Or.inr
    · rintro (rfl | old)
      · exact there
      · exact old
  · simp [or_comm]

theorem mem_foldl_claim {place : Nat} {index : List (String × Nat)} {exts : List String}
    {ext : String} :
    ext ∈ (exts.foldl (claim place) index).map (·.1) ↔
      ext ∈ exts.map Text.lowerAscii ∨ ext ∈ index.map (·.1) := by
  induction exts generalizing index with
  | nil => simp
  | cons claimed exts ih =>
    rw [List.foldl_cons, ih, mem_claim, List.map_cons, List.mem_cons]
    tauto

/-- The three containers of a pool tell the same: parsers stand at the places of their entries, and
an extension is indexed under the place of the first entry that claims it. -/
structure Indexed (pool : Pool) : Prop where
  aligned : List.Forall₂ (fun e p => Parser.bind e = .ok p) pool.loaded pool.parsers
  first : ∀ ext, lookup pool.byExtension ext = pool.loaded.findIdx? (·.claims ext)
  named : ∀ ext, ext ∈ pool.byExtension.map (·.1) ↔
    ∃ e ∈ pool.loaded, ext ∈ e.extensions.map Text.lowerAscii

theorem indexed_empty : Indexed {} where
  aligned := .nil
  first _ := rfl
  named _ := by simp

theorem Indexed.push {pool : Pool} (indexed : pool.Indexed) {e : LanguageEntry} {p : Parser}
    (bound : Parser.bind e = .ok p) : (pool.push e p).Indexed where
  aligned := List.rel_append indexed.aligned (.cons bound .nil)
  first ext := by
    -- The new entry has the place behind all others, and only what they left unclaimed.
    have last : ([e].findIdx? (·.claims ext)).map (· + pool.loaded.length) =
        if e.claims ext then some pool.loaded.length else none := by
      cases claimed : e.claims ext <;> simp [claimed]
    have before := lookup_foldl_claim pool.loaded.length pool.byExtension e.extensions ext
    rw [indexed.first ext] at before
    rw [Pool.push, List.findIdx?_append, last]
    exact before
  named ext := by
    rw [Pool.push, mem_foldl_claim, indexed.named ext]
    simp only [List.mem_append, List.mem_singleton, or_and_right, exists_or, exists_eq_left]
    exact or_comm

theorem Indexed.pushAll {pool : Pool} (indexed : pool.Indexed) {entries : List LanguageEntry}
    (binds : ∀ e ∈ entries, Parser.bind e = .ok { language := e.language }) :
    (pool.pushAll entries).Indexed := by
  induction entries generalizing pool with
  | nil => exact indexed
  | cons e entries ih =>
    have here := binds e List.mem_cons_self
    exact ih (indexed.push here) fun other member => binds other (List.mem_cons_of_mem _ member)

theorem bind_of_binds {e : LanguageEntry} (binds : e.binds = true) :
    Parser.bind e = .ok { language := e.language } := by
  unfold LanguageEntry.binds at binds
  cases bound : Parser.bind e with
  | ok p => rw [bind_eq_ok bound]
  | error f => simp [bound, Except.toOption] at binds

theorem ofEntries_indexed (entries : List LanguageEntry) : (ofEntries entries).Indexed := by
  have pushed : (pushAll {} (entries.filter (·.binds))).Indexed :=
    indexed_empty.pushAll fun e member => bind_of_binds (List.mem_filter.mp member).2
  exact ⟨pushed.aligned, pushed.first, pushed.named⟩

theorem Indexed.place? {pool : Pool} (indexed : pool.Indexed) (ext : String) :
    pool.place? ext = pool.loaded.findIdx? (·.handles ext) := by
  have found := indexed.first (Text.lowerAscii (Text.withoutPoints ext))
  simp only [LanguageEntry.claims_eq_handles] at found
  exact found

theorem Indexed.inside {pool : Pool} (indexed : pool.Indexed) {ext : String} {i : Nat}
    (place : pool.place? ext = some i) : i < pool.loaded.length ∧ i < pool.parsers.length := by
  rw [indexed.place?, List.findIdx?_eq_some_iff_getElem] at place
  obtain ⟨inside, _⟩ := place
  exact ⟨inside, indexed.aligned.length_eq ▸ inside⟩

/-- What is found by the index is found first by a search, and the parser beside it is its own. -/
theorem Indexed.parserFor_eq_some {pool : Pool} (indexed : pool.Indexed) {ext : String} {p : Parser}
    {e : LanguageEntry} :
    pool.parserFor ext = some (p, e) ↔
      pool.loaded.find? (·.handles ext) = some e ∧ Parser.bind e = .ok p := by
  rw [Pool.parserFor_eq_some]
  constructor
  · rintro ⟨i, place, atParser, atEntry⟩
    rw [indexed.place?, List.findIdx?_eq_some_iff_getElem] at place
    obtain ⟨inside, handled, earlier⟩ := place
    obtain ⟨_, entry⟩ := List.getElem?_eq_some_iff.mp atEntry
    obtain ⟨parserInside, parser⟩ := List.getElem?_eq_some_iff.mp atParser
    subst entry parser
    refine ⟨List.find?_eq_some_iff_getElem.mpr ⟨handled, i, inside, rfl, ?_⟩, ?_⟩
    · intro j before
      simpa using earlier j before
    · exact indexed.aligned.get inside parserInside
  · rintro ⟨found, bound⟩
    obtain ⟨handled, i, inside, rfl, earlier⟩ := List.find?_eq_some_iff_getElem.mp found
    have parserInside : i < pool.parsers.length := indexed.aligned.length_eq ▸ inside
    have own : Parser.bind pool.loaded[i] = .ok pool.parsers[i] :=
      indexed.aligned.get inside parserInside
    have parser : pool.parsers[i] = p := Except.ok.inj (own.symm.trans bound)
    refine ⟨i, ?_, ?_, ?_⟩
    · rw [indexed.place?, List.findIdx?_eq_some_iff_getElem]
      exact ⟨inside, handled, fun j before => by simpa using earlier j before⟩
    · rw [List.getElem?_eq_getElem parserInside, parser]
    · exact List.getElem?_eq_getElem inside

theorem Indexed.exists_parserFor {pool : Pool} (indexed : pool.Indexed) {ext : String}
    {e : LanguageEntry} (found : pool.loaded.find? (·.handles ext) = some e) :
    ∃ p, pool.parserFor ext = some (p, e) := by
  obtain ⟨i, inside, rfl⟩ := List.getElem_of_mem (List.mem_of_find?_eq_some found)
  have parserInside : i < pool.parsers.length := indexed.aligned.length_eq ▸ inside
  exact ⟨_, indexed.parserFor_eq_some.mpr ⟨found, indexed.aligned.get inside parserInside⟩⟩

theorem Indexed.parserFor_entry {pool : Pool} (indexed : pool.Indexed) (ext : String) :
    (pool.parserFor ext).map (·.2) = pool.loaded.find? (·.handles ext) := by
  cases found : pool.loaded.find? (·.handles ext) with
  | none =>
    rw [Option.map_eq_none_iff, Option.eq_none_iff_forall_ne_some]
    rintro ⟨p, e⟩ some
    rw [(indexed.parserFor_eq_some.mp some).1] at found
    contradiction
  | some e =>
    obtain ⟨p, some⟩ := indexed.exists_parserFor found
    rw [some]
    rfl

theorem Indexed.supportsExtension {pool : Pool} (indexed : pool.Indexed) (ext : String) :
    pool.supportsExtension ext = (pool.parserFor ext).isSome := by
  have entry := congrArg Option.isSome (indexed.parserFor_entry ext)
  rw [Option.isSome_map] at entry
  rw [Pool.supportsExtension, indexed.place?, List.findIdx?_isSome, entry,
    List.isSome_find?]

/-- Every extension a pool supports has its parser. -/
def Served (pool : Pool) : Prop :=
  ∀ ext, pool.supportsExtension ext = true → (pool.parserFor ext).isSome = true

theorem withTimeout_served {pool : Pool} (served : pool.Served) (timeout : Option Nat) :
    (pool.withTimeout timeout).Served := by
  intro ext supports
  obtain ⟨⟨p, e⟩, found⟩ := Option.isSome_iff_exists.mp (served ext supports)
  obtain ⟨i, place, atParser, atEntry⟩ := parserFor_eq_some.mp found
  have limited : (pool.withTimeout timeout).parserFor ext =
      some ({ p with limit := limitOf timeout }, e) := by
    refine parserFor_eq_some.mpr ⟨i, place, ?_, atEntry⟩
    rw [withTimeout, List.getElem?_map, atParser]
    rfl
  rw [limited]
  rfl

theorem ofEntries_served (entries : List LanguageEntry) : (ofEntries entries).Served :=
  fun ext supports => (ofEntries_indexed entries).supportsExtension ext ▸ supports

/-- A text in a language that is served is never told to be in none. -/
theorem Served.parseText {pool : Pool} (served : pool.Served) (clock : Clock) (text : String)
    {ext : String} (supports : pool.supportsExtension ext = true) (other : String) :
    (pool.parseText clock text ext).1 ≠ .error (.unsupportedExtension other) := by
  obtain ⟨i, place⟩ := Option.isSome_iff_exists.mp supports
  obtain ⟨⟨parser, entry⟩, found⟩ := Option.isSome_iff_exists.mp (served ext supports)
  rw [Pool.parseText, place, found]
  dsimp only
  split
  · simp
  · cases pool.timeout <;> simp

theorem Served.parseFile {pool : Pool} (served : pool.Served) (clock : Clock) (fs : FileSystem)
    {p : Path} (supports : pool.supportsPath p = true) (other : String) :
    (pool.parseFile clock fs p).value.1 ≠ .error (.unsupportedExtension other) := by
  obtain ⟨ext, extension, supported⟩ := (Option.any_eq_true _ _).mp supports
  have supported : pool.supportsExtension ((textExtension? p).getD "") = true := by
    rwa [extension, Option.getD_some]
  unfold Pool.parseFile
  dsimp only
  rw [supported, Bool.not_true, if_neg Bool.false_ne_true]
  split
  · simp
  · split
    · simp
    · exact served.parseText clock _ supported other

theorem Indexed.mem_extensions {pool : Pool} (indexed : pool.Indexed) {ext : String} :
    ext ∈ pool.extensions ↔ ∃ e ∈ pool.loaded, ext ∈ e.extensions.map Text.lowerAscii :=
  NameSet.mem_ofList.trans (indexed.named ext)

/-- The index of a loaded pool answers as a search through the entries that could be bound, in the
order of the registry. -/
theorem index_refines_search (r : Registry) :
    let pool := (load r).value
    let bound := r.entries.filter (·.binds)
    pool.loaded = bound ∧ pool.skipped = r.entries.filterMap (·.failure?) ∧
    (∀ ext,
      (∀ p e, pool.parserFor ext = some (p, e) ↔
        bound.find? (·.handles ext) = some e ∧ Parser.bind e = .ok p) ∧
      (pool.parserFor ext = none ↔ ∀ e ∈ bound, e.handles ext = false) ∧
      pool.supportsExtension ext = (pool.parserFor ext).isSome ∧
      ∀ i, pool.place? ext = some i → i < pool.loaded.length ∧ i < pool.parsers.length) ∧
    ((∀ e ∈ r.entries, e.binds = true) →
      ∀ ext, (pool.parserFor ext).map (·.2) = r.forExtension ext) ∧
    pool.extensions.Pairwise (· < ·) ∧
    ∀ ext, ext ∈ pool.extensions ↔ ∃ e ∈ bound, ext ∈ e.extensions.map Text.lowerAscii := by
  intro pool bound
  have whole : pool = ofEntries r.entries := load_value r
  have indexed : pool.Indexed := whole ▸ ofEntries_indexed r.entries
  have loaded : pool.loaded = bound := whole ▸ ofEntries_loaded r.entries
  have skipped : pool.skipped = r.entries.filterMap (·.failure?) := whole ▸ rfl
  have entry := indexed.parserFor_entry
  rw [loaded] at entry
  refine ⟨loaded, skipped, fun ext => ⟨?_, ?_, indexed.supportsExtension ext, ?_⟩, ?_, ?_, ?_⟩
  · intro p e
    rw [indexed.parserFor_eq_some, loaded]
  · rw [← Option.map_eq_none_iff, entry, List.find?_eq_none]
    simp
  · exact fun i => indexed.inside
  · intro all ext
    have same : bound = r.entries := List.filter_eq_self.mpr all
    rw [entry, same]
    rfl
  · exact (NameSet.ofList _).ascending
  · intro ext
    rw [indexed.mem_extensions, loaded]

/-- Extensions that differ in the case of letters are claimed twice, and one is spelled with a point
that no look-up keeps. -/
theorem index_refines_search_overlapping :
    let first : LanguageEntry := ⟨"one", ["Py", ".x", "py"], [], "", "", "", .python⟩
    let second : LanguageEntry := ⟨"one", ["pY", "", "js"], [], "", "", "", .rust⟩
    let r : Registry := ⟨[first, second]⟩
    let pool := (load r).value
    (∀ e ∈ r.entries, e.binds = true) ∧
      (pool.parserFor "..PY").map (·.2) = r.forExtension "..PY" ∧
      r.forExtension "..PY" = some first ∧ r.forExtension "." = some second ∧
      r.forExtension ".x" = none := by
  intro first second r pool
  have all : ∀ e ∈ r.entries, e.binds = true := by
    intro e member
    rcases List.mem_cons.mp member with rfl | member
    · rfl
    · cases List.mem_singleton.mp member
      rfl
  have searched := (index_refines_search r).2.2.2.1 all
  exact ⟨all, searched "..PY", by decide, by decide, by decide⟩

end Pool

end CodeAtlas
