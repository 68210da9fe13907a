import CodeAtlas.Proofs.Merging
import CodeAtlas.Walk

namespace CodeAtlas

/-- The name under which an entry is listed. -/
def Entry.shown (e : Entry) : String :=
  Text.decodeLossy e.name

namespace Listing

variable (fs : FileSystem) (pool : Pool) (root : Path)

/-- The directory under which an entry is listed, if it is. -/
def directoryOf? (e : Entry) : Option String :=
  if e.node.isLink && fs.isDirectory (e.path root) then none
  else (e.path root).parent?.map (Walk.directoryKey root)

/-- The source that an entry is, if it is one. -/
def sourceOf? (e : Entry) : Option SourceFile :=
  if (directoryOf? fs root e).isSome && readable fs (e.path root) e.node
      && pool.supportsPath (e.path root) then
    some ⟨e.path root, Walk.relative root (e.path root)⟩
  else none

/-- The names listed under a directory. -/
def namesIn (met : List Entry) (directory : String) : List String :=
  (met.filter (directoryOf? fs root · == some directory)).map (·.shown)

/-- What a file map has for a directory with these names. -/
def asListed (names : List String) : Option (List String) :=
  if names = [] then none else some names

theorem asListed_getD (names : List String) : (asListed names).getD [] = names := by
  rw [asListed]
  split
  · exact Eq.symm ‹_›
  · rfl

theorem asListed_isSome {names : List String} : (asListed names).isSome = true ↔ names ≠ [] := by
  rw [asListed]
  split <;> simp [*]

variable {fs pool root}

/-- Of what is no link, it is told without a look at the files how it is listed. -/
theorem directoryOf?_congr (fs fs' : FileSystem) (root : Path) {e : Entry}
    (notLink : e.node.isLink = false) : directoryOf? fs' root e = directoryOf? fs root e := by
  simp only [directoryOf?, notLink, Bool.false_and]

theorem sourceOf?_congr (fs fs' : FileSystem) (pool : Pool) (root : Path) {e : Entry}
    (notLink : e.node.isLink = false) : sourceOf? fs' pool root e = sourceOf? fs pool root e := by
  have same : readable fs' (e.path root) e.node = readable fs (e.path root) e.node := by
    cases node : e.node with
    | link target =>
      rw [node] at notLink
      contradiction
    | file | directory | pipe | locked => rfl
  rw [sourceOf?, sourceOf?, directoryOf?_congr fs fs' root notLink, same]

theorem sourceOf?_eq_some {e : Entry} {source : SourceFile}
    (isSource : sourceOf? fs pool root e = some source) :
    source = ⟨e.path root, Walk.relative root (e.path root)⟩ ∧
      pool.supportsPath (e.path root) = true := by
  rw [sourceOf?] at isSource
  split at isSource
  · rename_i conditions
    rw [Bool.and_eq_true] at conditions
    exact ⟨(Option.some.inj isSource).symm, conditions.2⟩
  · contradiction

theorem add_eq (l : Listing) {e : Entry} (leaf : e.node.isDirectory = false) :
    add fs pool root l e = { l with
      directories := (directoryOf? fs root e).elim l.directories (append e.shown l.directories)
      sources := l.sources ++ (sourceOf? fs pool root e).toList } := by
  rw [add, leaf, if_neg Bool.false_ne_true, sourceOf?, directoryOf?]
  split
  · simp
  · cases parent : (e.path root).parent? with
    | none => simp
    | some directory =>
      by_cases isSource : (readable fs (e.path root) e.node && pool.supportsPath (e.path root)) = true
      · simp [isSource, Entry.shown]
      · simp [isSource, Entry.shown]

theorem foldl_add {met : List Entry} (leaves : ∀ e ∈ met, e.node.isDirectory = false)
    (l : Listing) :
    met.foldl (add fs pool root) l = { l with
      directories := (met.foldl (add fs pool root) l).directories
      sources := l.sources ++ met.filterMap (sourceOf? fs pool root) } := by
  induction met generalizing l with
  | nil => simp
  | cons e met ih =>
    obtain ⟨leaf, leaves⟩ := List.forall_mem_cons.mp leaves
    rw [List.foldl_cons, ih leaves, add_eq _ leaf]
    cases source : sourceOf? fs pool root e <;> simp [source]

theorem get?_append (name : String) (files : Catalog (List String)) (own directory : String) :
    (append name files own).get? directory =
      if directory = own then some ((files.get? own).getD [] ++ [name]) else files.get? directory :=
  files.get?_insert own _ directory

/-- An entry adds its name to those of its directory. -/
theorem get?_add {l : Listing} {listed : String → List String}
    (before : ∀ directory, l.directories.get? directory = asListed (listed directory)) {e : Entry}
    (leaf : e.node.isDirectory = false) (directory : String) :
    (add fs pool root l e).directories.get? directory =
      asListed (listed directory ++ namesIn fs root [e] directory) := by
  rw [add_eq l leaf, namesIn]
  cases own : directoryOf? fs root e with
  | none => simp [before, own]
  | some d =>
    by_cases here : directory = d
    · subst here
      have more : asListed (listed directory ++ [e.shown]) = some (listed directory ++ [e.shown]) :=
        if_neg (by simp)
      simp [get?_append, before, own, asListed_getD, more]
    · simp [get?_append, before, own, here, Ne.symm here]

theorem get?_foldl_add {met : List Entry} (leaves : ∀ e ∈ met, e.node.isDirectory = false)
    {l : Listing} {listed : String → List String}
    (before : ∀ directory, l.directories.get? directory = asListed (listed directory))
    (directory : String) :
    (met.foldl (add fs pool root) l).directories.get? directory =
      asListed (listed directory ++ namesIn fs root met directory) := by
  induction met generalizing l listed with
  | nil => simpa [namesIn] using before directory
  | cons e met ih =>
    obtain ⟨leaf, leaves⟩ := List.forall_mem_cons.mp leaves
    have split : namesIn fs root (e :: met) directory =
        namesIn fs root [e] directory ++ namesIn fs root met directory := by
      rw [namesIn, ← List.singleton_append, List.filter_append, List.map_append, ← namesIn, ← namesIn]
    rw [List.foldl_cons, ih leaves (get?_add before leaf), split, List.append_assoc]

/-- What is listed of what a walk meets. -/
def ofMet (fs : FileSystem) (pool : Pool) (root : Path) (errors : List String)
    (met : List Entry) : Listing :=
  met.foldl (add fs pool root) { errors }

section
variable (fs : FileSystem) (pool : Pool) (root : Path) (errors : List String) {met : List Entry}
  (leaves : ∀ e ∈ met, e.node.isDirectory = false)

include leaves

theorem ofMet_sources :
    (ofMet fs pool root errors met).sources = met.filterMap (sourceOf? fs pool root) := by
  rw [ofMet, foldl_add leaves, List.nil_append]

theorem ofMet_errors : (ofMet fs pool root errors met).errors = errors := by
  rw [ofMet, foldl_add leaves]

theorem ofMet_names (directory : String) :
    (ofMet fs pool root errors met).directories.get? directory =
      asListed (namesIn fs root met directory) := by
  have empty : ∀ directory, (Catalog.empty : Catalog (List String)).get? directory =
      asListed ((fun _ => []) directory) := fun _ => rfl
  rw [ofMet, get?_foldl_add leaves empty]
  rfl

end

/-- What is said of a directory that is met. -/
def shutError (root : Path) (e : Entry) : String :=
  Walk.unopened (e.path root)
    ((Entry.refusal? root (e.above ++ [e.name])).getD .permissionDenied)

theorem add_shut (l : Listing) {e : Entry} (isDirectory : e.node.isDirectory = true) :
    add fs pool root l e = { l with errors := l.errors ++ [shutError root e] } := by
  rw [add, if_pos isDirectory, shutError]

theorem foldl_add_errors {met : List Entry} (leaves : ∀ e ∈ met, e.node.isDirectory = false)
    (l : Listing) (errors : List String) :
    met.foldl (add fs pool root) { l with errors } =
      { met.foldl (add fs pool root) l with errors } := by
  induction met generalizing l with
  | nil => rfl
  | cons e met ih =>
    obtain ⟨leaf, leaves⟩ := List.forall_mem_cons.mp leaves
    rw [List.foldl_cons, List.foldl_cons, add_eq _ leaf, add_eq l leaf, ← ih leaves]

theorem leaves_filter (found : List Entry) :
    ∀ e ∈ found.filter (!·.node.isDirectory), e.node.isDirectory = false := by
  intro e member
  simpa using (List.mem_filter.mp member).2

theorem foldl_add_shut (found : List Entry) (l : Listing) :
    found.foldl (add fs pool root) l =
      { (found.filter (!·.node.isDirectory)).foldl (add fs pool root) l with
        errors := l.errors ++ (found.filter (·.node.isDirectory)).map (shutError root) } := by
  induction found generalizing l with
  | nil => simp
  | cons e found ih =>
    rw [List.foldl_cons, ih]
    cases sort : e.node.isDirectory with
    | true =>
      rw [add_shut l sort, foldl_add_errors (leaves_filter found)]
      simp [sort]
    | false =>
      have same : (add fs pool root l e).errors = l.errors := by rw [add_eq l sort]
      simp [sort, same]

/-- Directories that do not open are errors, and beside that nothing is different for them. -/
theorem ofMet_shut (fs : FileSystem) (pool : Pool) (root : Path) (errors : List String)
    (found : List Entry) :
    ofMet fs pool root errors found =
      ofMet fs pool root (errors ++ (found.filter (·.node.isDirectory)).map (shutError root))
        (found.filter (!·.node.isDirectory)) := by
  rw [ofMet, foldl_add_shut, ofMet]
  exact (foldl_add_errors (leaves_filter found) { errors } _).symm

end Listing

end CodeAtlas
