import CodeAtlas.Proofs.Naming
import CodeAtlas.Proofs.Utf8

namespace CodeAtlas

namespace Path

theorem components_congr {p q : Path} (absolute : p.isAbsolute = q.isAbsolute)
    (first : (pieces p.bytes).head? = (pieces q.bytes).head?)
    (named : (pieces p.bytes).filterMap componentOf = (pieces q.bytes).filterMap componentOf) :
    p.components = q.components := by
  simp only [components, absolute, first, named]

theorem head?_pieces (a b : Bytes) : (pieces (a ++ slash :: b)).head? = (pieces a).head? := by
  rw [pieces_slash, List.head?_append_of_ne_nil _ (pieces_ne_nil a)]

/-- A slash at the end says nothing. -/
theorem components_slash {b : Bytes} (nonempty : b ≠ []) :
    (Path.mk (b ++ [slash])).components = (Path.mk b).components := by
  refine components_congr ?_ (head?_pieces b []) ?_
  · rw [isAbsolute, isAbsolute, List.head?_append_of_ne_nil _ nonempty]
  · rw [pieces_slash, List.filterMap_append]
    exact List.append_nil _

/-- A point behind a slash says no more than the slash. -/
theorem components_point (b : Bytes) :
    (Path.mk (b ++ [slash, point])).components = (Path.mk (b ++ [slash])).components := by
  refine components_congr ?_ ((head?_pieces b [point]).trans (head?_pieces b []).symm) ?_
  · cases b <;> rfl
  · rw [pieces_slash, pieces_slash, List.filterMap_append, List.filterMap_append]
    rfl

theorem components_trimReversed (r : Bytes) :
    (Path.mk (trimReversed r).reverse).components = (Path.mk r.reverse).components := by
  fun_induction trimReversed r with
  | case1 => rfl
  | case2 => rfl
  | case3 c rest ih =>
    rw [ih, List.reverse_cons (a := slash), components_slash (by simp)]
  | case4 b c rest notSlash silent ih =>
    obtain ⟨rfl, rfl⟩ := silent
    rw [ih]
    simp only [List.reverse_cons, List.append_assoc]
    exact (components_point rest.reverse).symm
  | case5 => rfl

section
variable {p : Path} {name : Bytes}

/-- How a name is joined to a path: behind a slash, which the path may end with itself. -/
theorem join_name (isName : IsName name) (spelled : p.bytes ≠ []) :
    ∃ way, p.join ⟨name⟩ = ⟨way ++ slash :: name⟩ ∧
      (Path.mk (way ++ [slash])).components = p.components := by
  have nonempty : p.bytes.isEmpty = false := by simpa using spelled
  rw [join, isName.relative, nonempty, Bool.or_self, if_neg Bool.false_ne_true]
  split
  · rename_i ends
    obtain ⟨way, whole⟩ := List.getLast?_eq_some_iff.mp ends
    exact ⟨way, by rw [whole, List.append_assoc]; rfl, by rw [← whole]⟩
  · exact ⟨p.bytes, rfl, components_slash spelled⟩

theorem components_join (isName : IsName name) (spelled : p.bytes ≠ []) :
    (p.join ⟨name⟩).components = p.components ++ [.name name] := by
  obtain ⟨way, joined, same⟩ := join_name isName spelled
  have named : (pieces (way ++ slash :: name)).filterMap componentOf =
      (pieces (way ++ [slash])).filterMap componentOf ++ [.name name] := by
    rw [pieces_slash, pieces_slash, pieces_of_slash_notMem isName.2, List.filterMap_append,
      List.filterMap_append, List.append_assoc]
    have alone : [name].filterMap componentOf = [.name name] := List.filterMap_cons_some isName.1
    rw [alone]
    rfl
  have absolute : (Path.mk (way ++ slash :: name)).isAbsolute = (Path.mk (way ++ [slash])).isAbsolute := by
    cases way <;> rfl
  rw [← same, joined, components, components, named, absolute, head?_pieces, head?_pieces]
  split_ifs <;> rfl

theorem trimReversed_name (isName : IsName name) (r : Bytes) :
    trimReversed (name.reverse ++ slash :: r) = name.reverse ++ slash :: r := by
  have notSlash : ∀ b ∈ name.reverse, b ≠ slash := fun b member same =>
    isName.2 (same ▸ List.mem_reverse.mp member)
  cases backwards : name.reverse with
  | nil => exact absurd (List.reverse_eq_nil_iff.mp backwards) isName.ne_nil
  | cons b more =>
    rw [backwards] at notSlash
    have first : b ≠ slash := notSlash b List.mem_cons_self
    cases more with
    | nil =>
      have notPoint : b ≠ point := by
        rintro rfl
        exact (componentOf_eq_name isName.1).2.2.1 (List.reverse_eq_iff.mp backwards)
      simp [trimReversed, first, notPoint]
    | cons c more =>
      have second : c ≠ slash := notSlash c (by simp)
      simp [trimReversed, first, second]

/-- The parent of a path that goes on by a name is that path, up to how it is spelled. -/
theorem parent?_join (isName : IsName name) (spelled : p.bytes ≠ []) :
    ∃ q, (p.join ⟨name⟩).parent? = some q ∧ q.components = p.components := by
  obtain ⟨way, joined, same⟩ := join_name isName spelled
  have backwards : (p.join ⟨name⟩).bytes.reverse = name.reverse ++ slash :: way.reverse := by
    rw [joined, List.reverse_append, List.reverse_cons, List.append_assoc]
    rfl
  have dropped : (name.reverse ++ slash :: way.reverse).dropWhile (· != slash) = slash :: way.reverse := by
    have notSlash : ∀ b ∈ name.reverse, (b != slash) = true := fun b member => by
      have other : b ≠ slash := fun same => isName.2 (same ▸ List.mem_reverse.mp member)
      simpa using other
    rw [List.dropWhile_append_of_pos notSlash]
    rfl
  refine ⟨⟨(trimReversed (slash :: way.reverse)).reverse⟩, ?_, ?_⟩
  · have more : ¬(name.reverse ++ slash :: way.reverse = [] ∨
        name.reverse ++ slash :: way.reverse = [slash]) := by
      simp [List.append_eq_cons_iff, isName.ne_nil]
    rw [parent?, backwards, trimReversed_name isName, dropped, if_neg more]
  · rw [components_trimReversed, List.reverse_cons, List.reverse_reverse, same]

end

theorem below?_of_components {root p : Path} {more : List Component}
    (below : p.components = root.components ++ more) : root.below? p = some more := by
  have strip (start : List Component) : below?.strip start (start ++ more) = some more := by
    induction start with
    | nil => rfl
    | cons c start ih => rw [List.cons_append, below?.strip, if_pos rfl, ih]
  rw [below?, below, strip]

end Path

theorem Entry.components_pathOf {root : Path} (spelled : root.bytes ≠ []) {names : List Bytes}
    (areNames : ∀ name ∈ names, Path.IsName name) :
    (pathOf root names).components = root.components ++ names.map .name := by
  induction names generalizing root with
  | nil => exact (List.append_nil _).symm
  | cons name names ih =>
    obtain ⟨isName, areNames⟩ := List.forall_mem_cons.mp areNames
    rw [pathOf, List.foldl_cons, ← pathOf, ih (Path.join_ne_nil isName.relative spelled) areNames,
      Path.components_join isName spelled, List.append_assoc]
    rfl

/-- The names down to an entry, as they are shown. -/
def Entry.shownPath (names : List Bytes) : String :=
  "/".intercalate (names.map Text.decodeLossy)

namespace Path.IsName

variable {name : Bytes}

/-- No slash is shown that is not there. -/
theorem slash_notMem_shown (isName : IsName name) : '/' ∉ (Text.decodeLossy name).toList :=
  fun shown => isName.2 (Text.mem_of_mem_decodeLossy (by decide) shown)

/-- Only points are shown as points. -/
theorem shown (isName : IsName name) : (Text.decodeLossy name).toList ≠ [] ∧
    (Text.decodeLossy name).toList ≠ ['.'] ∧ (Text.decodeLossy name).toList ≠ ['.', '.'] := by
  obtain ⟨_, nonempty, notPoint, notParent⟩ := componentOf_eq_name isName.1
  refine ⟨Text.decodeLossy_ne_nil nonempty, fun points => ?_, fun points => ?_⟩
  · have same := Text.encode_decodeLossy (b := name) (by simp [points])
    rw [points] at same
    exact notPoint same
  · have same := Text.encode_decodeLossy (b := name) (by simp [points])
    rw [points] at same
    exact notParent same

end Path.IsName

namespace Entry

theorem toList_shownPath (names : List Bytes) : (shownPath names).toList =
    ['/'].intercalate (names.map fun name => (Text.decodeLossy name).toList) := by
  rw [shownPath, String.toList_intercalate, List.map_map]
  rfl

/-- The parts of a path that is shown are its names. -/
theorem splitOn_shownPath {names : List Bytes} (areNames : ∀ name ∈ names, Path.IsName name)
    (nonempty : names ≠ []) : (shownPath names).toList.splitOn '/' =
      names.map fun name => (Text.decodeLossy name).toList := by
  rw [toList_shownPath]
  refine List.splitOn_intercalate '/' (List.forall_mem_map.mpr fun name member => ?_) ?_
  · exact (areNames name member).slash_notMem_shown
  · simpa using nonempty

theorem shownPath_eq_nil {names : List Bytes} (areNames : ∀ name ∈ names, Path.IsName name)
    (empty : shownPath names = "") : names = [] := by
  by_contra nonempty
  have parts := splitOn_shownPath areNames nonempty
  obtain ⟨name, rest, rfl⟩ := List.exists_cons_of_ne_nil nonempty
  rw [empty] at parts
  exact (areNames name List.mem_cons_self).shown.1 (List.cons.inj parts).1.symm

/-- Paths that are shown alike have names that are shown alike. -/
theorem shownPath_inj {names names' : List Bytes} (areNames : ∀ name ∈ names, Path.IsName name)
    (areNames' : ∀ name ∈ names', Path.IsName name) (same : shownPath names = shownPath names') :
    names.map Text.decodeLossy = names'.map Text.decodeLossy := by
  by_cases empty : names = []
  · subst empty
    rw [shownPath_eq_nil areNames' same.symm]
  · have nonempty : names' ≠ [] := by
      rintro rfl
      exact empty (shownPath_eq_nil areNames same)
    have parts := splitOn_shownPath areNames empty
    rw [same, splitOn_shownPath areNames' nonempty] at parts
    refine (List.map_injective_iff.mpr fun _ _ => String.toList_inj.mp) ?_
    rw [List.map_map, List.map_map]
    exact parts.symm

end Entry

namespace Walk

theorem relative_of_components {root p : Path} {names : List Bytes}
    (below : p.components = root.components ++ names.map .name) :
    relative root p = Entry.shownPath names := by
  rw [relative, Path.below?_of_components below, Option.getD_some, joinNames, List.filterMap_map,
    Entry.shownPath]
  exact congrArg "/".intercalate (congrFun List.filterMap_eq_map names)

theorem relative_path {root : Path} (spelled : root.bytes ≠ []) {e : Entry}
    (areNames : ∀ name ∈ e.above ++ [e.name], Path.IsName name) :
    relative root (e.path root) = Entry.shownPath (e.above ++ [e.name]) :=
  relative_of_components (Entry.components_pathOf spelled areNames)

/-- The directory of an entry is named by the names above it. -/
theorem directoryKey_parent {root : Path} (spelled : root.bytes ≠ []) {e : Entry}
    (areNames : ∀ name ∈ e.above ++ [e.name], Path.IsName name) :
    (e.path root).parent?.map (directoryKey root) = some ("/" ++ Entry.shownPath e.above) := by
  obtain ⟨namesAbove, isName⟩ := List.forall_mem_append.mp areNames
  have isName := List.forall_mem_singleton.mp isName
  have spelledAbove := (FileSystem.pathOf_spelled spelled namesAbove).1
  obtain ⟨directory, parent, same⟩ := Path.parent?_join isName spelledAbove
  rw [Entry.components_pathOf spelled namesAbove] at same
  rw [Entry.path, Entry.pathOf_snoc, parent, Option.map_some, directoryKey, relative_of_components same]

end Walk

end CodeAtlas
