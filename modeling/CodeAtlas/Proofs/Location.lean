import CodeAtlas.Proofs.Relative
import Mathlib.Data.List.TakeWhile

namespace CodeAtlas

namespace Path

/-- Where a component leads from a place, if no link is in the way. -/
def Component.step (place : Place) : Component → Place
  | root => []
  | current => place
  | parent => place.dropLast
  | name bytes => place ++ [bytes]

/-- The place a path stands for where relative paths start from some place. -/
def placeFrom (start : Place) (p : Path) : Place :=
  p.components.foldl Component.step start

theorem placeFrom_eq (start : Place) (p : Path) : p.placeFrom start =
    ((pieces p.bytes).filterMap componentOf).foldl Component.step (if p.isAbsolute then [] else start) := by
  rw [placeFrom, components]
  split_ifs <;> rfl

theorem placeFrom_join (start : Place) (p q : Path) :
    (p.join q).placeFrom start = q.placeFrom (p.placeFrom start) := by
  by_cases absolute : q.isAbsolute = true
  · simp [join, placeFrom_eq, absolute]
  · rw [Bool.not_eq_true] at absolute
    by_cases spelled : p.bytes = []
    · have same : p.placeFrom start = start := by simp [placeFrom_eq, spelled, isAbsolute, pieces, componentOf]
      rw [same, join, spelled]
      simp
    · obtain ⟨way, parts, alone⟩ := pieces_join absolute spelled
      have said : (pieces p.bytes).filterMap componentOf = way.filterMap componentOf := by
        rcases alone with alone | alone
        · rw [alone]
        · rw [alone, List.filterMap_append]
          exact List.append_nil _
      rw [placeFrom_eq, placeFrom_eq, placeFrom_eq, parts, List.filterMap_append, List.foldl_append,
        isAbsolute_join absolute spelled, said, absolute, if_neg Bool.false_ne_true]

theorem componentOf_isSome {part : Bytes} (nonempty : part ≠ []) (notPoint : part ≠ [point]) :
    ∃ c, componentOf part = some c := by
  rw [componentOf, if_neg (by simp [nonempty, notPoint])]
  split <;> exact ⟨_, rfl⟩

/-- What stands behind the last slash is one more component, if it says anything. -/
theorem components_last {part : Bytes} (whole : slash ∉ part) (way : Bytes) :
    (Path.mk (way ++ slash :: part)).components =
      (Path.mk (way ++ [slash])).components ++ (componentOf part).toList := by
  have one : [part].filterMap componentOf = (componentOf part).toList := by
    cases said : componentOf part with
    | none => exact List.filterMap_cons_none said
    | some c => exact List.filterMap_cons_some said
  have named : (pieces (way ++ slash :: part)).filterMap componentOf =
      (pieces (way ++ [slash])).filterMap componentOf ++ (componentOf part).toList := by
    rw [pieces_slash, pieces_slash, pieces_of_slash_notMem whole, List.filterMap_append,
      List.filterMap_append, List.append_assoc, one]
    rfl
  have absolute : (Path.mk (way ++ slash :: part)).isAbsolute = (Path.mk (way ++ [slash])).isAbsolute := by
    cases way <;> rfl
  rw [components, components, named, absolute, head?_pieces, head?_pieces]
  split_ifs <;> rfl

/-- A path without a slash is one component. -/
theorem components_single {part : Bytes} (whole : slash ∉ part) (nonempty : part ≠ []) :
    ∃ c, (Path.mk part).components = [c] := by
  have relative : (Path.mk part).isAbsolute = false := by
    obtain ⟨b, rest, rfl⟩ := List.exists_cons_of_ne_nil nonempty
    have other : b ≠ slash := fun same => whole (same ▸ List.mem_cons_self)
    simp [isAbsolute, other]
  rw [components, relative, if_neg Bool.false_ne_true, pieces_of_slash_notMem whole]
  by_cases point : part = [point]
  · subst point
    exact ⟨.current, rfl⟩
  · obtain ⟨c, said⟩ := componentOf_isSome nonempty point
    exact ⟨c, by simp [point, said]⟩

/-- What is dropped from a reversed path is what stands behind its last slash. -/
theorem dropWhile_slash {part : Bytes} (whole : slash ∉ part) (way : Bytes) :
    (part ++ slash :: way).dropWhile (· != slash) = slash :: way := by
  rw [List.dropWhile_append_of_pos]
  · rfl
  · intro b member
    have other : b ≠ slash := fun same => whole (same ▸ member)
    simpa using other

/-- The parent is the path without its last component. -/
theorem parent?_components (p : Path) :
    (p.parent? = none → p.components = [] ∨ p.components = [.root]) ∧
      ∀ q, p.parent? = some q → p.components ≠ [] ∧ q.components = p.components.dropLast := by
  have same : (Path.mk (trimReversed p.bytes.reverse).reverse).components = p.components := by
    rw [components_trimReversed, List.reverse_reverse]
  simp only [parent?]
  rcases trimReversed_shape p.bytes.reverse with empty | root | ⟨b, rest, trimmed, notSlash, loud⟩
  · rw [empty] at same ⊢
    exact ⟨fun _ => .inl same.symm, by simp⟩
  · rw [root] at same ⊢
    exact ⟨fun _ => .inr same.symm, by simp⟩
  · have more : ¬(b :: rest = [] ∨ b :: rest = [slash]) := by simp [notSlash]
    rw [trimmed] at same ⊢
    rw [if_neg more, ← same]
    refine ⟨by simp, fun q parent => ?_⟩
    cases parent
    -- The path backwards: its last part stands before the first slash, if there is one.
    by_cases slashed : slash ∈ b :: rest
    · obtain ⟨part, way, cut, whole⟩ := List.eq_append_cons_of_mem slashed
      have nonempty : part ≠ [] := by
        rintro rfl
        exact notSlash (List.cons.inj cut).1
      have notPoint : part ≠ [point] := by
        rintro rfl
        obtain ⟨isPoint, behind⟩ := List.cons.inj cut
        exact loud isPoint (by rw [behind]; rfl)
      obtain ⟨c, said⟩ := @componentOf_isSome part.reverse (by simpa using nonempty)
        (by simpa [List.reverse_eq_iff] using notPoint)
      have front : (b :: rest).reverse = way.reverse ++ slash :: part.reverse := by simp [cut]
      rw [front, components_last (by simpa using whole), said, cut, dropWhile_slash whole,
        components_trimReversed, List.reverse_cons]
      simp
    · obtain ⟨c, single⟩ := @components_single (b :: rest).reverse
        (fun member => slashed (List.mem_reverse.mp member)) (by simp)
      have nothing : (b :: rest).dropWhile (· != slash) = [] := by
        refine List.dropWhile_eq_nil_iff.mpr fun x member => ?_
        have other : x ≠ slash := fun same => slashed (same ▸ member)
        simpa using other
      rw [single, nothing]
      exact ⟨by simp, rfl⟩

/-- What stands before the last component of a path to a named entry leads to the directory of the
entry if that component is the name, and elsewhere if it is not. -/
theorem parent?_placeFrom {dir : Path} {start holder : Place} {name : Bytes}
    (atPlace : dir.placeFrom start = holder ++ [name]) :
    (dir.parent?.getD dir).placeFrom start = holder ↔ dir.fileName?.isSome = true := by
  have longer (place : Place) : place ≠ place ++ [name] := fun same => by
    simpa using congrArg List.length same
  obtain ⟨ofNone, ofSome⟩ := parent?_components dir
  cases parent : dir.parent? with
  | none =>
    have unnamed : dir.fileName? = none := by
      rcases ofNone parent with empty | root
      · rw [fileName?, empty]
        rfl
      · rw [fileName?, root]
        rfl
    rw [Option.getD_none, atPlace, unnamed]
    exact iff_of_false (longer holder).symm (by simp)
  | some above =>
    obtain ⟨nonempty, dropped⟩ := ofSome above parent
    obtain ⟨front, last, split⟩ : ∃ front last, dir.components = front ++ [last] :=
      ⟨_, _, (List.dropLast_append_getLast nonempty).symm⟩
    have led : Component.step (above.placeFrom start) last = holder ++ [name] := by
      rw [← atPlace, placeFrom, placeFrom, dropped, split, List.dropLast_concat, List.foldl_append]
      rfl
    rw [Option.getD_some, fileName?, split, List.getLast?_concat]
    cases last with
    | name n => exact iff_of_true (List.append_singleton_inj.mp led).1 rfl
    | root => cases holder <;> cases led
    | current => exact iff_of_false (fun same => longer holder (same.symm.trans led)) (by simp)
    | parent =>
      refine iff_of_false (fun same => ?_) (by simp)
      have short := congrArg List.length led
      rw [same, Component.step, List.length_dropLast, List.length_append, List.length_singleton] at short
      omega

end Path

namespace FileSystem

open CodeAtlas.Path

variable {fs : FileSystem}

theorem turn_step {place next : Place} {part : Bytes} (goes : fs.turn place part = .goes next) :
    next = ([part].filterMap componentOf).foldl Component.step place := by
  unfold turn at goes
  split at goes
  · split_ifs at goes with silent parent long
    · cases goes
      have said : componentOf part = none := if_pos silent
      rw [List.filterMap_cons_none said]
      rfl
    · cases goes
      have said : componentOf part = some .parent := by rw [componentOf, if_neg silent, if_pos parent]
      rw [List.filterMap_cons_some said]
      rfl
    · rename_i es _
      have said : componentOf part = some (.name part) := by rw [componentOf, if_neg silent, if_neg parent]
      rw [List.filterMap_cons_some said]
      cases child : (Node.directory es).child? part with
      | none => simp [child, Turn.ofChild] at goes
      | some n =>
        rw [child] at goes
        cases n with
        | link => simp [Turn.ofChild] at goes
        | file | directory | pipe | locked => exact (Turn.goes.inj goes).symm
  · split_ifs at goes with silent
    cases goes
    have said : componentOf part = none := if_pos (.inl silent)
    rw [List.filterMap_cons_none said]
    rfl
  · contradiction
  · contradiction

theorem follow_placeFrom (unlinked : ∀ q target, fs.root.at? q ≠ some (.link target)) {links : Nat}
    {place q : Place} {parts : List Bytes} {n : Node}
    (led : fs.follow true links place parts = .ok (q, some n)) :
    q = (parts.filterMap componentOf).foldl Component.step place := by
  induction parts generalizing place with
  | nil =>
    rw [follow_nil] at led
    exact (Prod.mk.inj (Except.ok.inj led)).1.symm
  | cons part rest ih =>
    rcases follow_ok led with ⟨next, turned, on⟩ | ⟨_, nothing⟩ | ⟨target, _, _, turned, _⟩
    · rw [← List.singleton_append, List.filterMap_append, List.foldl_append, ← turn_step turned]
      exact ih on
    · cases nothing
    · exact absurd (turn_tells.2 target turned) (unlinked _ target)

/-- Without links a path leads where its spelling says. -/
theorem find_placeFrom (unlinked : ∀ q target, fs.root.at? q ≠ some (.link target)) {p : Path}
    {place : Place} {n : Node} (found : fs.find true p = .ok (place, some n)) :
    place = p.placeFrom fs.current := by
  obtain ⟨_, _, _, led⟩ := find_eq_ok found
  rw [placeFrom_eq]
  exact follow_placeFrom unlinked led

end FileSystem

end CodeAtlas
