import CodeAtlas.Proofs.KeyAssignment
import Mathlib.Data.Nat.Init

namespace CodeAtlas

namespace Graph

/-- A search from a number on, with a counter that can hold no number above `most`. It ends where the key
is free and goes on where it is taken. -/
inductive Search (g : Graph) (base : String) (most : Nat) : Nat → Nat → Prop
  | free {n} : g.functions.has (base ++ "_" ++ Nat.repr n) = false → Search g base most n n
  | next {n m} : g.functions.has (base ++ "_" ++ Nat.repr n) = true → n + 1 ≤ most →
      Search g base most (n + 1) m → Search g base most n m

variable {g : Graph} {base : String} {most n m : Nat}

/-- Where a search ends is not left open. -/
theorem Search.unique {m' : Nat} (search : g.Search base most n m) (other : g.Search base most n m') :
    m = m' := by
  induction search with
  | free free =>
    cases other with
    | free => rfl
    | next taken => exact absurd taken (by simp [free])
  | next taken _ _ ih =>
    cases other with
    | free free => exact absurd taken (by simp [free])
    | next _ _ later => exact ih later

/-- A search comes through all taken numbers to the first free one, if the counter can hold it. -/
theorem search_of_least (free : g.functions.has (base ++ "_" ++ Nat.repr m) = false)
    (below : ∀ k, n ≤ k → k < m → g.functions.has (base ++ "_" ++ Nat.repr k) = true)
    (lower : n ≤ m) (upper : m ≤ most) : g.Search base most n m := by
  induction lower using Nat.decreasingInduction with
  | self => exact .free free
  | of_succ k less ih =>
    have taken := below k (Nat.le_refl k) less
    exact .next taken (by omega) (ih fun i above => below i (by omega))

theorem nextNumber_eq_one_iff : g.nextNumber base = 1 ↔ g.functions.has base = false := by
  constructor
  · intro one
    have free := g.nextNumber_free base
    rwa [one, candidate_one] at free
  · intro free
    exact nextNumber_unique (Nat.le_refl 1) free fun m lower upper => by omega

/-- A key is found for every base in every graph. It is the base itself unless that is taken. Then it is
the base with the least number from 2 on under which it is free; this number exceeds the number of
functions by one at most, and the search from 2 on ends there and nowhere else, in every counter that can
hold so many. -/
theorem key_search_ends (g : Graph) (base : String) :
    (g.functions.has base = false → g.assignKey base = base) ∧
    (g.functions.has base = true → ∃ n, 2 ≤ n ∧ n ≤ g.size + 1 ∧
      g.assignKey base = base ++ "_" ++ Nat.repr n ∧
      g.functions.has (base ++ "_" ++ Nat.repr n) = false ∧
      (∀ m, 2 ≤ m → m < n → g.functions.has (base ++ "_" ++ Nat.repr m) = true) ∧
      ∀ most, g.size + 1 ≤ most → ∀ m, g.Search base most 2 m ↔ m = n) := by
  constructor
  · intro free
    rw [assignKey_eq, nextNumber_eq_one_iff.mpr free, candidate_one]
  · intro taken
    have two : 2 ≤ g.nextNumber base := by
      have positive := g.nextNumber_pos base
      have notOne : g.nextNumber base ≠ 1 := fun one => by simp [nextNumber_eq_one_iff.mp one] at taken
      omega
    have free := g.nextNumber_free base
    rw [candidate_of_two_le two] at free
    have below : ∀ m, 2 ≤ m → m < g.nextNumber base →
        g.functions.has (base ++ "_" ++ Nat.repr m) = true := by
      intro m lower upper
      rw [← candidate_of_two_le lower]
      exact taken_below_nextNumber (by omega) upper
    have bound := g.nextNumber_le base
    refine ⟨g.nextNumber base, two, bound, ?_, free, below, fun most holds m => ?_⟩
    · rw [assignKey_eq, candidate_of_two_le two]
    · have ends : g.Search base most 2 (g.nextNumber base) :=
        search_of_least free below two (Nat.le_trans bound holds)
      constructor
      · exact fun search => search.unique ends
      · rintro rfl
        exact ends

/-- Under keys that no insertion would give, as a document may hold them. -/
theorem key_search_ends_among_foreign_keys :
    let r : FunctionRecord := ⟨"", "", "", .empty, none⟩
    let g : Graph := ⟨"", .empty, .ofList [("f", r), ("f_2", r), ("f_4", r), ("f_02", r)]⟩
    g.functions.has "f" = true ∧ g.size + 1 ≤ 5 ∧ g.assignKey "f" = "f_3" ∧ g.Search "f" 5 2 3 ∧
      g.functions.has "f_3" = false ∧ g.assignKey "f_3" = "f_3" := by
  intro r g
  have taken : g.functions.has "f" = true := by decide
  have three : g.assignKey "f" = "f_3" := by decide
  obtain ⟨n, _, _, key, _, _, ends⟩ := (key_search_ends g "f").2 taken
  have isThree : n = 3 := by
    have same : "f" ++ "_" ++ Nat.repr n = "f" ++ "_" ++ Nat.repr 3 := key.symm.trans three
    exact suffixed_injective same
  have free : g.functions.has "f_3" = false := by decide
  exact ⟨taken, by decide, three, (ends 5 (by decide) 3).mpr isThree.symm, free, (key_search_ends g "f_3").1 free⟩

end Graph

end CodeAtlas
