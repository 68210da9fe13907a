import CodeAtlas.Graph.Basic
import CodeAtlas.Proofs.Catalog
import Mathlib.Data.List.Perm.Subperm

namespace CodeAtlas

theorem repr_injective {m n : Nat} (same : Nat.repr m = Nat.repr n) : m = n := by
  have digits : Nat.toDigits 10 m = Nat.toDigits 10 n := by
    simpa only [Nat.toList_repr] using congrArg String.toList same
  have values := congrArg (fun ds => Nat.ofDigitChars 10 ds 0) digits
  simpa only [Nat.ofDigitChars_toDigits (by decide : 1 < 10) (by decide : 10 ≤ 10)] using values

theorem Graph.candidate_one (base : String) : candidate base 1 = base := rfl

theorem Graph.candidate_of_two_le {base : String} {n : Nat} (h : 2 ≤ n) :
    candidate base n = base ++ "_" ++ Nat.repr n := by
  rw [candidate, if_neg (by omega)]

theorem Graph.base_ne_suffixed (base suffix : String) : base ≠ base ++ "_" ++ suffix := by
  intro same
  have lengths := congrArg (fun s => s.toList.length) same
  simp only [String.toList_append, List.length_append] at lengths
  have mark : "_".toList.length = 1 := by decide
  omega

theorem Graph.suffixed_injective {base : String} {m n : Nat}
    (same : base ++ "_" ++ Nat.repr m = base ++ "_" ++ Nat.repr n) : m = n := by
  have lists := congrArg String.toList same
  rw [String.toList_append, String.toList_append (t := Nat.repr n)] at lists
  exact repr_injective (String.toList_inj.mp (List.append_cancel_left lists))

/-- Whatever the base, its numbered keys differ from each other. -/
theorem Graph.candidate_injective {base : String} {m n : Nat} (hm : 1 ≤ m) (hn : 1 ≤ n)
    (same : candidate base m = candidate base n) : m = n := by
  rcases Nat.eq_or_lt_of_le hm with rfl | m2 <;> rcases Nat.eq_or_lt_of_le hn with rfl | n2
  · rfl
  · rw [candidate_one, candidate_of_two_le n2] at same
    exact absurd same (base_ne_suffixed _ _)
  · rw [candidate_one, candidate_of_two_le m2] at same
    exact absurd same.symm (base_ne_suffixed _ _)
  · rw [candidate_of_two_le m2, candidate_of_two_le n2] at same
    exact suffixed_injective same

/-- The first numbers of a base can only all be taken if there are as many functions. -/
theorem Graph.taken_le_size {g : Graph} {base : String} {k : Nat}
    (taken : ∀ m, 1 ≤ m → m ≤ k → g.functions.has (candidate base m) = true) : k ≤ g.size := by
  let keys := (List.range' 1 k).map (candidate base)
  have distinct : keys.Nodup := by
    refine List.Nodup.map_on (fun m hm n hn same => ?_) (List.nodup_range' 1)
    rw [List.mem_range'_1] at hm hn
    exact candidate_injective hm.1 hn.1 same
  have among : keys ⊆ g.functions.names := by
    intro key member
    obtain ⟨m, hm, rfl⟩ := List.mem_map.mp member
    rw [List.mem_range'_1] at hm
    exact Catalog.has_iff_mem_names.mp (taken m hm.1 (by omega))
  have count := (List.subperm_of_subset distinct among).length_le
  simpa [keys, Catalog.names, size, Catalog.size] using count

theorem Graph.le_firstFree (g : Graph) (base : String) (fuel n : Nat) :
    n ≤ g.firstFree base fuel n := by
  induction fuel generalizing n with
  | zero => exact Nat.le_refl n
  | succ fuel ih =>
    rw [firstFree]
    split
    · exact Nat.le_of_succ_le (ih (n + 1))
    · exact Nat.le_refl n

theorem Graph.taken_below_firstFree {g : Graph} {base : String} {fuel n m : Nat} (lower : n ≤ m)
    (upper : m < g.firstFree base fuel n) : g.functions.has (candidate base m) = true := by
  induction fuel generalizing n with
  | zero => rw [firstFree] at upper; omega
  | succ fuel ih =>
    rw [firstFree] at upper
    split at upper
    · rename_i taken
      rcases Nat.eq_or_lt_of_le lower with rfl | above
      · exact taken
      · exact ih above upper
    · omega

/-- A search ends at a free key unless it runs out of steps. -/
theorem Graph.firstFree_free {g : Graph} {base : String} {fuel n : Nat}
    (taken : g.functions.has (candidate base (g.firstFree base fuel n)) = true) :
    g.firstFree base fuel n = n + fuel := by
  induction fuel generalizing n with
  | zero => rfl
  | succ fuel ih =>
    rw [firstFree] at taken ⊢
    split at taken
    · rename_i here
      rw [if_pos here, ih taken]
      omega
    · contradiction

/-- The number of the next key of a base. -/
def Graph.nextNumber (g : Graph) (base : String) : Nat :=
  g.firstFree base g.size 1

theorem Graph.assignKey_eq (g : Graph) (base : String) :
    g.assignKey base = candidate base (g.nextNumber base) := rfl

theorem Graph.nextNumber_pos (g : Graph) (base : String) : 1 ≤ g.nextNumber base :=
  g.le_firstFree base g.size 1

theorem Graph.taken_below_nextNumber {g : Graph} {base : String} {m : Nat} (lower : 1 ≤ m)
    (upper : m < g.nextNumber base) : g.functions.has (candidate base m) = true :=
  taken_below_firstFree lower upper

theorem Graph.nextNumber_le (g : Graph) (base : String) : g.nextNumber base ≤ g.size + 1 := by
  have positive := g.nextNumber_pos base
  have taken : ∀ m, 1 ≤ m → m ≤ g.nextNumber base - 1 →
      g.functions.has (candidate base m) = true :=
    fun m lower upper => taken_below_nextNumber lower (by omega)
  have bound := taken_le_size taken
  omega

theorem Graph.nextNumber_free (g : Graph) (base : String) :
    g.functions.has (candidate base (g.nextNumber base)) = false := by
  -- A taken key would end the search by its last step, with one number more than there are keys.
  by_contra taken
  rw [Bool.not_eq_false] at taken
  have last : g.nextNumber base = 1 + g.size := firstFree_free taken
  have all : ∀ m, 1 ≤ m → m ≤ g.size + 1 → g.functions.has (candidate base m) = true := by
    intro m lower upper
    rcases Nat.eq_or_lt_of_le upper with rfl | below
    · rwa [last, Nat.add_comm] at taken
    · exact taken_below_nextNumber lower (by omega)
  have := taken_le_size all
  omega

/-- The next number is the one that is free with all smaller ones taken. -/
theorem Graph.nextNumber_unique {g : Graph} {base : String} {n : Nat} (pos : 1 ≤ n)
    (free : g.functions.has (candidate base n) = false)
    (below : ∀ m, 1 ≤ m → m < n → g.functions.has (candidate base m) = true) :
    g.nextNumber base = n := by
  rcases Nat.lt_trichotomy (g.nextNumber base) n with less | equal | greater
  · have taken := below _ (g.nextNumber_pos base) less
    simp [g.nextNumber_free base] at taken
  · exact equal
  · have taken := taken_below_nextNumber pos greater
    simp [free] at taken

theorem Graph.assignKey_fresh (g : Graph) (base : String) :
    g.functions.has (g.assignKey base) = false :=
  g.nextNumber_free base

end CodeAtlas
