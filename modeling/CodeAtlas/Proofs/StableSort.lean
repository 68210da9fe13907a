import CodeAtlas.Builder
import Mathlib.Data.List.Nodup

namespace CodeAtlas

section
variable {α : Type} {le : α → α → Bool}

/-- Two ways to put the same element between smaller and greater ones are one. -/
theorem split_unique (le : α → α → Bool) {a : α} {l₁ l₂ m₁ m₂ : List α} (same : l₁ ++ l₂ = m₁ ++ m₂)
    (hl₁ : ∀ b ∈ l₁, le a b = false) (hl₂ : ∀ b ∈ l₂, le a b = true)
    (hm₁ : ∀ b ∈ m₁, le a b = false) (hm₂ : ∀ b ∈ m₂, le a b = true) :
    l₁ = m₁ ∧ l₂ = m₂ := by
  have smaller (k₁ k₂ : List α) (h₁ : ∀ b ∈ k₁, le a b = false)
      (h₂ : ∀ b ∈ k₂, le a b = true) :
      (k₁ ++ k₂).filter (le a · == false) = k₁ ∧ (k₁ ++ k₂).filter (le a ·) = k₂ := by
    have none₁ : k₁.filter (le a ·) = [] := List.filter_eq_nil_iff.mpr fun b hb => by simp [h₁ b hb]
    have none₂ : k₂.filter (le a · == false) = [] :=
      List.filter_eq_nil_iff.mpr fun b hb => by simp [h₂ b hb]
    have all₁ : k₁.filter (le a · == false) = k₁ :=
      List.filter_eq_self.mpr fun b hb => by simp [h₁ b hb]
    have all₂ : k₂.filter (le a ·) = k₂ := List.filter_eq_self.mpr h₂
    simp only [List.filter_append, none₁, none₂, all₁, all₂, List.append_nil, List.nil_append,
      and_self]
  obtain ⟨left, right⟩ := smaller l₁ l₂ hl₁ hl₂
  obtain ⟨left', right'⟩ := smaller m₁ m₂ hm₁ hm₂
  rw [same] at left right
  exact ⟨left.symm.trans left', right.symm.trans right'⟩

/-- Leaving elements out before a stable sort or after it comes to the same, ties included. -/
theorem filter_mergeSort (trans : ∀ a b c, le a b = true → le b c = true → le a c = true)
    (total : ∀ a b, (le a b || le b a) = true) (p : α → Bool) (l : List α) :
    (l.mergeSort le).filter p = (l.filter p).mergeSort le := by
  -- An element goes before all that are not smaller, with and without the others left in.
  induction l with
  | nil => simp
  | cons a l ih =>
    have ordered (l₁ l₂ k : List α) (sorted : (a :: k).mergeSort le = l₁ ++ a :: l₂) :
        ∀ b ∈ l₂, le a b = true := by
      have pairs := List.pairwise_mergeSort trans total (a :: k)
      rw [sorted] at pairs
      exact (List.pairwise_cons.mp (List.pairwise_append.mp pairs).2.1).1
    obtain ⟨l₁, l₂, sorted, rest, smaller⟩ := List.mergeSort_cons trans total a l
    rw [rest, List.filter_append] at ih
    rw [sorted, List.filter_append]
    by_cases kept : p a = true
    · rw [List.filter_cons_of_pos kept, List.filter_cons_of_pos kept]
      obtain ⟨m₁, m₂, sorted', rest', smaller'⟩ := List.mergeSort_cons trans total a (l.filter p)
      have greater := ordered l₁ l₂ l sorted
      have parts := split_unique le (a := a) (ih.trans rest')
        (fun b hb => by simpa using smaller b (List.mem_filter.mp hb).1)
        (fun b hb => greater b (List.mem_filter.mp hb).1)
        (fun b hb => by simpa using smaller' b hb) (ordered m₁ m₂ _ sorted')
      rw [sorted', parts.1, parts.2]
    · rw [List.filter_cons_of_neg kept, List.filter_cons_of_neg kept]
      exact ih

/-- Keys that differ leave one order for the same elements. -/
theorem mergeSort_eq_of_perm (key : α → Bytes) {l m : List α}
    (trans : ∀ a b c, le a b = true → le b c = true → le a c = true)
    (total : ∀ a b, (le a b || le b a) = true)
    (antisymm : ∀ a b, le a b = true → le b a = true → key a = key b)
    (distinct : (l.map key).Nodup) (perm : l.Perm m) : l.mergeSort le = m.mergeSort le := by
  have sorted : (l.mergeSort le).Perm (m.mergeSort le) :=
    ((List.mergeSort_perm l le).trans perm).trans (List.mergeSort_perm m le).symm
  refine sorted.eq_of_pairwise (fun a b ha hb below above => ?_)
    (List.pairwise_mergeSort trans total l) (List.pairwise_mergeSort trans total m)
  have inside : a ∈ l := (List.mergeSort_perm l le).mem_iff.mp ha
  have inside' : b ∈ l := perm.mem_iff.mpr ((List.mergeSort_perm m le).mem_iff.mp hb)
  exact List.inj_on_of_nodup_map distinct inside inside' (antisymm a b below above)

end

theorem nameLE_iff {a b : Bytes} : nameLE a b = true ↔ a ≤ b := by
  induction a generalizing b with
  | nil => simp [nameLE]
  | cons x a ih =>
    cases b with
    | nil => simp [nameLE]
    | cons y b => simp [nameLE, ih, List.cons_le_cons_iff]

theorem nameLE_trans (a b c : Bytes) (ab : nameLE a b = true) (bc : nameLE b c = true) :
    nameLE a c = true :=
  nameLE_iff.mpr (List.le_trans (nameLE_iff.mp ab) (nameLE_iff.mp bc))

theorem nameLE_total (a b : Bytes) : (nameLE a b || nameLE b a) = true := by
  rw [Bool.or_eq_true, nameLE_iff, nameLE_iff]
  exact List.le_total a b

theorem nameLE_antisymm (a b : Bytes) (ab : nameLE a b = true) (ba : nameLE b a = true) : a = b :=
  List.le_antisymm (nameLE_iff.mp ab) (nameLE_iff.mp ba)

theorem Builder.sourceLE_trans (a b c : SourceFile) (ab : sourceLE a b = true)
    (bc : sourceLE b c = true) : sourceLE a c = true := by
  simp only [sourceLE, decide_eq_true_eq] at ab bc ⊢
  exact String.le_trans ab bc

theorem Builder.sourceLE_total (a b : SourceFile) : (sourceLE a b || sourceLE b a) = true := by
  simp only [sourceLE, Bool.or_eq_true, decide_eq_true_eq]
  exact String.le_total a.relative b.relative

end CodeAtlas
