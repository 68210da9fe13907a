import CodeAtlas.Text.Catalog
import CodeAtlas.Text.NameSet
import Mathlib.Data.List.Nodup

namespace CodeAtlas

variable {α : Type}

/-- Names in ascending order leave one order only for the same entries. -/
theorem ascending_ext {a b : List (String × α)} (ha : a.Pairwise (·.1 < ·.1))
    (hb : b.Pairwise (·.1 < ·.1)) (same : ∀ e, e ∈ a ↔ e ∈ b) : a = b := by
  have irrefl : ∀ x y : String × α, x.1 < y.1 → x ≠ y := by
    intro x y less equal
    rw [equal] at less
    exact String.lt_irrefl _ less
  have perm : a.Perm b := (List.perm_ext_iff_of_nodup
    (ha.imp (irrefl _ _)) (hb.imp (irrefl _ _))).mpr same
  refine perm.eq_of_pairwise (fun x y _ _ less greater => ?_) ha hb
  exact absurd (String.lt_trans less greater) (String.lt_irrefl _)

theorem Catalog.ext_of_mem {a b : Catalog α} (same : ∀ e, e ∈ a.entries ↔ e ∈ b.entries) :
    a = b := by
  have entries := ascending_ext a.ascending b.ascending same
  cases a
  cases b
  cases entries
  rfl

theorem Catalog.has_iff_mem {c : Catalog α} {name : String} :
    c.has name = true ↔ ∃ value, (name, value) ∈ c.entries := by
  simp only [has, List.any_eq_true, beq_iff_eq]
  constructor
  · rintro ⟨⟨other, value⟩, member, rfl⟩
    exact ⟨value, member⟩
  · rintro ⟨value, member⟩
    exact ⟨(name, value), member, rfl⟩

theorem Catalog.has_iff_mem_names {c : Catalog α} {name : String} :
    c.has name = true ↔ name ∈ c.names := by
  simp [has_iff_mem, names]

theorem setSorted_perm {name : String} {value : α} {entries : List (String × α)}
    (fresh : ∀ e ∈ entries, e.1 ≠ name) :
    (Catalog.setSorted name value entries).Perm ((name, value) :: entries) := by
  induction entries with
  | nil => exact .rfl
  | cons entry rest ih =>
    obtain ⟨other, old⟩ := entry
    have different : name ≠ other := (fresh _ List.mem_cons_self).symm
    have restFresh : ∀ e ∈ rest, e.1 ≠ name := fun e he => fresh e (List.mem_cons_of_mem _ he)
    rw [Catalog.setSorted, if_neg different]
    split
    · exact .rfl
    · exact ((ih restFresh).cons _).trans (.swap ..)

/-- A name that was not there adds an entry and changes no other. -/
theorem Catalog.insert_perm {c : Catalog α} {name : String} (value : α)
    (fresh : c.has name = false) :
    (c.insert name value).entries.Perm ((name, value) :: c.entries) := by
  refine setSorted_perm fun e member equal => ?_
  have there : c.has name = true := has_iff_mem.mpr ⟨e.2, equal ▸ member⟩
  simp [fresh] at there

theorem Catalog.mem_insert {c : Catalog α} {name : String} {value : α} {e : String × α}
    (fresh : c.has name = false) :
    e ∈ (c.insert name value).entries ↔ e = (name, value) ∨ e ∈ c.entries := by
  rw [(insert_perm value fresh).mem_iff, List.mem_cons]

theorem Catalog.size_insert {c : Catalog α} {name : String} {value : α}
    (fresh : c.has name = false) : (c.insert name value).size = c.size + 1 := by
  simpa only [size, List.length_cons] using (insert_perm value fresh).length_eq

theorem Catalog.has_insert {c : Catalog α} {name other : String} {value : α}
    (fresh : c.has name = false) :
    (c.insert name value).has other = true ↔ other = name ∨ c.has other = true := by
  simp only [has_iff_mem, mem_insert fresh, Prod.mk.injEq, exists_or]
  simp

/-- A name is given its value, whether it was there or not, and no other name a new one. -/
theorem Catalog.get?_insert (c : Catalog α) (name : String) (value : α) (other : String) :
    (c.insert name value).get? other = if other = name then some value else c.get? other := by
  obtain ⟨entries, ascending⟩ := c
  simp only [get?, insert]
  clear ascending
  induction entries with
  | nil =>
    by_cases same : name = other
    · simp [setSorted, same]
    · simp [setSorted, same, Ne.symm same]
  | cons entry rest ih =>
    obtain ⟨first, old⟩ := entry
    rw [setSorted]
    split
    · by_cases same : name = other
      · simp [same]
      · simp [same, Ne.symm same]
    · split
      · rename_i atFirst
        subst atFirst
        by_cases same : name = other
        · simp [same]
        · simp [same, Ne.symm same]
      · rename_i different
        by_cases here : first = other
        · subst here
          simp [Ne.symm different]
        · rw [List.find?_cons_of_neg (by simpa using here),
            List.find?_cons_of_neg (by simpa using here)]
          exact ih

theorem Catalog.has_eq_isSome (c : Catalog α) (name : String) : c.has name = (c.get? name).isSome := by
  rw [get?, Option.isSome_map, List.isSome_find?, has]

theorem setSorted_greatest {name : String} {value : α} {entries : List (String × α)}
    (greatest : ∀ e ∈ entries, e.1 < name) :
    Catalog.setSorted name value entries = entries ++ [(name, value)] := by
  induction entries with
  | nil => rfl
  | cons entry rest ih =>
    obtain ⟨first, old⟩ := entry
    obtain ⟨less, greatest⟩ := List.forall_mem_cons.mp greatest
    have after : ¬name < first := fun greater => String.lt_irrefl _ (String.lt_trans less greater)
    have different : name ≠ first := fun same => String.lt_irrefl first (same ▸ less)
    rw [Catalog.setSorted, if_neg after, if_neg different, ih greatest]
    rfl

/-- Entries in ascending order, inserted one after another, stand as they came. -/
theorem Catalog.foldl_insert (c : Catalog α) {entries : List (String × α)}
    (ascending : (c.entries ++ entries).Pairwise (·.1 < ·.1)) :
    (entries.foldl (fun c e => c.insert e.1 e.2) c).entries = c.entries ++ entries := by
  induction entries generalizing c with
  | nil => exact (List.append_nil _).symm
  | cons e entries ih =>
    have greatest : ∀ x ∈ c.entries, x.1 < e.1 := fun x member =>
      (List.pairwise_append.mp ascending).2.2 x member e List.mem_cons_self
    have atEnd : (c.insert e.1 e.2).entries = c.entries ++ [e] := setSorted_greatest greatest
    rw [List.append_cons, ← atEnd] at ascending
    rw [List.foldl_cons, ih _ ascending, atEnd, ← List.append_cons]

theorem NameSet.mem_foldl_insert {names : List String} {set : NameSet} {name : String} :
    name ∈ names.foldl insert set ↔ name ∈ set ∨ name ∈ names := by
  induction names generalizing set with
  | nil => simp
  | cons first names ih =>
    rw [List.foldl_cons, ih, mem_insert, List.mem_cons]
    tauto

theorem NameSet.mem_ofList {names : List String} {name : String} :
    name ∈ ofList names ↔ name ∈ names := by
  rw [ofList, mem_foldl_insert]
  exact or_iff_right (List.not_mem_nil)

theorem NameSet.ext {a b : NameSet} (same : ∀ name, name ∈ a ↔ name ∈ b) : a = b := by
  obtain ⟨as, ha⟩ := a
  obtain ⟨bs, hb⟩ := b
  have irrefl : ∀ x y : String, x < y → x ≠ y := fun x y less equal =>
    String.lt_irrefl _ (equal ▸ less)
  have perm : as.Perm bs := (List.perm_ext_iff_of_nodup
    (ha.imp (irrefl _ _)) (hb.imp (irrefl _ _))).mpr same
  have equal : as = bs := perm.eq_of_pairwise (fun x y _ _ less greater =>
    absurd (String.lt_trans less greater) (String.lt_irrefl _)) ha hb
  cases equal
  rfl

theorem Catalog.get?_foldl_insert {entries : List (String × α)} {c : Catalog α} {name : String} :
    (entries.foldl (fun c (e : String × α) => c.insert e.1 e.2) c).get? name =
      (entries.reverse.lookup name).or (c.get? name) := by
  induction entries generalizing c with
  | nil => rfl
  | cons e entries ih =>
    obtain ⟨first, value⟩ := e
    rw [List.foldl_cons, ih, get?_insert, List.reverse_cons, List.lookup_append]
    by_cases same : name = first
    · subst same
      cases entries.reverse.lookup name <;> simp
    · cases entries.reverse.lookup name <;> simp [same, beq_false_of_ne same, List.lookup_cons]

theorem Catalog.get?_ofList (entries : List (String × α)) (name : String) :
    (ofList entries).get? name = entries.reverse.lookup name := by
  rw [ofList]
  exact get?_foldl_insert.trans (Option.or_none)

theorem Catalog.get?_eq_some {c : Catalog α} {name : String} {value : α} :
    c.get? name = some value ↔ (name, value) ∈ c.entries := by
  obtain ⟨entries, ascending⟩ := c
  simp only [get?]
  induction entries with
  | nil => simp
  | cons e entries ih =>
    obtain ⟨less, ascending⟩ := List.pairwise_cons.mp ascending
    by_cases here : e.1 = name
    · rw [List.find?_cons_of_pos (by simpa using here), List.mem_cons, Option.map_some]
      have elsewhere : (name, value) ∉ entries := fun member =>
        String.lt_irrefl e.1 (here ▸ less (name, value) member : e.1 < e.1)
      rw [or_iff_left elsewhere, Option.some.injEq, Prod.ext_iff, and_iff_right here.symm, eq_comm]
    · rw [List.find?_cons_of_neg (by simpa using here), ih ascending, List.mem_cons]
      exact (or_iff_right fun same => here (congrArg Prod.fst same).symm).symm

theorem Catalog.ext_of_get? {a b : Catalog α} (same : ∀ name, a.get? name = b.get? name) : a = b := by
  refine Catalog.ext_of_mem fun ⟨name, value⟩ => ?_
  rw [← get?_eq_some, ← get?_eq_some, same]

end CodeAtlas
