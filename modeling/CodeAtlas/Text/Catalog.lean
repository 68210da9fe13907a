namespace CodeAtlas

/-- Values under names, in ascending order of the names. -/
structure Catalog (α : Type) where
  entries : List (String × α)
  ascending : entries.Pairwise (·.1 < ·.1)

namespace Catalog

variable {α β : Type}

def empty : Catalog α := ⟨[], .nil⟩

def setSorted (name : String) (value : α) : List (String × α) → List (String × α)
  | [] => [(name, value)]
  | (other, old) :: rest =>
    if name < other then (name, value) :: (other, old) :: rest
    else if name = other then (name, value) :: rest
    else (other, old) :: setSorted name value rest

theorem name_of_mem_setSorted {name : String} {value : α} {entries : List (String × α)}
    {e : String × α} (h : e ∈ setSorted name value entries) : e = (name, value) ∨ e ∈ entries := by
  induction entries with
  | nil => simpa [setSorted] using h
  | cons f rest ih =>
    rw [setSorted] at h
    split at h
    · simpa using h
    · split at h
      · rcases List.mem_cons.1 h with h | h
        · exact Or.inl h
        · exact Or.inr (List.mem_cons_of_mem _ h)
      · rcases List.mem_cons.1 h with h | h
        · exact Or.inr (h ▸ List.mem_cons_self)
        · exact (ih h).imp_right (List.mem_cons_of_mem _)

theorem ascending_setSorted {name : String} {value : α} {entries : List (String × α)}
    (h : entries.Pairwise (·.1 < ·.1)) : (setSorted name value entries).Pairwise (·.1 < ·.1) := by
  induction entries with
  | nil => simp [setSorted]
  | cons f rest ih =>
    obtain ⟨hf, hrest⟩ := List.pairwise_cons.1 h
    rw [setSorted]
    split
    · next hlt =>
      refine List.pairwise_cons.2 ⟨fun z hz => ?_, h⟩
      rcases List.mem_cons.1 hz with rfl | hz
      · exact hlt
      · exact String.lt_trans hlt (hf z hz)
    · next hlt =>
      split
      · next heq => exact List.pairwise_cons.2 ⟨fun z hz => heq ▸ hf z hz, hrest⟩
      · next hne =>
        refine List.pairwise_cons.2 ⟨fun z hz => ?_, ih hrest⟩
        rcases name_of_mem_setSorted hz with rfl | hz
        · exact Std.lt_of_le_of_ne (String.not_lt.1 hlt) (Ne.symm hne)
        · exact hf z hz

/-- Sets the value of a name, in the name's place. -/
def insert (c : Catalog α) (name : String) (value : α) : Catalog α :=
  ⟨setSorted name value c.entries, ascending_setSorted c.ascending⟩

/-- The value of a name given twice is the later one. -/
def ofList (entries : List (String × α)) : Catalog α :=
  entries.foldl (fun c (name, value) => c.insert name value) empty

def get? (c : Catalog α) (name : String) : Option α :=
  (c.entries.find? (·.1 == name)).map (·.2)

def has (c : Catalog α) (name : String) : Bool :=
  c.entries.any (·.1 == name)

def names (c : Catalog α) : List String :=
  c.entries.map (·.1)

def size (c : Catalog α) : Nat :=
  c.entries.length

/-- Changes the value of a name that is there. -/
def alter (c : Catalog α) (name : String) (f : α → α) : Catalog α :=
  match c.get? name with
  | some a => c.insert name (f a)
  | none => c

end Catalog

end CodeAtlas
