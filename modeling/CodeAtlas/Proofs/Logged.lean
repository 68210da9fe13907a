import CodeAtlas.Log

namespace CodeAtlas

variable {α β : Type}

@[simp] theorem Logged.value_pure (a : α) : (pure a : Logged α).value = a := rfl

@[simp] theorem Logged.value_bind (x : Logged α) (f : α → Logged β) :
    (x >>= f).value = (f x.value).value := rfl

theorem Logged.value_foldlM (f : β → α → Logged β) (start : β) (items : List α) :
    (items.foldlM f start).value = items.foldl (fun state a => (f state a).value) start := by
  induction items generalizing start with
  | nil => rfl
  | cons a items ih =>
    rw [List.foldlM_cons, value_bind, List.foldl_cons]
    exact ih (f start a).value

end CodeAtlas
