/-!
# Lists with more elements

`Inserted P xs ys` says that `ys` is `xs` with more elements, wherever these stand, all of which
have the property `P`. Elements that a filter drops, or that a search passes over, change nothing.
-/

namespace WrappedTraining

/-- **The second list is the first with more elements**, wherever these stand; each of them has the
property. -/
inductive Inserted {α : Type} (P : α → Prop) : List α → List α → Prop where
  | nil : Inserted P [] []
  | keep {a : α} {xs ys : List α} : Inserted P xs ys → Inserted P (a :: xs) (a :: ys)
  | insert {a : α} {xs ys : List α} : P a → Inserted P xs ys → Inserted P xs (a :: ys)

namespace Inserted

variable {α : Type} {P : α → Prop} {xs ys : List α}

theorem filter_eq {keeps : α → Bool} (h : Inserted (fun a => keeps a = false) xs ys) :
    ys.filter keeps = xs.filter keeps := by
  induction h with
  | nil => rfl
  | keep _ ih => rw [List.filter_cons, List.filter_cons, ih]
  | insert ha _ ih => rw [List.filter_cons_of_neg (by simp [ha]), ih]

theorem forall_mem (h : Inserted P xs ys) (hxs : ∀ a ∈ xs, P a) : ∀ a ∈ ys, P a := by
  induction h with
  | nil => exact hxs
  | keep _ ih =>
    rw [List.forall_mem_cons] at hxs ⊢
    exact ⟨hxs.1, ih hxs.2⟩
  | insert ha _ ih => exact List.forall_mem_cons.2 ⟨ha, ih hxs⟩

/-- Elements that are not looked for do not change what is found first. -/
theorem find?_eq {wanted : α → Bool} (h : Inserted (fun a => wanted a = false) xs ys) :
    ys.find? wanted = xs.find? wanted := by
  induction h with
  | nil => rfl
  | keep _ ih => rw [List.find?_cons, List.find?_cons, ih]
  | insert ha _ ih => rw [List.find?_cons_of_neg (by simp [ha]), ih]

theorem mono {Q : α → Prop} (hPQ : ∀ a, P a → Q a) (h : Inserted P xs ys) : Inserted Q xs ys := by
  induction h with
  | nil => exact .nil
  | keep _ ih => exact .keep ih
  | insert ha _ ih => exact .insert (hPQ _ ha) ih

end Inserted

end WrappedTraining
