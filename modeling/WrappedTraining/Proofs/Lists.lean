import Mathlib.Data.List.Forall2

/-!
# Lists read element by element

A list is read as another one, each element as the one at its place; reading fails as soon as an
element cannot be read.

* `Lists.mapM_eq_some_iff`, `Lists.mapM_eq_ok_iff` : what a list is read as;
* `Lists.exists_of_mapM_eq_error`, `Lists.exists_forall₂_iff` : it cannot be read if and only if one
  of its elements cannot;
* `Lists.forall₂_filterMap`, `Lists.rel_find?` : choosing before reading, and after it;
* `Lists.forall_prefix_cons_iff` : what holds of every front of a list.
-/

namespace WrappedTraining.Lists

variable {α β : Type} {xs : List α} {ys : List β}

/-! ### Reading -/

theorem mapM_eq_some_iff {f : α → Option β} :
    xs.mapM f = some ys ↔ List.Forall₂ (fun x y => f x = some y) xs ys := by
  induction xs generalizing ys with
  | nil => cases ys <;> simp
  | cons x xs ih =>
    rw [List.mapM_cons]
    cases hx : f x with
    | none => cases ys <;> simp [hx]
    | some y =>
      cases hxs : xs.mapM f with
      | none => cases ys <;> simp [hx, ← ih, hxs]
      | some zs => cases ys <;> simp [hx, ← ih, hxs]

theorem mapM_eq_ok_iff {ε : Type} {f : α → Except ε β} :
    xs.mapM f = .ok ys ↔ List.Forall₂ (fun x y => f x = .ok y) xs ys := by
  induction xs generalizing ys with
  | nil => cases ys <;> simp [pure, Except.pure]
  | cons x xs ih =>
    rw [List.mapM_cons]
    cases hx : f x with
    | error e => cases ys <;> simp [bind, Except.bind, hx]
    | ok y =>
      cases hxs : xs.mapM f with
      | error e => cases ys <;> simp [bind, Except.bind, hx, ← ih, hxs]
      | ok zs => cases ys <;> simp [bind, Except.bind, pure, Except.pure, hx, ← ih, hxs]

/-- The error of reading a list is that of one of its elements. -/
theorem exists_of_mapM_eq_error {ε : Type} {f : α → Except ε β} {e : ε}
    (h : xs.mapM f = .error e) : ∃ x ∈ xs, f x = .error e := by
  induction xs with
  | nil => cases h
  | cons x xs ih =>
    rw [List.mapM_cons] at h
    cases hx : f x with
    | error e' =>
      rw [hx] at h
      obtain rfl : e' = e := Except.error.inj h
      exact ⟨x, List.mem_cons_self, hx⟩
    | ok y =>
      cases hxs : xs.mapM f with
      | error e' =>
        rw [hx, hxs] at h
        obtain rfl : e' = e := Except.error.inj h
        obtain ⟨x', hx', hf⟩ := ih hxs
        exact ⟨x', List.mem_cons_of_mem x hx', hf⟩
      | ok ys =>
        rw [hx, hxs] at h
        cases h

/-- Everything in a list can be related if and only if each of its elements can. -/
theorem exists_forall₂_iff {R : α → β → Prop} :
    (∃ ys, List.Forall₂ R xs ys) ↔ ∀ x ∈ xs, ∃ y, R x y := by
  induction xs with
  | nil => simp
  | cons x xs ih =>
    rw [List.forall_mem_cons, ← ih]
    constructor
    · rintro ⟨_, hxs⟩
      cases hxs with
      | cons hx hxs => exact ⟨⟨_, hx⟩, _, hxs⟩
    · rintro ⟨⟨y, hx⟩, ys, hxs⟩
      exact ⟨y :: ys, .cons hx hxs⟩

/-! ### Choosing -/

/-- Where every element of a part can be read, reading the whole and then choosing the same part
reads it. -/
theorem forall₂_filterMap {f : α → Option β} {p : α → Bool} {q : β → Bool}
    (hpq : ∀ x y, f x = some y → p x = q y) (h : ∀ x ∈ xs, p x → f x ≠ none) :
    List.Forall₂ (fun x y => f x = some y) (xs.filter p) ((xs.filterMap f).filter q) := by
  induction xs with
  | nil => exact .nil
  | cons x xs ih =>
    replace ih := ih fun x' hx' => h x' (List.mem_cons_of_mem x hx')
    cases hx : f x with
    | none =>
      -- what cannot be read is not chosen either
      have hp : ¬p x := fun hp => h x List.mem_cons_self hp hx
      rwa [List.filter_cons_of_neg hp, List.filterMap_cons_none hx]
    | some y =>
      rw [List.filterMap_cons_some hx, List.filter_cons, List.filter_cons, hpq x y hx]
      split
      · exact .cons hx ih
      · exact ih

/-- Of related lists, what is found first is related. -/
theorem rel_find? {R : α → β → Prop} {p : α → Bool} {q : β → Bool} (h : List.Forall₂ R xs ys)
    (hpq : ∀ x, ∀ y ∈ ys, R x y → p x = q y) :
    Option.Rel R (xs.find? p) (ys.find? q) := by
  induction h with
  | nil => exact .none
  | @cons x y xs ys hxy _ ih =>
    rw [List.find?_cons, List.find?_cons, hpq x y List.mem_cons_self hxy]
    cases q y with
    | true => exact .some hxy
    | false => exact ih fun x' y' hy' => hpq x' y' (List.mem_cons_of_mem y hy')

/-! ### Fronts -/

/-- The fronts of a list are the empty one, and those of the rest with the first element. -/
theorem forall_prefix_cons_iff {P : List α → Prop} {x : α} :
    (∀ front, front <+: x :: xs → P front) ↔ P [] ∧ ∀ front, front <+: xs → P (x :: front) := by
  constructor
  · intro h
    refine ⟨h [] List.nil_prefix, fun front hfront => ?_⟩
    exact h (x :: front) ((List.prefix_cons_inj x).2 hfront)
  · rintro ⟨hnil, hcons⟩ front hfront
    rcases List.prefix_cons_iff.1 hfront with rfl | ⟨rest, rfl, hrest⟩
    · exact hnil
    · exact hcons rest hrest

end WrappedTraining.Lists
