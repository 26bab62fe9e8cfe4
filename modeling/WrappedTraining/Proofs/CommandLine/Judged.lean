import Mathlib.Tactic.ByContra
import WrappedTraining.Proofs.CommandLine.Words

/-!
# When options are judged

The option that was read last is not stored before the next option or positional word, or the end.
It could as well be stored at once.

* `Progress.store_eq_ok_iff` : when an option is stored, and what that changes;
* `CommandSpec.step_of_resolve` : a word is read the same if the pending option was judged before;
* `CommandSpec.read_append` : so words up to the end of an option can be read on their own.
-/

namespace WrappedTraining.CommandLine

section

variable {σ : Type} {c : CommandSpec σ} {p q : Progress σ} {o : OptionSpec σ} {v w : String}
  {ws ws' : List String}

theorem UsageError.bind_eq_ok_iff {α β : Type} {x : Except UsageError α}
    {f : α → Except UsageError β} {b : β} : x >>= f = .ok b ↔ ∃ a, x = .ok a ∧ f a = .ok b := by
  cases x <;> simp [bind, Except.bind]

namespace Progress

/-! ### Storing and judging -/

theorem note_eq_ok_iff : p.note o = .ok q ↔
    (o.repeats = true ∨ o.long ∉ p.seen) ∧ q = { p with seen := o.long :: p.seen } := by
  constructor
  · intro h
    have hfresh : o.repeats = true ∨ o.long ∉ p.seen := by
      by_contra hne
      rw [not_or, Bool.not_eq_true, not_not] at hne
      simp [note, hne] at h
    rw [note_of_fresh hfresh] at h
    cases h
    exact ⟨hfresh, rfl⟩
  · rintro ⟨hfresh, rfl⟩
    exact note_of_fresh hfresh

/-- An option that can still be given changes the settings as it is given, and is seen. -/
theorem store_eq_ok_iff : p.store o v = .ok q ↔ (o.repeats = true ∨ o.long ∉ p.seen) ∧
    ∃ value? s, (∀ v' ∈ value?, v' = v) ∧ o.Takes value? p.settings s ∧ q = p.after o s := by
  unfold store OptionSpec.Takes
  cases ha : o.action with
  | value f =>
    simp only [UsageError.bind_eq_ok_iff, note_eq_ok_iff]
    constructor
    · rintro ⟨_, ⟨hfresh, rfl⟩, s, hs, h⟩
      cases h
      exact ⟨hfresh, some v, s, by simp, hs, rfl⟩
    · rintro ⟨hfresh, value?, s, hv, hs, rfl⟩
      cases value? with
      | none => exact hs.elim
      | some v' =>
        obtain rfl := hv v' rfl
        exact ⟨_, ⟨hfresh, rfl⟩, s, hs, rfl⟩
  | switch f =>
    simp only [UsageError.bind_eq_ok_iff, note_eq_ok_iff]
    constructor
    · rintro ⟨_, ⟨hfresh, rfl⟩, h⟩
      cases h
      exact ⟨hfresh, none, _, by simp, rfl, rfl⟩
    · rintro ⟨hfresh, value?, s, -, hs, rfl⟩
      cases value? with
      | none => exact ⟨_, ⟨hfresh, rfl⟩, by rw [← hs]; rfl⟩
      | some v' => exact hs.elim
  | stop reason => simp

theorem store_literal (h : p.store o v = .ok q) :
    { p with literal := true }.store o v = .ok { q with literal := true } := by
  obtain ⟨hfresh, value?, s, hv, hs, rfl⟩ := store_eq_ok_iff.1 h
  exact store_eq_ok_iff.2 ⟨hfresh, value?, s, hv, hs, rfl⟩

/-- The pending option can be judged early: it has its value, and storing that leads to `q`. -/
def Early (p q : Progress σ) : Prop :=
  ∃ o v, p.pending = some (o, some v) ∧ { p with pending := none }.store o v = .ok q

theorem eq_or_early_of_resolve (h : p.resolve = .ok q) :
    p = q ∧ p.pending = none ∨ p.Early q := by
  unfold resolve at h
  split at h
  · next hp =>
    cases h
    exact .inl ⟨rfl, hp⟩
  · cases h
  · next o v hp => exact .inr ⟨o, v, hp, h⟩

namespace Early

variable (h : p.Early q)
include h

theorem exists_pending : ∃ o v, p.pending = some (o, some v) := by
  obtain ⟨o, v, hp, -⟩ := h
  exact ⟨o, v, hp⟩

theorem resolve : p.resolve = .ok q := by
  obtain ⟨o, v, hp, hstore⟩ := h
  rw [Progress.resolve, hp]
  exact hstore

theorem eq_after : ∃ o s, q = { p with pending := none }.after o s := by
  obtain ⟨o, v, -, hstore⟩ := h
  obtain ⟨-, -, s, -, -, rfl⟩ := store_eq_ok_iff.1 hstore
  exact ⟨o, s, rfl⟩

theorem pending_eq_none : q.pending = none := by
  obtain ⟨o, s, rfl⟩ := h.eq_after
  rfl

theorem literal_eq : q.literal = p.literal := by
  obtain ⟨o, s, rfl⟩ := h.eq_after
  rfl

theorem words_eq : q.words = p.words := by
  obtain ⟨o, s, rfl⟩ := h.eq_after
  rfl

theorem resolve_eq : p.resolve = q.resolve := by
  rw [h.resolve, Progress.resolve, h.pending_eq_none]

theorem takesAnyWord_eq : p.takesAnyWord = q.takesAnyWord := by
  obtain ⟨o, v, hp⟩ := h.exists_pending
  rw [takesAnyWord, takesAnyWord, hp, h.pending_eq_none]

theorem literally : { p with literal := true }.Early { q with literal := true } := by
  obtain ⟨o, v, hp, hstore⟩ := h
  exact ⟨o, v, hp, store_literal hstore⟩

end Early

end Progress

namespace CommandSpec

open Progress (Early)

/-! ### Reading on -/

theorem readWord_of_early (h : p.Early q) (w : String) : c.readWord p w = c.readWord q w := by
  unfold readWord
  rw [h.resolve_eq, h.words_eq]

theorem readPlain_of_early (h : p.Early q) (w : String) : c.readPlain p w = c.readPlain q w := by
  obtain ⟨o, v, hp⟩ := h.exists_pending
  rw [readPlain, readPlain, hp, h.pending_eq_none]
  exact readWord_of_early h w

theorem readLong_of_early (h : p.Early q) (o : OptionSpec σ) (value? : Option String) :
    readLong p o value? = readLong q o value? := by
  simp only [readLong, Progress.attached, Progress.await, Progress.alone, h.resolve_eq]

theorem readShorts_of_early (h : p.Early q) {letters : List Char} (hne : letters ≠ []) :
    c.readShorts p letters = c.readShorts q letters := by
  cases letters with
  | nil => exact absurd rfl hne
  | cons letter rest =>
    simp only [readShorts, Progress.attached, Progress.await, Progress.alone, h.resolve_eq]

theorem shorts_ne_nil {letters : List Char} (h : Shape.ofWord w = .shorts letters) :
    letters ≠ [] := by
  unfold Shape.ofWord at h
  split at h
  · cases h
  · split at h <;> cases h
  · cases h
    exact List.cons_ne_nil _ _
  · cases h

/-- A word is read the same, or it is `--` and leaves the pending option as it was. -/
theorem step_of_early (h : p.Early q) (w : String) : c.step p w = c.step q w ∨
    c.step p w = .ok { p with literal := true } ∧ c.step q w = .ok { q with literal := true } := by
  cases hlit : p.literal with
  | true =>
    left
    rw [step, step, h.literal_eq, if_pos hlit, if_pos hlit]
    exact readWord_of_early h w
  | false =>
    simp only [step, h.literal_eq, hlit, Bool.false_eq_true, if_false, h.takesAnyWord_eq,
      readPlain_of_early h]
    cases hshape : Shape.ofWord w with
    | escape =>
      cases hany : q.takesAnyWord with
      | true => exact .inl rfl
      | false => exact .inr ⟨rfl, rfl⟩
    | long name value? => exact .inl (by simp only [readLong_of_early h])
    | shorts letters => exact .inl (by simp only [readShorts_of_early h (shorts_ne_nil hshape)])
    | plain => exact .inl rfl

theorem read_of_early (h : p.Early q) (ws : List String) : c.read p ws = c.read q ws := by
  induction ws generalizing p q with
  | nil => exact h.resolve_eq
  | cons w ws ih =>
    rw [read, read]
    rcases step_of_early h w with heq | ⟨hp, hq⟩
    · rw [heq]
    · rw [hp, hq]
      exact ih h.literally

/-- **It does not matter when an option is judged**, as long as its value is good. -/
theorem read_of_resolve (h : p.resolve = .ok q) (ws : List String) :
    c.read p ws = c.read q ws := by
  rcases Progress.eq_or_early_of_resolve h with ⟨rfl, -⟩ | hearly
  · rfl
  · exact read_of_early hearly ws

/-- **Words can be read in two parts** if the first part can be read on its own. -/
theorem read_append (h : c.read p ws = .ok q) (ws' : List String) :
    c.read p (ws ++ ws') = c.read q ws' := by
  induction ws generalizing p with
  | nil => exact read_of_resolve h ws'
  | cons w ws ih =>
    rw [read] at h
    obtain ⟨p', hstep, hread⟩ := UsageError.bind_eq_ok_iff.1 h
    rw [List.cons_append, read, hstep]
    exact ih hread

theorem pending_of_read (h : c.read p ws = .ok q) : q.pending = none := by
  induction ws generalizing p with
  | nil =>
    rcases Progress.eq_or_early_of_resolve h with ⟨rfl, hp⟩ | hearly
    · exact hp
    · exact hearly.pending_eq_none
  | cons w ws ih =>
    rw [read] at h
    obtain ⟨p', -, hread⟩ := UsageError.bind_eq_ok_iff.1 h
    exact ih hread

end CommandSpec

end

end WrappedTraining.CommandLine
