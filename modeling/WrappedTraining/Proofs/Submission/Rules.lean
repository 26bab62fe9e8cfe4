import Mathlib.Data.List.Forall2
import WrappedTraining.Proofs.Submission.Stages

/-!
# Rules and the first that is violated

A `Rule` is something that has to hold, with the error if it does not. Rules stand in the order in
which they are looked at, and only the first violated one counts (`FirstViolated`).

`Judges rules e?` says that rules and an outcome fit: without an error all rules hold, and an error
is that of the first violated rule. An outcome that fits is determined by the rules
(`Judges.eq_none_iff`, `Judges.eq_some_iff`). Judgements are put together as the code is:

* `judges_findSome?` : checks of which the first fault counts;
* `judges_readUntil` : entries that are read up to the first that does not read;
* `Outcome.Judged.andThen` : stages, if the first leaves alone what the rules of the second look at.
-/

namespace WrappedTraining

/-- Something that has to hold, and the error if it does not. -/
structure Rule where
  /-- What has to hold. -/
  holds : Prop
  /-- The error, if there is something to complain about. -/
  error? : Option Submission.Error

namespace Rule

/-- A condition and its error. -/
def condition (p : Prop) (e : Submission.Error) : Rule := ⟨p, some e⟩

/-- Something that has to read. The error is made of the cause why it does not. -/
def reads {α ε : Type} (x : Except ε α) (fault : ε → Submission.Error) : Rule where
  holds := ∃ a, x = .ok a
  error? := match x with
    | .ok _ => none
    | .error cause => some (fault cause)

/-- The rule where an exemption from it does not apply. -/
def exempt (p : Prop) (ρ : Rule) : Rule := ⟨p ∨ ρ.holds, ρ.error?⟩

end Rule

/-- The error is that of the first violated rule. -/
inductive FirstViolated : List Rule → Submission.Error → Prop
  | head {ρ : Rule} {rules : List Rule} {e : Submission.Error} (violated : ¬ρ.holds)
      (error : ρ.error? = some e) : FirstViolated (ρ :: rules) e
  | tail {ρ : Rule} {rules : List Rule} {e : Submission.Error} (kept : ρ.holds)
      (later : FirstViolated rules e) : FirstViolated (ρ :: rules) e

namespace FirstViolated

variable {rules : List Rule} {e e' : Submission.Error}

theorem not_forall (h : FirstViolated rules e) : ¬∀ ρ ∈ rules, ρ.holds := by
  induction h with
  | head violated => exact fun hall => violated (hall _ List.mem_cons_self)
  | tail _ _ ih => exact fun hall => ih fun ρ hρ => hall ρ (List.mem_cons_of_mem _ hρ)

theorem unique (h : FirstViolated rules e) (h' : FirstViolated rules e') : e = e' := by
  induction h with
  | head violated error =>
    cases h' with
    | head _ error' => exact Option.some.inj (error.symm.trans error')
    | tail kept _ => exact absurd kept violated
  | tail kept _ ih =>
    cases h' with
    | head violated _ => exact absurd kept violated
    | tail _ later => exact ih later

theorem append (h : FirstViolated rules e) (rules' : List Rule) :
    FirstViolated (rules ++ rules') e := by
  induction h with
  | head violated error => exact .head violated error
  | tail kept _ ih => exact .tail kept ih

theorem append_of_forall {rules' : List Rule} (hall : ∀ ρ ∈ rules, ρ.holds)
    (h : FirstViolated rules' e) : FirstViolated (rules ++ rules') e := by
  induction rules with
  | nil => exact h
  | cons ρ rules ih =>
    exact .tail (hall ρ List.mem_cons_self) (ih fun σ hσ => hall σ (List.mem_cons_of_mem _ hσ))

/-- Of rules after others the first violated one counts if all others hold. -/
theorem append_iff {rules' : List Rule} : FirstViolated (rules ++ rules') e ↔
    FirstViolated rules e ∨ (∀ ρ ∈ rules, ρ.holds) ∧ FirstViolated rules' e := by
  constructor
  · intro h
    induction rules with
    | nil => exact .inr ⟨List.forall_mem_nil _, h⟩
    | cons ρ rules ih =>
      cases h with
      | head violated error => exact .inl (.head violated error)
      | tail kept later =>
        rcases ih later with hfirst | ⟨hall, hsecond⟩
        · exact .inl (.tail kept hfirst)
        · exact .inr ⟨List.forall_mem_cons.2 ⟨kept, hall⟩, hsecond⟩
  · rintro (hfirst | ⟨hall, hsecond⟩)
    · exact hfirst.append rules'
    · exact append_of_forall hall hsecond

/-- Rules that hold make no difference, wherever they stand. -/
theorem append_iff_of_forall {between after : List Rule} (hall : ∀ ρ ∈ between, ρ.holds) :
    FirstViolated (rules ++ (between ++ after)) e ↔ FirstViolated (rules ++ after) e := by
  have hnone : ¬FirstViolated between e := fun h => h.not_forall hall
  rw [append_iff, append_iff, append_iff, or_iff_right hnone, and_iff_right hall]

end FirstViolated

/-! ### Outcomes that fit rules -/

/-- Without an error all rules hold, and an error is that of the first violated rule. -/
def Judges (rules : List Rule) : Option Submission.Error → Prop
  | none => ∀ ρ ∈ rules, ρ.holds
  | some e => FirstViolated rules e

section Judges

variable {rules rules' : List Rule} {ρ : Rule} {e? e?' : Option Submission.Error}
  {e : Submission.Error}

theorem Judges.eq_none_iff (h : Judges rules e?) : e? = none ↔ ∀ ρ ∈ rules, ρ.holds := by
  cases e? with
  | none => exact iff_of_true rfl h
  | some e => exact iff_of_false (fun heq => by cases heq) h.not_forall

theorem Judges.eq_some_iff (h : Judges rules e?) : e? = some e ↔ FirstViolated rules e := by
  cases e? with
  | none => exact iff_of_false (fun heq => by cases heq) fun h' => h'.not_forall h
  | some e' =>
    refine ⟨fun heq => ?_, fun h' => congrArg some (FirstViolated.unique h h')⟩
    obtain rfl := Option.some.inj heq
    exact h

theorem judges_nil : Judges [] none := fun _ hρ => absurd hρ List.not_mem_nil

theorem Judges.append (h : Judges rules none) (h' : Judges rules' e?) :
    Judges (rules ++ rules') e? := by
  cases e? with
  | none => exact List.forall_mem_append.2 ⟨h, h'⟩
  | some e => exact FirstViolated.append_of_forall h h'

theorem Judges.append_of_error (h : Judges rules (some e)) (rules' : List Rule) :
    Judges (rules ++ rules') (some e) := FirstViolated.append h rules'

theorem Judges.cons (hρ : ρ.holds) (h : Judges rules e?) : Judges (ρ :: rules) e? :=
  Judges.append (List.forall_mem_singleton.2 hρ) h

/-- A check that complains when the condition does not hold, and others after it. -/
theorem Judges.ite {p q : Prop} [Decidable q] (hq : ¬q ↔ p) (h : Judges rules e?) :
    Judges (.condition p e :: rules) (if q then some e else e?) := by
  split
  · rename_i hviolated
    exact .head (fun hp => hq.2 hp hviolated) rfl
  · rename_i hkept
    exact h.cons (hq.1 hkept)

/-- A check that looks whether the condition is violated. -/
theorem judges_if_violated {p q : Prop} [Decidable q] (hq : ¬q ↔ p) (e : Submission.Error) :
    Judges [.condition p e] (if q then some e else none) :=
  judges_nil.ite hq

/-- A check that looks whether the condition is kept. -/
theorem judges_if_kept {p q : Prop} [Decidable q] (hq : q ↔ p) (e : Submission.Error) :
    Judges [.condition p e] (if q then none else some e) := by
  rw [← ite_not]
  exact judges_if_violated (not_not.trans hq) e

theorem judges_reads {α ε : Type} (x : Except ε α) (fault : ε → Submission.Error) :
    Judges [.reads x fault] (Rule.reads x fault).error? := by
  cases x with
  | ok a => exact List.forall_mem_singleton.2 ⟨a, rfl⟩
  | error cause => exact .head (fun ⟨a, ha⟩ => by cases ha) rfl

/-- Checks that are made unless the exemption applies. -/
theorem Judges.exempt {p : Prop} [Decidable p] (h : Judges rules e?) :
    Judges (rules.map (·.exempt p)) (if p then none else e?) := by
  split
  · rename_i hp
    exact List.forall_mem_map.2 fun _ _ => .inl hp
  · rename_i hp
    have hholds : ∀ ρ : Rule, (ρ.exempt p).holds ↔ ρ.holds := fun ρ => or_iff_right hp
    cases e? with
    | none => exact List.forall_mem_map.2 fun ρ hρ => (hholds ρ).2 (h ρ hρ)
    | some e =>
      change FirstViolated rules e at h
      show FirstViolated (rules.map (·.exempt p)) e
      induction h with
      | @head ρ _ _ violated error => exact .head (mt (hholds ρ).1 violated) error
      | @tail ρ _ _ kept _ ih => exact .tail ((hholds ρ).2 kept) ih

/-- Checks after others. -/
theorem Judges.or (h : Judges rules e?) (h' : Judges rules' e?') :
    Judges (rules ++ rules') (e?.or e?') := by
  cases e? with
  | none => exact h.append h'
  | some e => exact h.append_of_error rules'

/-- Of several checks the first fault counts. -/
theorem judges_findSome? {groups : List (List Rule)} {faults : List (Option Submission.Error)}
    (h : List.Forall₂ Judges groups faults) : Judges groups.flatten (faults.findSome? id) := by
  induction h with
  | nil => exact judges_nil
  | @cons rules fault? groups faults hfirst _ ih =>
    rw [List.flatten_cons, List.findSome?_cons]
    cases fault? with
    | none => exact hfirst.or ih
    | some e => exact hfirst.or ih

/-- The error of something that does not read. -/
def faultOf {α : Type} : Except Submission.Error α → Option Submission.Error
  | .ok _ => none
  | .error e => some e

/-- Entries are read up to the first that does not read. -/
theorem judges_readUntil {α : Type} {read : String → Except Submission.Error α}
    {rule : String → Rule} (h : ∀ entry, Judges [rule entry] (faultOf (read entry)))
    (entries : List String) : Judges (entries.map rule) (readUntil read entries).2 := by
  induction entries with
  | nil => exact judges_nil
  | cons entry entries ih =>
    have hentry := h entry
    unfold readUntil
    cases hread : read entry with
    | error e =>
      rw [hread] at hentry
      exact hentry.append_of_error (entries.map rule)
    | ok a =>
      rw [hread] at hentry
      exact hentry.append ih

end Judges

/-! ### Stages that fit rules -/

namespace Outcome

variable {first second : Submission → Outcome} {rules rules' : Submission → List Rule}

/-- The error of a stage is that of the first violated rule, and there is none if all rules of the
submission hold. -/
def Judged (stage : Submission → Outcome) (rules : Submission → List Rule) : Prop :=
  ∀ s, Judges (rules s) (stage s).error?

/-- **Stages one after the other.** The rules of the second stage may be asked of the submission
that the first one starts from, as it leaves alone what they look at. -/
theorem Judged.andThen (h : Judged first rules) (h' : Judged second rules')
    (hkeeps : Keeps rules' first) :
    Judged (fun s => (first s).andThen second) fun s => rules s ++ rules' s := by
  intro s
  have hfirst := h s
  have hrules : rules' (first s).submission = rules' s := hkeeps s
  show Judges (rules s ++ rules' s) ((first s).andThen second).error?
  unfold Outcome.andThen
  -- the second stage is only looked at when the first one has no error, and all its rules hold
  cases he : (first s).error? with
  | none =>
    rw [he] at hfirst
    exact hfirst.append (hrules ▸ h' (first s).submission)
  | some e =>
    rw [he] at hfirst
    simp only [he]
    exact hfirst.append_of_error _

/-- A stage without checks after another. -/
theorem Judged.andThen_done (h : Judged first rules) (f : Submission → Submission) :
    Judged (fun s => (first s).andThen fun t => .done (f t)) rules := by
  have hdone : Judged (fun t => .done (f t)) fun _ => [] := fun _ => judges_nil
  simpa using h.andThen hdone fun _ => rfl

/-- A stage without checks before another. -/
theorem Judged.mapJob_andThen (h : Judged second rules) {f : JobSpec → JobSpec}
    (hkeeps : Keeps rules (Submission.mapJob f)) :
    Judged (fun s => (Submission.mapJob f s).andThen second) rules := by
  have hmap : Judged (Submission.mapJob f) fun _ => [] := fun _ => judges_nil
  exact hmap.andThen h hkeeps

end Outcome

end WrappedTraining
