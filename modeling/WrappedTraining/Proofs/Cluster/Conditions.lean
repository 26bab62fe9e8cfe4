import WrappedTraining.Envelope
import WrappedTraining.Proofs.Inserted

/-!
# What decides the status of a job

The status of a job is read off the phase of its envelope and, in two of the phases, off the first
condition of one kind.

* `Condition.IsFirst`, `Envelope.FirstHolds` : the first condition of a kind, and that it holds;
* `Envelope.jobStatus_congr` : the status depends on nothing else;
* `Envelope.condition?_append`, `Envelope.condition?_inserted` : conditions that come too late, and
  conditions of other kinds;
* `Envelope.status_of_conditions` : when there is which status, and which conditions can come and
  go without changing it.
-/

namespace WrappedTraining

/-- **The first condition of a kind** among others. -/
def Condition.IsFirst (c : Condition) (kind : String) (cs : List Condition) : Prop :=
  ∃ before after, cs = before ++ c :: after ∧ c.kind = kind ∧ ∀ b ∈ before, b.kind ≠ kind

namespace Envelope

variable {e e' : Envelope} {kind : String} {cs : List Condition} {c : Condition}

/-! ### The first condition of a kind -/

/-- The first condition of a kind holds; a truth value that is not known does not. -/
def FirstHolds (e : Envelope) (kind : String) : Prop :=
  ∃ c : Condition, c.IsFirst kind e.status.conditions ∧ c.truth = .yes

theorem condition?_eq_some_iff :
    e.condition? kind = some c ↔ c.IsFirst kind e.status.conditions := by
  unfold condition? Condition.IsFirst
  rw [List.find?_eq_some_iff_append]
  constructor
  · rintro ⟨hkind, before, after, hcs, hbefore⟩
    exact ⟨before, after, hcs, by simpa using hkind, fun b hb => by simpa using hbefore b hb⟩
  · rintro ⟨before, after, hcs, hkind, hbefore⟩
    exact ⟨by simpa using hkind, before, after, hcs, fun b hb => by simpa using hbefore b hb⟩

theorem holds_iff : e.holds kind = true ↔ e.FirstHolds kind := by
  unfold holds FirstHolds
  simp only [← condition?_eq_some_iff]
  cases e.condition? kind with
  | none => simp
  | some c => simp

/-! ### The status -/

/-- **When there is which status.** In two phases the first condition of one kind decides. -/
def HasStatus (e : Envelope) : JobStatus → Prop
  | .failed => e.status.phase = .failed ∨
      e.status.phase = .running ∧ e.FirstHolds Condition.unhealthy
  | .running => e.status.phase = .running ∧ ¬e.FirstHolds Condition.unhealthy
  | .succeeded => e.status.phase = .succeeded
  | .queuing => e.status.phase = .unseen ∨ e.status.phase = .suspended ∨
      e.status.phase = .resuming ∧ ¬e.FirstHolds Condition.quotaReserved
  | .pending => e.status.phase ∈ [.resetting, .suspending, .terminating, .unknown] ∨
      e.status.phase = .resuming ∧ e.FirstHolds Condition.quotaReserved

theorem jobStatus_eq_iff {s : JobStatus} : e.jobStatus = s ↔ e.HasStatus s := by
  unfold jobStatus
  cases hphase : e.status.phase with
  | resuming =>
    by_cases hquota : e.holds Condition.quotaReserved
    · cases s <;> simp [HasStatus, hphase, ← holds_iff, hquota]
    · cases s <;> simp [HasStatus, hphase, ← holds_iff, hquota]
  | running =>
    by_cases hunhealthy : e.holds Condition.unhealthy
    · cases s <;> simp [HasStatus, hphase, ← holds_iff, hunhealthy]
    · cases s <;> simp [HasStatus, hphase, ← holds_iff, hunhealthy]
  | _ => cases s <;> simp [HasStatus, hphase]

/-- The status depends on the phase and on the first conditions of two kinds. -/
theorem jobStatus_congr (hphase : e'.status.phase = e.status.phase)
    (hunhealthy : e'.condition? Condition.unhealthy = e.condition? Condition.unhealthy)
    (hquota : e'.condition? Condition.quotaReserved = e.condition? Condition.quotaReserved) :
    e'.jobStatus = e.jobStatus := by
  unfold jobStatus holds
  rw [hphase, hunhealthy, hquota]

/-- The status depends on the phase and on which conditions are the first of their kinds. -/
theorem jobStatus_of_firsts (hphase : e'.status.phase = e.status.phase)
    (hfirst : ∀ (kind : String) (c : Condition),
      c.IsFirst kind e'.status.conditions ↔ c.IsFirst kind e.status.conditions) :
    e'.jobStatus = e.jobStatus := by
  have hsame : ∀ kind, e'.condition? kind = e.condition? kind := by
    intro kind
    apply Option.ext
    intro c
    rw [condition?_eq_some_iff, condition?_eq_some_iff, hfirst]
  exact jobStatus_congr hphase (hsame _) (hsame _)

/-! ### Other conditions -/

/-- The envelope with other conditions. -/
def withConditions (e : Envelope) (cs : List Condition) : Envelope :=
  { e with status := { e.status with conditions := cs } }

/-- A condition does not count behind one of its kind. -/
theorem condition?_append {more : List Condition}
    (h : ∀ c ∈ more, ∃ c' ∈ e.status.conditions, c'.kind = c.kind) (kind : String) :
    (e.withConditions (e.status.conditions ++ more)).condition? kind = e.condition? kind := by
  unfold condition? withConditions
  rw [List.find?_append]
  cases hfirst : e.status.conditions.find? fun c => c.kind = kind with
  | some c => rfl
  | none =>
    rw [Option.none_or, List.find?_eq_none]
    intro c hc hkind
    obtain ⟨c', hc', hsame⟩ := h c hc
    have hnone := List.find?_eq_none.1 hfirst c' hc'
    simp only [decide_eq_true_eq] at hkind hnone
    exact hnone (hsame.trans hkind)

/-- Conditions of other kinds do not count. -/
theorem condition?_inserted (h : Inserted (fun c => c.kind ≠ kind) e.status.conditions cs) :
    (e.withConditions cs).condition? kind = e.condition? kind :=
  (h.mono fun c hc => by simpa using hc).find?_eq

/-- In the two last phases no condition counts. -/
theorem jobStatus_withConditions (h : e.status.phase = .succeeded ∨ e.status.phase = .failed)
    (cs : List Condition) : (e.withConditions cs).jobStatus = e.jobStatus := by
  rcases h with h | h
  · rw [jobStatus_eq_iff.2 (show e.HasStatus .succeeded from h)]
    exact jobStatus_eq_iff.2 (show (e.withConditions cs).HasStatus .succeeded from h)
  · rw [jobStatus_eq_iff.2 (show e.HasStatus .failed from .inl h)]
    exact jobStatus_eq_iff.2 (show (e.withConditions cs).HasStatus .failed from .inl h)

/-- **What decides the status.** Each status belongs to phases, in two of which the first condition
of one kind decides. An envelope with the same phase and the same first conditions has the same
status. Conditions at the end that have one of their kind before them change nothing, nor do
conditions of other kinds at any place, and in the two last phases no condition counts. -/
theorem status_of_conditions (e : Envelope) :
    (∀ s, e.jobStatus = s ↔ e.HasStatus s) ∧
    (∀ e' : Envelope, e'.status.phase = e.status.phase →
      (∀ (kind : String) (c : Condition),
        c.IsFirst kind e'.status.conditions ↔ c.IsFirst kind e.status.conditions) →
      e'.jobStatus = e.jobStatus) ∧
    (∀ more, (∀ c ∈ more, ∃ c' ∈ e.status.conditions, c'.kind = c.kind) →
      (e.withConditions (e.status.conditions ++ more)).jobStatus = e.jobStatus) ∧
    (∀ cs, Inserted (fun c => c.kind ≠ Condition.unhealthy ∧ c.kind ≠ Condition.quotaReserved)
        e.status.conditions cs → (e.withConditions cs).jobStatus = e.jobStatus) ∧
    (e.status.phase = .succeeded ∨ e.status.phase = .failed →
      ∀ cs, (e.withConditions cs).jobStatus = e.jobStatus) := by
  refine ⟨fun s => jobStatus_eq_iff, fun e' => jobStatus_of_firsts, fun more hmore => ?_,
    fun cs hcs => ?_, jobStatus_withConditions⟩
  · exact jobStatus_congr rfl (condition?_append hmore _) (condition?_append hmore _)
  · exact jobStatus_congr rfl (condition?_inserted (hcs.mono fun c hc => hc.1))
      (condition?_inserted (hcs.mono fun c hc => hc.2))

end Envelope

end WrappedTraining
