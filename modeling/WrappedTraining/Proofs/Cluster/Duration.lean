import WrappedTraining.Job
import WrappedTraining.Proofs.Cluster.Conditions
import WrappedTraining.Proofs.Cluster.Listing
import WrappedTraining.Proofs.Instant

/-!
# How long a job takes

A job takes the time from its creation until its pods are ready. As long as no condition tells when
that was, a job that runs or has succeeded takes the time since its creation, and any other job
none.

* `Condition.TellsReady`, `Job.FirstReady` : the time at which the pods became ready;
* `Job.exists_firstReady_iff` : with one condition of that kind, the lookup of the first condition
  finds it too;
* `Job.durationAt_of_ready`, `Job.durationAt_of_not_ready` : the duration;
* `Job.duration_of_clock` : outside leap seconds the duration grows with the clock, not faster than
  it, and is no longer than the age;
* `Job.duration_after_leap` : a job that was created in a leap second.
-/

namespace WrappedTraining

/-- **The condition tells when the pods became ready**: it is of that kind, it holds, and it has a
time. -/
def Condition.TellsReady (c : Condition) (t : Instant) : Prop :=
  c.kind = Condition.podsReady ∧ c.truth = .yes ∧ c.changed? = some t

namespace Job

variable {j : Job} {created ready now later : Instant}

/-! ### When the pods became ready -/

/-- The first time that a condition tells for the pods. -/
def FirstReady (j : Job) (t : Instant) : Prop :=
  ∃ before c after, j.envelope.status.conditions = before ++ c :: after ∧ c.TellsReady t ∧
    ∀ b ∈ before, ∀ u, ¬b.TellsReady u

/-- What is looked for among filtered elements can be looked for among all of them. -/
theorem findSome?_filter {α β : Type} (keeps : α → Bool) (f : α → Option β) (xs : List α) :
    (xs.filter keeps).findSome? f = xs.findSome? fun x => if keeps x then f x else none := by
  induction xs with
  | nil => rfl
  | cons x xs ih =>
    cases hx : keeps x with
    | true => rw [List.filter_cons_of_pos hx, List.findSome?_cons, List.findSome?_cons, hx, ih]; rfl
    | false => rw [List.filter_cons_of_neg (by simp [hx]), List.findSome?_cons, hx, ih]; rfl

theorem readyTime?_eq_some_iff : j.readyTime? = some ready ↔ j.FirstReady ready := by
  have htells : ∀ (c : Condition) (t : Instant),
      (if c.kind = Condition.podsReady ∧ c.truth = .yes then c.changed? else none) = some t ↔
        c.TellsReady t := by
    intro c t
    rw [Option.ite_none_right_eq_some, Condition.TellsReady, and_assoc]
  unfold readyTime? FirstReady
  rw [findSome?_filter, List.findSome?_eq_some_iff]
  simp only [decide_eq_true_eq, htells, Option.eq_none_iff_forall_ne_some, ne_eq]

theorem readyTime?_eq_none_iff : j.readyTime? = none ↔ ∀ t, ¬j.FirstReady t := by
  simp only [← readyTime?_eq_some_iff, Option.eq_none_iff_forall_ne_some, ne_eq]

/-- With one condition about ready pods at most, it tells a time exactly if the lookup of the first
condition finds that it holds and has one. -/
theorem exists_firstReady_iff
    (h : (j.envelope.status.conditions.filter fun c => c.kind = Condition.podsReady).length ≤ 1) :
    (∃ t, j.FirstReady t) ↔ j.envelope.holds Condition.podsReady = true ∧
      ∃ c, j.envelope.condition? Condition.podsReady = some c ∧ c.changed? ≠ none := by
  have hcondition : j.envelope.condition? Condition.podsReady =
      (j.envelope.status.conditions.filter fun c => c.kind = Condition.podsReady).head? := by
    rw [List.head?_filter]
    rfl
  have hready : j.readyTime? =
      ((j.envelope.status.conditions.filter fun c => c.kind = Condition.podsReady).filter
        fun c => c.truth = .yes).findSome? (·.changed?) := by
    rw [List.filter_filter]
    simp only [readyTime?, Bool.decide_and, Bool.and_comm]
  simp only [← readyTime?_eq_some_iff]
  unfold Envelope.holds
  rw [hcondition, hready]
  cases hone : j.envelope.status.conditions.filter fun c => c.kind = Condition.podsReady with
  | nil => simp
  | cons c rest =>
    rw [hone, List.length_cons] at h
    obtain rfl : rest = [] := List.eq_nil_of_length_eq_zero (by omega)
    cases htruth : c.truth <;> cases hchanged : c.changed? <;> simp [htruth, hchanged]

/-! ### The duration -/

theorem ageAt_of_started (h : j.started? = some created) : j.ageAt now = now.since created := by
  unfold ageAt
  rw [h]

theorem times_of_not_started (h : j.started? = none) :
    j.ageAt now = .zero ∧ j.durationAt now = .zero := by
  unfold ageAt durationAt
  rw [h]
  exact ⟨rfl, rfl⟩

theorem durationAt_of_ready (h : j.started? = some created) (hready : j.FirstReady ready) :
    j.durationAt now = ready.since created := by
  unfold durationAt
  rw [h, readyTime?_eq_some_iff.2 hready]

theorem durationAt_of_not_ready (h : j.started? = some created) (hnone : ∀ t, ¬j.FirstReady t) :
    j.durationAt now =
      if j.status = .running ∨ j.status = .succeeded then j.ageAt now else .zero := by
  rw [ageAt_of_started h]
  unfold durationAt
  rw [h, readyTime?_eq_none_iff.2 hnone]
  cases j.status <;> simp

/-- The duration stands still, or it is the age. -/
theorem durationAt_still_or_age (j : Job) : (∃ d, ∀ now, j.durationAt now = d) ∨
    ∃ created, j.started? = some created ∧ ∀ now, j.durationAt now = now.since created := by
  cases hstarted : j.started? with
  | none => exact .inl ⟨.zero, fun now => (times_of_not_started hstarted).2⟩
  | some created =>
    by_cases hready : ∃ t, j.FirstReady t
    · obtain ⟨t, ht⟩ := hready
      exact .inl ⟨t.since created, fun now => durationAt_of_ready hstarted ht⟩
    · have hnone := not_exists.1 hready
      by_cases hcounts : j.status = .running ∨ j.status = .succeeded
      · refine .inr ⟨created, rfl, fun now => ?_⟩
        rw [durationAt_of_not_ready hstarted hnone, if_pos hcounts, ageAt_of_started hstarted]
      · refine .inl ⟨.zero, fun now => ?_⟩
        rw [durationAt_of_not_ready hstarted hnone, if_neg hcounts]

theorem durationAt_mono (hcreated : ∀ created, j.started? = some created → ¬created.IsLeap)
    (hnow : ¬now.IsLeap) (hlater : ¬later.IsLeap) (h : now ≤ later) :
    0 ≤ (j.durationAt later).nanos - (j.durationAt now).nanos ∧
      (j.durationAt later).nanos - (j.durationAt now).nanos ≤ (later.since now).nanos := by
  have helapsed := Instant.since_nonneg hlater hnow h
  rcases durationAt_still_or_age j with ⟨d, hd⟩ | ⟨created, hstarted, hage⟩
  · rw [hd, hd]
    omega
  · rw [hage, hage, Instant.since_sub_since hnow hlater (hcreated created hstarted)]
    omega

theorem durationAt_le_ageAt
    (hcreated : ∀ created, j.started? = some created → ¬created.IsLeap ∧ created ≤ now)
    (hnow : ¬now.IsLeap) (hready : ∀ ready, j.FirstReady ready → ¬ready.IsLeap ∧ ready ≤ now) :
    (j.durationAt now).nanos ≤ (j.ageAt now).nanos := by
  cases hstarted : j.started? with
  | none =>
    obtain ⟨hage, hduration⟩ : j.ageAt now = .zero ∧ j.durationAt now = .zero :=
      times_of_not_started hstarted
    exact Int.le_of_eq (by rw [hage, hduration])
  | some created =>
    obtain ⟨hleap, hle⟩ := hcreated created hstarted
    by_cases hexists : ∃ t, j.FirstReady t
    · obtain ⟨t, ht⟩ := hexists
      obtain ⟨htleap, htle⟩ := hready t ht
      rw [durationAt_of_ready hstarted ht, ageAt_of_started hstarted]
      exact Instant.since_mono htleap hnow hleap htle
    · rw [durationAt_of_not_ready hstarted (not_exists.1 hexists)]
      split
      · exact Int.le_refl _
      · rw [ageAt_of_started hstarted]
        exact Instant.since_nonneg hnow hleap hle

/-- **The duration of a job.** Without a time of creation, age and duration are zero. Otherwise the
duration is the time from the creation to the first time that a condition tells for the pods; if
there is none, it is the age of a job that runs or has succeeded, and zero for others.

Where no instant lies in a leap second, the duration does not fall while the clock goes on, and
grows by no more than the clock; and it is no longer than the age, if creation and readiness do not
lie ahead. -/
theorem duration_of_clock (j : Job) :
    (j.started? = none → ∀ now, j.ageAt now = .zero ∧ j.durationAt now = .zero) ∧
    (∀ created, j.started? = some created → ∀ now,
      j.ageAt now = now.since created ∧
      (∀ ready, j.FirstReady ready → j.durationAt now = ready.since created) ∧
      ((∀ ready, ¬j.FirstReady ready) → j.durationAt now =
        if j.status = .running ∨ j.status = .succeeded then j.ageAt now else .zero)) ∧
    ((j.envelope.status.conditions.filter fun c => c.kind = Condition.podsReady).length ≤ 1 →
      ((∃ ready, j.FirstReady ready) ↔ j.envelope.holds Condition.podsReady = true ∧
        ∃ c, j.envelope.condition? Condition.podsReady = some c ∧ c.changed? ≠ none)) ∧
    (∀ now later, (∀ created, j.started? = some created → ¬created.IsLeap) →
      ¬now.IsLeap → ¬later.IsLeap → now ≤ later →
      0 ≤ (j.durationAt later).nanos - (j.durationAt now).nanos ∧
        (j.durationAt later).nanos - (j.durationAt now).nanos ≤ (later.since now).nanos) ∧
    (∀ now, (∀ created, j.started? = some created → ¬created.IsLeap ∧ created ≤ now) →
      ¬now.IsLeap → (∀ ready, j.FirstReady ready → ¬ready.IsLeap ∧ ready ≤ now) →
      (j.durationAt now).nanos ≤ (j.ageAt now).nanos) :=
  ⟨fun h _ => times_of_not_started h,
   fun _ h _ => ⟨ageAt_of_started h, fun _ => durationAt_of_ready h, durationAt_of_not_ready h⟩,
   exists_firstReady_iff,
   fun _ _ hcreated hnow hlater h => durationAt_mono hcreated hnow hlater h,
   fun _ hcreated hnow hready => durationAt_le_ageAt hcreated hnow hready⟩

/-- The job `demo`, created at an instant, runs without conditions. -/
def runningSince (t : Instant) : Job where
  envelope :=
    { Trainer.sampleEnvelope "demo" with
      metadata := { (Trainer.sampleEnvelope "demo").metadata with created? := some t } }
  pods := []

/-- Half an hour after the creation, and a second and a quarter later. -/
theorem duration_of_clock_running :
    let created : Instant := ⟨19844, 36000, 0, by decide, by decide⟩
    let now : Instant := ⟨19844, 37800, 0, by decide, by decide⟩
    let later : Instant := ⟨19844, 37801, 250000000, by decide, by decide⟩
    let j := runningSince created
    (∀ t, j.started? = some t → ¬t.IsLeap ∧ t ≤ now) ∧ ¬now.IsLeap ∧ ¬later.IsLeap ∧ now ≤ later ∧
      (∀ ready, ¬j.FirstReady ready) ∧
      0 ≤ (j.durationAt later).nanos - (j.durationAt now).nanos ∧
      (j.durationAt later).nanos - (j.durationAt now).nanos ≤ 1250000000 ∧
      (j.durationAt now).nanos ≤ (j.ageAt now).nanos ∧ j.durationAt now = ⟨1800000000000⟩ := by
  intro created now later j
  have hstarted : j.started? = some created := rfl
  have hnow : ¬now.IsLeap := by decide
  have hlater : ¬later.IsLeap := by decide
  have hle : now ≤ later := by decide
  have helapsed : (later.since now).nanos = 1250000000 := by decide
  have hcreated : ∀ t, j.started? = some t → ¬t.IsLeap ∧ t ≤ now := by
    intro t ht
    obtain rfl := Option.some.inj (hstarted.symm.trans ht)
    decide
  have hnone : ∀ ready, ¬j.FirstReady ready := by
    rintro ready ⟨before, c, after, hconditions, -⟩
    have hempty : j.envelope.status.conditions = [] := rfl
    rw [hempty] at hconditions
    simp at hconditions
  obtain ⟨-, hduration, -, hmono, hage⟩ := duration_of_clock j
  have hgrowth := hmono now later (fun t ht => (hcreated t ht).1) hnow hlater hle
  rw [helapsed] at hgrowth
  refine ⟨hcreated, hnow, hlater, hle, hnone, hgrowth.1, hgrowth.2,
    hage now hcreated hnow fun ready h => absurd h (hnone ready), ?_⟩
  rw [(hduration created hstarted now).2.2 hnone]
  decide

/-- **After a leap second the duration can be negative.** The job was created half a second into
the leap second at the end of 2016, and runs. -/
theorem duration_after_leap : ∃ created now : Instant,
    Instant.parse? "2016-12-31T23:59:60.5Z" = some created ∧
    Instant.parse? "2017-01-01T00:00:00.2Z" = some now ∧ created ≤ now ∧
    ((runningSince created).durationAt created).nanos = 0 ∧
    ((runningSince created).durationAt now).nanos = -300000000 := by
  refine ⟨_, _, rfl, rfl, by decide, by decide, by decide⟩

end Job

end WrappedTraining
