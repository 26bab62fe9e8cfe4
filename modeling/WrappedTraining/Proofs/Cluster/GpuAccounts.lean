import WrappedTraining.Proofs.Cluster.GpuRequest

/-!
# The GPUs that a job asks for and those that it holds

A job without a request of its own asks for the GPU limits of all its containers, and holds the
limits of the pods that are active. Both are sums in 64 bits.

* `Pod.Requests` : the positive requests that pods carry;
* `Job.SumsFit` : no sum on the way leaves the 64 bits;
* `Job.gpus_of_limits` : for any limits, what is shown, and that it is shown exactly if they fit;
* `Job.limits_leave_range` : limits that do not;
* `Job.gpus_accounted` : where the limits fit, no more GPUs are held than are asked for, and the
  first request of a pod goes before all limits.
-/

namespace WrappedTraining

namespace Pod

/-- **The pod carries a GPU request**: its annotation is the text of a positive integer of 64
bits. -/
def Requests (p : Pod) (n : Int) : Prop :=
  ∃ v, p.request? = some v ∧ Text.integer? v.toList = some n ∧ 0 < n ∧ n ≤ 0x7FFFFFFFFFFFFFFF

/-- What the GPU limits count for in a pod that does not hold its GPUs. -/
def idleLimits (p : Pod) : List Int := if p.Holds then [] else p.limits

variable {p : Pod} {n : Int}

/-- Annotations that are no integer, that are not positive or that do not fit are passed over. -/
theorem annotatedGpus?_eq_some_iff : p.annotatedGpus? = some n ↔ p.Requests n := by
  constructor
  · intro h
    cases hrequest : p.request? with
    | none => cases (annotatedGpus?_of_none hrequest).symm.trans h
    | some v =>
      cases hv : Text.integerIn? (-0x8000000000000000) 0x7FFFFFFFFFFFFFFF v with
      | none =>
        unfold request? at hrequest
        unfold annotatedGpus? at h
        rw [hrequest, Option.bind_some, Text.int64?, hv] at h
        cases h
      | some m =>
        obtain ⟨hm, hlo, hhi⟩ := Text.integerIn?_eq_some_iff.1 hv
        rw [annotatedGpus?_of_integer hrequest hm hlo hhi, Option.ite_none_right_eq_some] at h
        obtain ⟨hpos, hmn⟩ := h
        obtain rfl := Option.some.inj hmn
        exact ⟨v, hrequest, hm, hpos, hhi⟩
  · rintro ⟨v, hrequest, hv, hpos, hhi⟩
    rw [annotatedGpus?_of_integer hrequest hv (by omega) hhi, if_pos hpos]

theorem annotatedGpus?_eq_none_iff : p.annotatedGpus? = none ↔ ∀ n, ¬p.Requests n := by
  simp only [← annotatedGpus?_eq_some_iff, Option.eq_none_iff_forall_ne_some, ne_eq]

theorem sum_limits_eq_add (p : Pod) : p.limits.sum = p.heldLimits.sum + p.idleLimits.sum := by
  unfold heldLimits idleLimits
  split
  · rw [List.sum_nil, add_zero]
  · rw [List.sum_nil, zero_add]

end Pod

namespace Job

variable {j : Job}

/-! ### Requests -/

theorem requestedGpus?_of_none (h : ∀ p ∈ j.pods, ∀ n, ¬p.Requests n) :
    j.requestedGpus? = j.limitGpus? := by
  have hnone : Pod.annotatedAmong? j.pods = none :=
    List.findSome?_eq_none_iff.2 fun p hp => Pod.annotatedGpus?_eq_none_iff.2 (h p hp)
  rw [requestedGpus?_eq, hnone, Option.none_or]

/-- The first positive request among the pods is what the job asks for. -/
theorem exists_first_request (h : ∃ p ∈ j.pods, ∃ n, p.Requests n) :
    ∃ before p after n, j.pods = before ++ p :: after ∧ (∀ q ∈ before, ∀ m, ¬q.Requests m) ∧
      p.Requests n ∧ j.requestedGpus? = some n := by
  obtain ⟨p, hp, n, hn⟩ := h
  cases hfirst : Pod.annotatedAmong? j.pods with
  | none =>
    have hp := List.findSome?_eq_none_iff.1 hfirst p hp
    exact absurd hn (Pod.annotatedGpus?_eq_none_iff.1 hp n)
  | some m =>
    obtain ⟨before, q, after, hpods, hq, hbefore⟩ := List.findSome?_eq_some_iff.1 hfirst
    exact ⟨before, q, after, m, hpods,
      fun r hr => Pod.annotatedGpus?_eq_none_iff.1 (hbefore r hr),
      Pod.annotatedGpus?_eq_some_iff.1 hq, by rw [requestedGpus?_eq, hfirst, Option.some_or]⟩

/-! ### Any limits -/

/-- **No sum on the way leaves the 64 bits**: neither where the limits of all pods are added up, nor
where those of the pods are that hold their GPUs. -/
structure SumsFit (j : Job) : Prop where
  all : j.LimitsFit
  held : j.HeldLimitsFit

theorem SumsFit.inRange (h : j.SumsFit) :
    Quantity.InRange j.limits.sum ∧ Quantity.InRange j.heldLimits.sum := by
  rw [limits, heldLimits, List.flatMap_def, List.flatMap_def]
  exact ⟨h.all.inRange, h.held.inRange⟩

theorem isSome_summaryAt?_iff {now : Instant} : (j.summaryAt? now).isSome ↔
    j.requestedGpus?.isSome ∧ j.allocatedGpus?.isSome := by
  unfold summaryAt?
  cases j.requestedGpus? <;> cases j.allocatedGpus? <;> simp

theorem gpus_of_summaryAt? {now : Instant} {s : JobSummary} (h : j.summaryAt? now = some s) :
    j.requestedGpus? = some s.requestedGpus ∧ j.allocatedGpus? = some s.allocatedGpus := by
  obtain ⟨requested, hrequested, h⟩ := Option.bind_eq_some_iff.1 h
  obtain ⟨allocated, hallocated, h⟩ := Option.bind_eq_some_iff.1 h
  obtain rfl := Option.some.inj h
  exact ⟨hrequested, hallocated⟩

/-! ### Limits that are not negative -/

/-- The limits of the job are those that its pods hold and those that they do not. -/
theorem sum_limits_eq (j : Job) :
    j.limits.sum = j.heldLimits.sum + (j.pods.map fun p => p.idleLimits.sum).sum := by
  rw [limits, heldLimits, List.flatMap_def, List.flatMap_def, List.sum_flatten, List.sum_flatten,
    List.map_map, List.map_map, ← List.sum_map_add]
  exact congrArg List.sum (List.map_congr_left fun p _ => p.sum_limits_eq_add)

theorem sum_idleLimits_nonneg (h : ∀ n ∈ j.limits, 0 ≤ n) :
    ∀ n ∈ j.pods.map fun p => p.idleLimits.sum, 0 ≤ n := by
  refine List.forall_mem_map.2 fun p hp => List.sum_nonneg fun n hn => ?_
  unfold Pod.idleLimits at hn
  split at hn
  · cases hn
  · exact limits_nonneg h p hp n hn

theorem sum_heldLimits_le (h : ∀ n ∈ j.limits, 0 ≤ n) : j.heldLimits.sum ≤ j.limits.sum := by
  have hidle := List.sum_nonneg (sum_idleLimits_nonneg h)
  have hall := sum_limits_eq j
  omega

/-- Where no limit is negative, the sums fit if that of all limits does. -/
theorem sumsFit_iff (h : ∀ n ∈ j.limits, 0 ≤ n) :
    j.SumsFit ↔ j.limits.sum ≤ 0x7FFFFFFFFFFFFFFF :=
  ⟨fun hfit => hfit.inRange.1.2, fun hsum => ⟨(limitsFit_iff h).2 hsum,
    (heldLimitsFit_iff h).2 ((sum_heldLimits_le h).trans hsum)⟩⟩

/-- **What is shown for any limits.** Every limit counts for an integer of 64 bits. A sum of limits
is shown exactly if no sum on the way leaves the 64 bits, and what is shown is exact; a job has a
summary exactly if both its sums are shown. Where no limit is negative, that is so exactly if the
sum of all limits fits. -/
theorem gpus_of_limits (j : Job) (now : Instant) :
    (∀ n ∈ j.limits, Quantity.InRange n) ∧
    (∀ p ∈ j.pods, ∀ n, p.gpus? = some n ↔ Quantity.Fits p.limits ∧ n = p.limits.sum) ∧
    (∀ n, j.allocatedGpus? = some n ↔ j.HeldLimitsFit ∧ n = j.heldLimits.sum) ∧
    ((∀ p ∈ j.pods, ∀ m, ¬p.Requests m) →
      (∀ n, j.requestedGpus? = some n ↔ j.LimitsFit ∧ n = j.limits.sum) ∧
      ((j.summaryAt? now).isSome ↔ j.SumsFit)) ∧
    ((∃ p ∈ j.pods, ∃ m, p.Requests m) →
      j.requestedGpus?.isSome ∧ ((j.summaryAt? now).isSome ↔ j.HeldLimitsFit)) ∧
    (∀ s, j.summaryAt? now = some s →
      j.requestedGpus? = some s.requestedGpus ∧ j.allocatedGpus? = some s.allocatedGpus) ∧
    ((∀ n ∈ j.limits, 0 ≤ n) → (j.SumsFit ↔ j.limits.sum ≤ 0x7FFFFFFFFFFFFFFF)) := by
  refine ⟨fun n hn => ?_, fun p _ n => Quantity.total?_eq_some_iff,
    fun n => allocatedGpus?_eq_some_iff, fun hnone => ?_, fun hsome => ?_,
    fun s => gpus_of_summaryAt?, sumsFit_iff⟩
  · obtain ⟨p, -, hn⟩ := List.mem_flatMap.1 hn
    exact Pod.inRange_of_mem_limits hn
  · rw [isSome_summaryAt?_iff, requestedGpus?_of_none hnone, isSome_limitGpus?_iff,
      isSome_allocatedGpus?_iff]
    exact ⟨fun n => limitGpus?_eq_some_iff, fun h => ⟨h.1, h.2⟩, fun h => ⟨h.all, h.held⟩⟩
  · obtain ⟨-, -, -, n, -, -, -, hn⟩ := exists_first_request hsome
    rw [isSome_summaryAt?_iff, hn, isSome_allocatedGpus?_iff]
    exact ⟨rfl, fun h => h.2, fun h => ⟨rfl, h⟩⟩

/-- A running pod of the job `demo`, with a GPU limit for each of its containers. -/
def limitedPod (name : String) (limits : List String) : Pod :=
  withLimits (Trainer.labelledPod "ml" name [(Labels.envelopeName, "demo")]) limits

/-- Two pods with limits that are quantities, each of which fits: their sum does not, and is not
shown. -/
theorem limits_leave_range :
    let j := ofCandidates (Trainer.sampleEnvelope "demo")
      [limitedPod "demo-0" ["4Ei"], limitedPod "demo-1" ["4Ei"]]
    (∀ p ∈ j.pods, ∀ c ∈ p.containers, ∃ q, c.limits.get? Pod.gpuResource = some q ∧
      Quantity.isValid q = true) ∧
    j.limits = [0x4000000000000000, 0x4000000000000000] ∧
    j.limits.sum = 0x8000000000000000 ∧ ¬j.LimitsFit ∧ ¬j.HeldLimitsFit ∧
    j.requestedGpus? = none ∧ j.allocatedGpus? = none ∧ j.summaryAt? .epoch = none := by
  intro j
  exact ⟨by decide +kernel, by decide +kernel, by decide +kernel, by decide +kernel,
    by decide +kernel, by decide +kernel, by decide +kernel, by decide +kernel⟩

/-! ### Accounts -/

/-- The pods hold all limits exactly if every pod with GPUs holds them. -/
theorem sum_heldLimits_eq_iff (h : ∀ n ∈ j.limits, 0 ≤ n) :
    j.heldLimits.sum = j.limits.sum ↔ ∀ p ∈ j.pods, 0 < p.limits.sum → p.Holds := by
  have hidle := sum_idleLimits_nonneg h
  have hall := sum_limits_eq j
  constructor
  · intro heq p hp hpos
    by_contra hnot
    have hzero : p.idleLimits.sum = 0 := List.all_zero_of_le_zero_le_of_sum_eq_zero hidle (by omega)
      (List.mem_map_of_mem hp)
    rw [Pod.idleLimits, if_neg hnot] at hzero
    omega
  · intro hholds
    have hzero : (j.pods.map fun p => p.idleLimits.sum).sum = 0 := by
      refine List.sum_eq_zero (List.forall_mem_map.2 fun p hp => ?_)
      by_cases hp' : p.Holds
      · rw [Pod.idleLimits, if_pos hp', List.sum_nil]
      · -- a pod that does not hold its GPUs has none
        have hnonneg := List.sum_nonneg (limits_nonneg h p hp)
        have hnot : ¬0 < p.limits.sum := fun hpos => hp' (hholds p hp hpos)
        rw [Pod.idleLimits, if_neg hp']
        omega
    omega

/-- **What a job asks for and what it holds.** Without a positive request on a pod, and with limits
that are not negative and fit together, a job asks for the sum of all limits and holds the sum of
those of its active pods, which is not negative and not more; it holds all that it asks for exactly
if every pod that shows GPUs holds them. Otherwise it asks for what the first pod with a positive
request carries, whatever the limits are. -/
theorem gpus_accounted (j : Job) :
    ((∀ p ∈ j.pods, ∀ n, ¬p.Requests n) → (∀ n ∈ j.limits, 0 ≤ n) →
      j.limits.sum ≤ 0x7FFFFFFFFFFFFFFF →
      j.requestedGpus? = some j.limits.sum ∧ j.allocatedGpus? = some j.heldLimits.sum ∧
      0 ≤ j.heldLimits.sum ∧ j.heldLimits.sum ≤ j.limits.sum ∧
      (∀ p ∈ j.pods, p.gpus? = some p.limits.sum) ∧
      (j.heldLimits.sum = j.limits.sum ↔ ∀ p ∈ j.pods, 0 < p.limits.sum → p.Holds)) ∧
    ((∃ p ∈ j.pods, ∃ n, p.Requests n) → ∃ before p after n, j.pods = before ++ p :: after ∧
      (∀ q ∈ before, ∀ m, ¬q.Requests m) ∧ p.Requests n ∧ j.requestedGpus? = some n) := by
  refine ⟨fun hnone hlimits hsum => ?_, exists_first_request⟩
  have hfit := (sumsFit_iff hlimits).2 hsum
  have hheld : 0 ≤ j.heldLimits.sum := List.sum_nonneg fun n hn => by
    obtain ⟨p, hp, hn⟩ := List.mem_flatMap.1 hn
    exact heldLimits_nonneg hlimits p hp n hn
  have hpods : ∀ p ∈ j.pods, p.gpus? = some p.limits.sum := fun p hp =>
    (hfit.all.each p.limits (List.mem_map_of_mem hp)).total?_eq
  exact ⟨(requestedGpus?_of_none hnone).trans hfit.all.limitGpus?_eq, hfit.held.allocatedGpus?_eq,
    hheld, sum_heldLimits_le hlimits, hpods, sum_heldLimits_eq_iff hlimits⟩

/-- One pod has not started yet, and another one has ended; its limit is no quantity. -/
theorem gpus_accounted_idle :
    let j := ofCandidates (Trainer.sampleEnvelope "demo")
      [limitedPod "demo-0" ["2", "500m"], { limitedPod "demo-1" ["1.9"] with startTime? := none },
       { limitedPod "demo-2" ["abc"] with phase? := some "Succeeded" }]
    (∀ p ∈ j.pods, ∀ n, ¬p.Requests n) ∧ (∀ n ∈ j.limits, 0 ≤ n) ∧
      j.limits.sum ≤ 0x7FFFFFFFFFFFFFFF ∧ j.requestedGpus? = some 3 ∧ j.allocatedGpus? = some 2 ∧
      ¬∀ p ∈ j.pods, 0 < p.limits.sum → p.Holds := by
  intro j
  have hnone : ∀ p ∈ j.pods, ∀ n, ¬p.Requests n := by
    simp only [← Pod.annotatedGpus?_eq_none_iff]
    decide
  have hlimits : ∀ n ∈ j.limits, 0 ≤ n := by decide +kernel
  have hsum : j.limits.sum = 3 := by decide +kernel
  have hheld : j.heldLimits.sum = 2 := by decide +kernel
  obtain ⟨hrequested, hallocated, -, -, -, hall⟩ :=
    (gpus_accounted j).1 hnone hlimits (by rw [hsum]; decide)
  refine ⟨hnone, hlimits, by rw [hsum]; decide, by rw [hrequested, hsum],
    by rw [hallocated, hheld], ?_⟩
  rw [← hall, hsum, hheld]
  decide

/-- Requests that are no integer or not positive do not hide a later one. -/
example : (ofCandidates (Trainer.sampleEnvelope "demo")
    [annotatedPod "ml" "demo-0" "many", annotatedPod "ml" "demo-1" "0",
     annotatedPod "ml" "demo-2" "16", annotatedPod "ml" "demo-3" "8"]).requestedGpus? =
      some 16 := by
  decide

end Job

end WrappedTraining
