import WrappedTraining.Job
import WrappedTraining.Proofs.Quantity.Total

/-!
# GPU limits added up

The GPU limits of a job are added up in 64 bits, first over the containers of a pod and then over
the pods: once for all pods, and once for those that hold their GPUs.

* `Pod.limits`, `Pod.heldLimits` : what the limits of a pod count for;
* `Job.LimitsFit`, `Job.HeldLimitsFit` : no sum on the way leaves the 64 bits;
* `Job.limitGpus?_eq_some_iff`, `Job.allocatedGpus?_eq_some_iff` : there is an answer exactly then,
  and it is the sum of the limits;
* `Pod.together?_unique_of_perm`, `Pod.together?_eq_of_perm` : what the order of the pods can
  change.
-/

namespace WrappedTraining

namespace Pod

/-- **The pod holds its GPUs**: it has a start time, and its phase is missing or is not one of the
two last ones. -/
def Holds (p : Pod) : Prop :=
  p.startTime? ≠ none ∧ p.phase? ≠ some "Succeeded" ∧ p.phase? ≠ some "Failed"

instance (p : Pod) : Decidable p.Holds := inferInstanceAs (Decidable (_ ∧ _ ∧ _))

/-- What the GPU limits of the containers count for. -/
def limits (p : Pod) : List Int := p.containers.map gpuLimit

/-- What the GPU limits count for in a pod that holds its GPUs; any other has nothing to count. -/
def heldLimits (p : Pod) : List Int := if p.Holds then p.limits else []

variable {p : Pod} {n : Int}

theorem isActive_iff : p.isActive = true ↔ p.Holds := by
  simp [isActive, Holds, Option.isSome_iff_ne_none, and_assoc]

theorem inRange_of_mem_limits (h : n ∈ p.limits) : Quantity.InRange n := by
  obtain ⟨c, -, rfl⟩ := List.mem_map.1 h
  unfold gpuLimit
  split
  · exact Quantity.inRange_count _
  · exact Quantity.inRange_zero

theorem heldLimits_sublist (p : Pod) : p.heldLimits.Sublist p.limits := by
  unfold heldLimits
  split
  · exact List.Sublist.refl p.limits
  · exact List.nil_sublist p.limits

theorem gpus?_eq (p : Pod) : p.gpus? = Quantity.total? p.limits := rfl

theorem activeGpus?_eq (p : Pod) : p.activeGpus? = Quantity.total? p.heldLimits := by
  unfold activeGpus? heldLimits
  by_cases h : p.Holds
  · rw [if_pos h, if_pos (isActive_iff.2 h), gpus?_eq]
  · rw [if_neg h, if_neg fun hactive => h (isActive_iff.1 hactive)]
    rfl

/-! ### Several pods -/

section Together

variable {shown? : Pod → Option Int} {counts : Pod → List Int} {ps qs : List Pod} {m : Int}

/-- What pods show of some counts, added up. -/
theorem together?_eq_some_iff (hshown : ∀ p, shown? p = Quantity.total? (counts p)) :
    together? shown? ps = some n ↔
      Quantity.GroupsFit (ps.map counts) ∧ n = (ps.flatMap counts).sum := by
  have hpods : ps.mapM shown? = (ps.map counts).mapM Quantity.total? := by
    rw [List.mapM_map]
    exact congrArg (ps.mapM ·) (funext hshown)
  unfold together?
  rw [hpods, Quantity.total?_groups_eq_some_iff, List.flatMap_def]

/-- In two orders, pods do not show two different sums. -/
theorem together?_unique_of_perm (hshown : ∀ p, shown? p = Quantity.total? (counts p))
    (h : ps.Perm qs) (hps : together? shown? ps = some m) (hqs : together? shown? qs = some n) :
    m = n := by
  rw [together?_eq_some_iff hshown] at hps hqs
  rw [hps.2, hqs.2]
  exact (h.flatMap_right counts).sum_eq

/-- Counts that are not negative show the same in every order, and in every order nothing if they
are too large. -/
theorem together?_eq_of_perm (hshown : ∀ p, shown? p = Quantity.total? (counts p))
    (h : ps.Perm qs) (hnonneg : ∀ p ∈ ps, ∀ n ∈ counts p, 0 ≤ n) :
    together? shown? ps = together? shown? qs := by
  have hnonneg' : ∀ q ∈ qs, ∀ n ∈ counts q, 0 ≤ n := fun q hq => hnonneg q (h.mem_iff.2 hq)
  refine Option.ext fun n => ?_
  rw [together?_eq_some_iff hshown, together?_eq_some_iff hshown,
    Quantity.groupsFit_iff_of_nonneg (List.forall_mem_map.2 hnonneg),
    Quantity.groupsFit_iff_of_nonneg (List.forall_mem_map.2 hnonneg'), ← List.flatMap_def,
    ← List.flatMap_def, (h.flatMap_right counts).sum_eq]

end Together

end Pod

namespace Job

variable {j : Job} {n : Int}

/-- What the GPU limits of all containers of the job count for. -/
def limits (j : Job) : List Int := j.pods.flatMap Pod.limits

/-- What the GPU limits count for in the pods that hold their GPUs. -/
def heldLimits (j : Job) : List Int := j.pods.flatMap Pod.heldLimits

/-- **The limits fit**: no sum on the way leaves the 64 bits, neither over the containers of a pod
nor over the pods. -/
def LimitsFit (j : Job) : Prop := Quantity.GroupsFit (j.pods.map Pod.limits)

instance (j : Job) : Decidable j.LimitsFit := inferInstanceAs (Decidable (Quantity.GroupsFit _))

/-- The limits of the pods that hold their GPUs fit. -/
def HeldLimitsFit (j : Job) : Prop := Quantity.GroupsFit (j.pods.map Pod.heldLimits)

instance (j : Job) : Decidable j.HeldLimitsFit :=
  inferInstanceAs (Decidable (Quantity.GroupsFit _))

/-! ### What comes out -/

theorem limitGpus?_eq_some_iff : j.limitGpus? = some n ↔ j.LimitsFit ∧ n = j.limits.sum :=
  Pod.together?_eq_some_iff Pod.gpus?_eq

theorem allocatedGpus?_eq_some_iff :
    j.allocatedGpus? = some n ↔ j.HeldLimitsFit ∧ n = j.heldLimits.sum :=
  Pod.together?_eq_some_iff Pod.activeGpus?_eq

theorem LimitsFit.limitGpus?_eq (h : j.LimitsFit) : j.limitGpus? = some j.limits.sum :=
  limitGpus?_eq_some_iff.2 ⟨h, rfl⟩

theorem HeldLimitsFit.allocatedGpus?_eq (h : j.HeldLimitsFit) :
    j.allocatedGpus? = some j.heldLimits.sum :=
  allocatedGpus?_eq_some_iff.2 ⟨h, rfl⟩

theorem isSome_limitGpus?_iff : j.limitGpus?.isSome ↔ j.LimitsFit :=
  Quantity.isSome_iff_of_forall fun _ => limitGpus?_eq_some_iff

theorem isSome_allocatedGpus?_iff : j.allocatedGpus?.isSome ↔ j.HeldLimitsFit :=
  Quantity.isSome_iff_of_forall fun _ => allocatedGpus?_eq_some_iff

theorem limitGpus?_eq_none (h : ¬j.LimitsFit) : j.limitGpus? = none :=
  Option.not_isSome_iff_eq_none.1 fun hsome => h (isSome_limitGpus?_iff.1 hsome)

/-- A request goes before the limits. -/
theorem requestedGpus?_eq (j : Job) :
    j.requestedGpus? = (Pod.annotatedAmong? j.pods).or j.limitGpus? := by
  unfold requestedGpus?
  cases Pod.annotatedAmong? j.pods <;> rfl

/-! ### Limits that are not negative -/

theorem limits_nonneg (h : ∀ n ∈ j.limits, 0 ≤ n) : ∀ p ∈ j.pods, ∀ n ∈ p.limits, 0 ≤ n :=
  fun p hp n hn => h n (List.mem_flatMap.2 ⟨p, hp, hn⟩)

theorem heldLimits_nonneg (h : ∀ n ∈ j.limits, 0 ≤ n) :
    ∀ p ∈ j.pods, ∀ n ∈ p.heldLimits, 0 ≤ n :=
  fun p hp n hn => limits_nonneg h p hp n (p.heldLimits_sublist.subset hn)

/-- Where no limit is negative, the limits fit if their sum does. -/
theorem limitsFit_iff (h : ∀ n ∈ j.limits, 0 ≤ n) :
    j.LimitsFit ↔ j.limits.sum ≤ 0x7FFFFFFFFFFFFFFF := by
  rw [LimitsFit, Quantity.groupsFit_iff_of_nonneg (List.forall_mem_map.2 (limits_nonneg h)),
    limits, List.flatMap_def]

theorem heldLimitsFit_iff (h : ∀ n ∈ j.limits, 0 ≤ n) :
    j.HeldLimitsFit ↔ j.heldLimits.sum ≤ 0x7FFFFFFFFFFFFFFF := by
  rw [HeldLimitsFit, Quantity.groupsFit_iff_of_nonneg (List.forall_mem_map.2 (heldLimits_nonneg h)),
    heldLimits, List.flatMap_def]

end Job

end WrappedTraining
