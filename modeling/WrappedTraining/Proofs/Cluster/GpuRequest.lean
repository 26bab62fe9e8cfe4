import Mathlib.Tactic.Linarith
import WrappedTraining.Proofs.Cluster.Agreement
import WrappedTraining.Proofs.Submission.Consistency
import WrappedTraining.Proofs.Text.Numeral

/-!
# The GPU request of a job, written and read

A submission writes how many GPUs its workers ask for together into an annotation. The pods of the
job carry it, and the job reads its request from there.

* `JobSpec.totalGpus_bounds` : the product of two counts can be read from the text that it is
  written as;
* `Pod.annotatedAmong?_eq` : what pods that carry one request say;
* `Job.requestedGpus_of_build` : the request of a job is the one that its submission was built with,
  and without one it is the sum of the GPU limits of its pods, if that fits 64 bits;
* `Job.requested_sum_out_of_range` : limits that do not fit.
-/

namespace WrappedTraining

/-- The product of two 32-bit counts fits 64 bits. -/
theorem JobSpec.totalGpus_bounds (j : JobSpec) :
    -0x4000000000000000 ≤ j.totalGpus ∧ j.totalGpus ≤ 0x4000000000000000 := by
  have hw := j.workerCount.le_toInt
  have hw' := j.workerCount.toInt_lt
  have hg := j.gpuCount.le_toInt
  have hg' := j.gpuCount.toInt_lt
  unfold totalGpus
  constructor <;> nlinarith

/-- The GPU request that a submission is annotated with. -/
def Submission.request? (s : Submission) : Option String :=
  s.job.annotations.get? Labels.requestedGpus

namespace Pod

/-- The GPU request that a pod is annotated with. -/
def request? (p : Pod) : Option String := p.metadata.annotations.get? Labels.requestedGpus

variable {p : Pod} {ps : List Pod} {n : Int}

theorem annotatedGpus?_of_none (h : p.request? = none) : p.annotatedGpus? = none := by
  unfold request? at h
  unfold annotatedGpus?
  rw [h]
  rfl

/-- A request that is not positive does not count. -/
theorem annotatedGpus?_of_integer {v : String} (h : p.request? = some v)
    (hv : Text.integer? v.toList = some n) (hlo : -0x8000000000000000 ≤ n)
    (hhi : n ≤ 0x7FFFFFFFFFFFFFFF) : p.annotatedGpus? = if 0 < n then some n else none := by
  have hread : Text.int64? v = some (Int64.ofInt n) := by
    rw [Text.int64?, Text.integerIn?_eq_some_iff.2 ⟨hv, hlo, hhi⟩, Option.map_some]
  have hvalue : (Int64.ofInt n).toInt = n := Int64.toInt_ofInt_of_le hlo (by omega)
  have hpos : 0 < Int64.ofInt n ↔ 0 < n := by
    rw [Int64.lt_iff_toInt_lt, hvalue, Int64.toInt_zero]
  unfold request? at h
  unfold annotatedGpus?
  rw [h, Option.bind_some, hread]
  simp only [hpos, hvalue]

theorem annotatedGpus?_of_some (hlo : -0x8000000000000000 ≤ n) (hhi : n ≤ 0x7FFFFFFFFFFFFFFF)
    (h : p.request? = some (Text.ofInt n)) :
    p.annotatedGpus? = if 0 < n then some n else none :=
  annotatedGpus?_of_integer h (Text.integer?_ofInt n) hlo hhi

/-- **What pods say that carry one request**: the request, if it is positive. -/
theorem annotatedAmong?_eq (hlo : -0x8000000000000000 ≤ n) (hhi : n ≤ 0x7FFFFFFFFFFFFFFF)
    (hcarried : ∃ p ∈ ps, p.request? = some (Text.ofInt n))
    (hone : ∀ p ∈ ps, ∀ v, p.request? = some v → v = Text.ofInt n) :
    annotatedAmong? ps = if 0 < n then some n else none := by
  have hreads : ∀ p ∈ ps, p.annotatedGpus? = none ∨
      p.annotatedGpus? = if 0 < n then some n else none := by
    intro p hp
    cases h : p.request? with
    | none => exact .inl (annotatedGpus?_of_none h)
    | some v => exact .inr (annotatedGpus?_of_some hlo hhi (hone p hp v h ▸ h))
  unfold annotatedAmong?
  -- the first pod that says anything says `n`; pods that say too little are passed over
  by_cases hn : 0 < n
  · rw [if_pos hn] at hreads ⊢
    obtain ⟨p, hp, hrequest⟩ := hcarried
    cases hfirst : ps.findSome? annotatedGpus? with
    | none =>
      have hpod := annotatedGpus?_of_some hlo hhi hrequest
      rw [List.findSome?_eq_none_iff.1 hfirst p hp, if_pos hn] at hpod
      cases hpod
    | some k =>
      obtain ⟨q, hq, hk⟩ := List.exists_of_findSome?_eq_some hfirst
      rcases hreads q hq with h | h
      · cases hk.symm.trans h
      · exact hk.symm.trans h
  · rw [if_neg hn] at hreads ⊢
    exact List.findSome?_eq_none_iff.2 fun q hq => or_self_iff.1 (hreads q hq)

end Pod

namespace Job

/-- **The members carry the GPU request of a submission**: at least one of them has its annotation
as it is, and none has another one. -/
structure CarriesRequest (j : Job) (s : Submission) : Prop where
  carried : ∃ p ∈ j.pods, ∃ v, s.request? = some v ∧ p.request? = some v
  noOther : ∀ p ∈ j.pods, ∀ v, p.request? = some v → s.request? = some v

variable {j : Job} {s : Submission}

/-- The request of a job whose members carry that of a consistent submission. -/
theorem requestedGpus?_of_carried (hs : s.job.Consistent) (h : j.CarriesRequest s) :
    j.requestedGpus? = if 0 < s.job.totalGpus then some s.job.totalGpus else j.limitGpus? := by
  obtain ⟨hlo, hhi⟩ := s.job.totalGpus_bounds
  have hrequest : s.request? = some (Text.ofInt s.job.totalGpus) := hs.requestedGpus
  have hcarried : ∃ p ∈ j.pods, p.request? = some (Text.ofInt s.job.totalGpus) := by
    obtain ⟨p, hp, v, hv, hpod⟩ := h.carried
    exact ⟨p, hp, by rw [hpod, ← hv, hrequest]⟩
  have hone : ∀ p ∈ j.pods, ∀ v, p.request? = some v → v = Text.ofInt s.job.totalGpus :=
    fun p hp v hv => Option.some.inj ((h.noOther p hp v hv).symm.trans hrequest)
  rw [requestedGpus?_eq, Pod.annotatedAmong?_eq (by omega) (by omega) hcarried hone]
  split <;> rfl

/-- **Submission and status agree on the GPU request of a job.** After any build that succeeds, a
job whose members carry the annotation of the submission requests the product of its counts, if
that is positive. Otherwise it requests the sum of the GPU limits of its members, as long as no sum
on the way leaves the 64 bits, and shows no request at all if one does. -/
theorem requestedGpus_of_build {b built : Builder} (hbuild : b.build = (built, none))
    {e : Envelope} {candidates : List Pod}
    (h : (ofCandidates e candidates).CarriesRequest built.submission) :
    (0 < built.submission.job.workerCount.toInt * built.submission.job.gpuCount.toInt →
      (ofCandidates e candidates).requestedGpus? =
        some (built.submission.job.workerCount.toInt * built.submission.job.gpuCount.toInt)) ∧
    (built.submission.job.workerCount.toInt * built.submission.job.gpuCount.toInt ≤ 0 →
      ((ofCandidates e candidates).LimitsFit →
        (ofCandidates e candidates).requestedGpus? =
          some (ofCandidates e candidates).limits.sum) ∧
      (¬(ofCandidates e candidates).LimitsFit →
        (ofCandidates e candidates).requestedGpus? = none)) := by
  have hresult : b.result = .ok built.submission := by
    have hbag : built.bag = b.bag := congrArg (fun r => r.1.bag) hbuild.symm
    rw [Builder.result_eq_ok_iff, hbuild, ← hbag]
  have hrequested := requestedGpus?_of_carried (Submission.consistent_of_result hresult) h
  rw [JobSpec.totalGpus] at hrequested
  refine ⟨fun hpos => hrequested.trans (if_pos hpos), fun hneg => ?_⟩
  rw [hrequested, if_neg (Int.not_lt.2 hneg)]
  exact ⟨fun hfit => hfit.limitGpus?_eq, limitGpus?_eq_none⟩

/-- A pod that the controller labelled for the job `demo`, with a GPU request. -/
def annotatedPod (ns name request : String) : Pod :=
  let p := Trainer.labelledPod ns name [(Labels.envelopeName, "demo")]
  { p with metadata := { p.metadata with
    annotations := .ofList [(Labels.requestedGpus, request)] } }

/-- A running pod with a GPU limit for each of its containers. -/
def withLimits (p : Pod) (limits : List String) : Pod :=
  { p with
    containers := limits.map fun q => ⟨"main", .ofList [(Pod.gpuResource, q)]⟩
    phase? := some "Running"
    startTime? := some .epoch }

/-- The members of `j` carry the request `v` of `s`, if each of them carries it or none at all. -/
theorem carriesRequest_of_all {v : String} (hs : s.request? = some v)
    (hsome : ∃ p ∈ j.pods, p.request? = some v)
    (hall : ∀ p ∈ j.pods, p.request? = none ∨ p.request? = some v) : j.CarriesRequest s where
  carried := by
    obtain ⟨p, hp, hv⟩ := hsome
    exact ⟨p, hp, v, hs, hv⟩
  noOther p hp w hw := by
    rcases hall p hp with h | h
    · cases h.symm.trans hw
    · rw [hs, ← hw, h]

/-- A volcano job that starts from another worker count. -/
def volcanoBuilder : Builder := .new { Submission.initial with
  innerType := "volcano"
  job := { JobSpec.initial with name := "demo", image := "x", gpuCount := 8, workerCount := 7 }
  task := { Submission.initial.task with replicas := 3 } }

/-- A job that asks for no GPUs. -/
def plainBuilder : Builder := .new { Submission.initial with
  job := { JobSpec.initial with name := "demo", image := "x", gpuCount := 0 } }

/-- The candidates are a member without the annotation, one with it, and a pod of another namespace
with another request. Then a submission without GPUs: the limits of the members count. -/
theorem requestedGpus_of_build_volcano :
    (let j := ofCandidates (Trainer.sampleEnvelope "demo")
      [Trainer.labelledPod "ml" "demo-0" [(Labels.envelopeName, "demo")],
       annotatedPod "ml" "demo-1" "24", annotatedPod "web" "demo-2" "5"]
    volcanoBuilder.build.2 = none ∧ j.pods.length = 2 ∧
      j.CarriesRequest volcanoBuilder.build.1.submission ∧ j.requestedGpus? = some 24) ∧
    (let j := ofCandidates (Trainer.sampleEnvelope "demo")
      [withLimits (annotatedPod "ml" "demo-0" "0") ["2", "1.9"],
       withLimits (annotatedPod "ml" "demo-1" "0") ["abc", "-1"],
       withLimits (annotatedPod "web" "demo-2" "5") ["8"]]
    plainBuilder.build.2 = none ∧ j.pods.length = 2 ∧
      j.CarriesRequest plainBuilder.build.1.submission ∧ j.LimitsFit ∧
      j.requestedGpus? = some 2) := by
  constructor
  · intro j
    have hbuild : volcanoBuilder.build.2 = none := by decide +kernel
    have hcarries : j.CarriesRequest volcanoBuilder.build.1.submission :=
      carriesRequest_of_all (v := "24") (by decide +kernel) (by decide) (by decide)
    refine ⟨hbuild, by decide, hcarries, ?_⟩
    rw [(requestedGpus_of_build (Prod.ext rfl hbuild) hcarries).1 (by decide +kernel)]
    decide +kernel
  · intro j
    have hbuild : plainBuilder.build.2 = none := by decide +kernel
    have hcarries : j.CarriesRequest plainBuilder.build.1.submission :=
      carriesRequest_of_all (v := "0") (by decide +kernel) (by decide) (by decide)
    have hfit : j.LimitsFit := by decide +kernel
    refine ⟨hbuild, by decide, hcarries, hfit, ?_⟩
    rw [((requestedGpus_of_build (Prod.ext rfl hbuild) hcarries).2 (by decide +kernel)).1 hfit]
    decide +kernel

/-- A member with two limits that are quantities, each of which fits, and a submission without GPUs:
the sum of the limits does not fit, and no request is shown. -/
theorem requested_sum_out_of_range :
    let j := ofCandidates (Trainer.sampleEnvelope "demo")
      [withLimits (annotatedPod "ml" "demo-0" "0") ["4Ei", "4Ei"]]
    plainBuilder.build.2 = none ∧ j.CarriesRequest plainBuilder.build.1.submission ∧
      plainBuilder.build.1.submission.job.gpuCount = 0 ∧ j.limits.sum = 0x8000000000000000 ∧
      j.requestedGpus? = none := by
  intro j
  exact ⟨by decide +kernel,
    carriesRequest_of_all (v := "0") (by decide +kernel) (by decide) (by decide),
    by decide +kernel, by decide +kernel, by decide +kernel⟩

end Job

end WrappedTraining
