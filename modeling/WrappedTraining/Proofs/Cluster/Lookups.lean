import WrappedTraining.Trainer

/-!
# The parts of a lookup

A lookup puts questions to a source one after the other and ends at the first error. Its result
and its requests are told from those of its parts, for any source.

* `Lookup.result_bind_eq_ok_iff`, `Lookup.result_bind_eq_error_iff` : one question after another;
* `Trainer.result_candidates_eq_ok_iff`, `Trainer.result_job_eq_ok_iff`,
  `Trainer.result_jobs_eq_ok_iff`, and the same for errors : what a lookup answers;
* `Trainer.requests_job_of_owned`, `Trainer.requests_jobs_of_pods` and their like : what it asks.
-/

namespace WrappedTraining

namespace Lookup

variable {α β : Type} {x : Lookup α} {f : α → Lookup β}

theorem result_bind_eq_ok_iff {b : β} :
    (x >>= f).result = .ok b ↔ ∃ a, x.result = .ok a ∧ (f a).result = .ok b := by
  rw [result_bind]
  cases x.result with
  | error e => simp [bind, Except.bind]
  | ok a => simp [bind, Except.bind]

theorem result_bind_eq_error_iff {e : LookupError} :
    (x >>= f).result = .error e ↔
      x.result = .error e ∨ ∃ a, x.result = .ok a ∧ (f a).result = .error e := by
  rw [result_bind]
  cases x.result with
  | error e => simp [bind, Except.bind]
  | ok a => simp [bind, Except.bind]

end Lookup

namespace Trainer

variable {src : Source} {ns name : String} {ns? : Option String}

/-! ### The parts of a lookup -/

theorem result_candidates_eq_ok_iff {ps : List Pod} :
    (candidates src ns name).result = .ok ps ↔
      (src.pods (some ns) (controllerSelector name)).result = .ok ps ∧ ps ≠ [] ∨
        (src.pods (some ns) (controllerSelector name)).result = .ok [] ∧
          (src.pods (some ns) (olderSelector name)).result = .ok ps := by
  unfold candidates
  rw [Lookup.result_bind]
  cases (src.pods (some ns) (controllerSelector name)).result with
  | error err => simp [bind, Except.bind]
  | ok controlled => cases controlled <;> simp +contextual [bind, Except.bind, eq_comm]

theorem result_candidates_eq_error_iff {err : LookupError} :
    (candidates src ns name).result = .error err ↔
      (src.pods (some ns) (controllerSelector name)).result = .error err ∨
        (src.pods (some ns) (controllerSelector name)).result = .ok [] ∧
          (src.pods (some ns) (olderSelector name)).result = .error err := by
  unfold candidates
  rw [Lookup.result_bind]
  cases (src.pods (some ns) (controllerSelector name)).result with
  | error err => simp [bind, Except.bind]
  | ok controlled => cases controlled <;> simp [bind, Except.bind]

theorem requests_candidates_of_ne_nil
    (h : (src.pods (some ns) (controllerSelector name)).result ≠ .ok []) :
    (candidates src ns name).requests =
      (src.pods (some ns) (controllerSelector name)).requests := by
  unfold candidates
  cases hfirst : (src.pods (some ns) (controllerSelector name)).result with
  | error err => exact Lookup.requests_bind_error _ hfirst
  | ok controlled =>
    -- only an answer without pods leads to a second question
    have hne : controlled.isEmpty = false := by
      cases controlled with
      | nil => exact absurd hfirst h
      | cons p ps => rfl
    rw [Lookup.requests_bind_ok _ hfirst, hne]
    exact List.append_nil _

theorem requests_candidates_of_nil
    (h : (src.pods (some ns) (controllerSelector name)).result = .ok []) :
    (candidates src ns name).requests =
      (src.pods (some ns) (controllerSelector name)).requests ++
        (src.pods (some ns) (olderSelector name)).requests :=
  Lookup.requests_bind_ok _ h

theorem result_job_eq_ok_iff {g : Job} :
    (job src ns name).result = .ok g ↔ ∃ e, (src.envelope ns name).result = .ok e ∧ e.isOwned ∧
      ∃ ps, (candidates src ns name).result = .ok ps ∧ g = Job.ofCandidates e ps := by
  unfold job
  rw [Lookup.result_bind_eq_ok_iff]
  refine exists_congr fun e => and_congr_right fun _ => ?_
  by_cases howned : e.isOwned
  · rw [if_pos howned, Lookup.result_bind_eq_ok_iff]
    simp [howned, eq_comm]
  · simp [howned, Lookup.fail]

theorem result_job_eq_error_iff {err : LookupError} :
    (job src ns name).result = .error err ↔ (src.envelope ns name).result = .error err ∨
      ∃ e, (src.envelope ns name).result = .ok e ∧
        (e.isOwned ∧ (candidates src ns name).result = .error err ∨
          ¬e.isOwned ∧ err = .notFound ns name) := by
  unfold job
  rw [Lookup.result_bind_eq_error_iff]
  refine or_congr_right (exists_congr fun e => and_congr_right fun _ => ?_)
  by_cases howned : e.isOwned
  · rw [if_pos howned, Lookup.result_bind_eq_error_iff]
    simp [howned]
  · simp [howned, Lookup.fail, eq_comm]

theorem requests_job_of_not_owned
    (h : ∀ e, (src.envelope ns name).result = .ok e → ¬e.isOwned) :
    (job src ns name).requests = (src.envelope ns name).requests := by
  unfold job
  cases henvelope : (src.envelope ns name).result with
  | error err => exact Lookup.requests_bind_error _ henvelope
  | ok e =>
    rw [Lookup.requests_bind_ok _ henvelope, if_neg (h e henvelope)]
    exact List.append_nil _

theorem requests_job_of_owned {e : Envelope} (he : (src.envelope ns name).result = .ok e)
    (howned : e.isOwned) : (job src ns name).requests =
      (src.envelope ns name).requests ++ (candidates src ns name).requests := by
  unfold job
  rw [Lookup.requests_bind_ok _ he, if_pos howned]
  congr 1
  cases hcandidates : (candidates src ns name).result with
  | error err => exact Lookup.requests_bind_error _ hcandidates
  | ok ps =>
    rw [Lookup.requests_bind_ok _ hcandidates]
    exact List.append_nil _

theorem result_jobs_eq_ok_iff {js : List Job} :
    (jobs src ns?).result = .ok js ↔ ∃ es controlled older,
      (src.envelopes ns? ownSelector).result = .ok es ∧
      (src.pods ns? Labels.envelopeName).result = .ok controlled ∧
      (src.pods ns? ownSelector).result = .ok older ∧
      js = es.map fun e => Job.ofCandidates e (mergePods controlled older) := by
  unfold jobs
  simp only [Lookup.result_bind_eq_ok_iff, Lookup.result_pure, Except.ok.injEq, @eq_comm _ js,
    exists_and_left]

theorem result_jobs_eq_error_iff {err : LookupError} :
    (jobs src ns?).result = .error err ↔ (src.envelopes ns? ownSelector).result = .error err ∨
      (∃ es, (src.envelopes ns? ownSelector).result = .ok es) ∧
        ((src.pods ns? Labels.envelopeName).result = .error err ∨
          (∃ ps, (src.pods ns? Labels.envelopeName).result = .ok ps) ∧
            (src.pods ns? ownSelector).result = .error err) := by
  unfold jobs
  simp only [Lookup.result_bind_eq_error_iff, Lookup.result_pure, reduceCtorEq, and_false,
    exists_false, or_false, exists_and_right]

theorem requests_jobs_of_error {err : LookupError}
    (h : (src.envelopes ns? ownSelector).result = .error err) :
    (jobs src ns?).requests = (src.envelopes ns? ownSelector).requests := by
  unfold jobs
  exact Lookup.requests_bind_error _ h

theorem requests_jobs_of_pods_error {es : List Envelope} {err : LookupError}
    (hes : (src.envelopes ns? ownSelector).result = .ok es)
    (h : (src.pods ns? Labels.envelopeName).result = .error err) :
    (jobs src ns?).requests =
      (src.envelopes ns? ownSelector).requests ++ (src.pods ns? Labels.envelopeName).requests := by
  unfold jobs
  rw [Lookup.requests_bind_ok _ hes, Lookup.requests_bind_error _ h]

theorem requests_jobs_of_pods {es : List Envelope} {ps : List Pod}
    (hes : (src.envelopes ns? ownSelector).result = .ok es)
    (hps : (src.pods ns? Labels.envelopeName).result = .ok ps) :
    (jobs src ns?).requests = (src.envelopes ns? ownSelector).requests ++
      ((src.pods ns? Labels.envelopeName).requests ++ (src.pods ns? ownSelector).requests) := by
  unfold jobs
  rw [Lookup.requests_bind_ok _ hes, Lookup.requests_bind_ok _ hps]
  congr 2
  cases hlast : (src.pods ns? ownSelector).result with
  | error err => exact Lookup.requests_bind_error _ hlast
  | ok older =>
    rw [Lookup.requests_bind_ok _ hlast]
    exact List.append_nil _

end Trainer

end WrappedTraining
