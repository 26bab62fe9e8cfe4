import WrappedTraining.Proofs.Cluster.GpuLimits
import WrappedTraining.Proofs.Cluster.Listing

/-!
# One job and the listed job

The lookup of one job asks for the pods that the controller labelled, and for those with the older
labels only if there are none. A listing asks for both. The two agree on a job unless it has pods
with the label of the controller and members without it.

* `Job.MixesLabels` : the jobs on which lookup and listing differ;
* `Job.SameGpus` : what two jobs with the same pods show of their GPUs, whatever the order;
* `Trainer.narrowed` : what the lookup of one job keeps of the members;
* `Trainer.job_of_mem_jobs` : the lookup of a listed job finds it, with these pods.
-/

namespace WrappedTraining

/-- An error of the lookup can only say that there is no such job: no request was refused. -/
def Lookup.Unrefused {α : Type} (x : Lookup α) : Prop :=
  ∀ e, x.result = .error e → ∃ ns name, e = .notFound ns name

namespace Job

variable (j : Job)

/-- The controller labelled some of the members, but not all. -/
def MixesLabels : Prop :=
  (∃ p ∈ j.pods, p.metadata.hasLabel Labels.envelopeName j.envelope.name) ∧
    ∃ p ∈ j.pods, ¬p.metadata.hasLabel Labels.envelopeName j.envelope.name

variable {j} {g : Job}

/-- **Two jobs show the same GPUs**: they do not show different sums, and if no limit is negative,
none shows a sum that the other one cannot show. -/
structure SameGpus (g j : Job) : Prop where
  limits : ∀ m n, g.limitGpus? = some m → j.limitGpus? = some n → m = n
  allocated : ∀ m n, g.allocatedGpus? = some m → j.allocatedGpus? = some n → m = n
  whole : (∀ n ∈ j.limits, 0 ≤ n) →
    g.limitGpus? = j.limitGpus? ∧ g.allocatedGpus? = j.allocatedGpus?

theorem sameGpus_of_perm (h : g.pods.Perm j.pods) : g.SameGpus j where
  limits _ _ := Pod.together?_unique_of_perm Pod.gpus?_eq h
  allocated _ _ := Pod.together?_unique_of_perm Pod.activeGpus?_eq h
  whole hlimits :=
    ⟨(Pod.together?_eq_of_perm Pod.gpus?_eq h.symm (limits_nonneg hlimits)).symm,
      (Pod.together?_eq_of_perm Pod.activeGpus?_eq h.symm (heldLimits_nonneg hlimits)).symm⟩

end Job

namespace Trainer

/-! ### What the lookup of one job keeps -/

/-- The members that the controller labelled, or all of them if it labelled none. -/
def narrowed (name : String) (ps : List Pod) : List Pod :=
  if ps.any fun p => p.metadata.hasLabel Labels.envelopeName name then
    ps.filter fun p => p.metadata.hasLabel Labels.envelopeName name
  else ps

variable {name : String} {ps qs : List Pod}

theorem narrowed_perm (h : ps.Perm qs) : (narrowed name ps).Perm (narrowed name qs) := by
  unfold narrowed
  rw [h.any_eq]
  split
  · exact h.filter _
  · exact h

theorem narrowed_eq_self
    (h : ∀ p ∈ ps, ∀ q ∈ ps, p.metadata.hasLabel Labels.envelopeName name →
      q.metadata.hasLabel Labels.envelopeName name) : narrowed name ps = ps := by
  unfold narrowed
  split
  · rename_i hany
    obtain ⟨p, hp, hlabel⟩ := List.any_eq_true.1 hany
    exact List.filter_eq_self.2 fun q hq => h p hp q hq hlabel
  · rfl

/-- Pods that are labelled alike, and for no other envelope, all carry the label of the controller
or none does. -/
theorem labelled_or_not
    (h : ∀ p ∈ ps, ∀ q ∈ ps, p.metadata.hasLabel Labels.envelopeName name →
      q.metadata.hasLabel Labels.envelopeName name)
    (hown : ∀ p ∈ ps, ∀ v, p.metadata.labels.get? Labels.envelopeName = some v → v = name) :
    (∀ p ∈ ps, (p.metadata.labels.get? Labels.envelopeName).isSome) ∨
      ∀ p ∈ ps, p.metadata.labels.get? Labels.envelopeName = none := by
  by_cases hsome : ∃ p ∈ ps, p.metadata.hasLabel Labels.envelopeName name
  · obtain ⟨p, hp, hlabel⟩ := hsome
    refine .inl fun q hq => ?_
    rw [of_decide_eq_true (h p hp q hq hlabel)]
    rfl
  · refine .inr fun p hp => Option.eq_none_iff_forall_ne_some.2 fun v hv => hsome ⟨p, hp, ?_⟩
    rw [hown p hp v hv] at hv
    exact decide_eq_true hv

theorem length_narrowed_lt {p q : Pod} (hp : p ∈ ps)
    (hlabel : p.metadata.hasLabel Labels.envelopeName name) (hq : q ∈ ps)
    (hother : ¬q.metadata.hasLabel Labels.envelopeName name) :
    (narrowed name ps).length < ps.length := by
  unfold narrowed
  rw [if_pos (List.any_eq_true.2 ⟨p, hp, hlabel⟩)]
  exact List.length_filter_lt_length_iff_exists.2 ⟨q, hq, hother⟩

/-! ### The pods of a lookup -/

variable {src : Source} {s : Snapshot} {ns : String}

/-- The selector for the label of the controller chooses members. -/
theorem selectPods_controller (s : Snapshot) (ns : String) (hname : ',' ∉ name.toList) :
    s.selectPods (some ns) (controllerSelector name) =
      (s.pods.filter (·.isMemberOf name ns)).filter
        fun p => p.metadata.hasLabel Labels.envelopeName name := by
  unfold Snapshot.selectPods
  rw [List.filter_filter]
  refine List.filter_congr fun p _ => ?_
  rw [Metadata.isSelected_controller _ _ hname, Pod.isMemberOf_eq]
  cases p.metadata.isIn (some ns) <;>
    cases p.metadata.hasLabel Labels.envelopeName name <;> simp

/-- The selector for the older labels chooses members. -/
theorem selectPods_older (s : Snapshot) (ns : String) (hname : ',' ∉ name.toList) :
    s.selectPods (some ns) (olderSelector name) =
      (s.pods.filter (·.isMemberOf name ns)).filter fun p =>
        p.metadata.hasLabel Labels.release name &&
          p.metadata.hasLabel Labels.app Submission.trainer := by
  unfold Snapshot.selectPods
  rw [List.filter_filter]
  refine List.filter_congr fun p _ => ?_
  rw [Metadata.isSelected_older _ _ hname, Pod.isMemberOf_eq]
  cases p.metadata.isIn (some ns) <;>
    cases p.metadata.hasLabel Labels.envelopeName name <;> simp

/-- A lookup asks for what it keeps of the members in the cluster. -/
theorem candidates_eq (hsrc : src.Reflects s) (hname : ',' ∉ name.toList)
    (h : (candidates src ns name).result = .ok ps) :
    ps = narrowed name (s.pods.filter (·.isMemberOf name ns)) := by
  rcases result_candidates_eq_ok_iff.1 h with ⟨hps, hne⟩ | ⟨hcontrolled, h⟩
  · have hcontrolled := (hsrc.pods hps).trans (selectPods_controller s ns hname)
    obtain ⟨p, hp⟩ := List.exists_mem_of_ne_nil ps hne
    have hany : (s.pods.filter (·.isMemberOf name ns)).any fun p =>
        p.metadata.hasLabel Labels.envelopeName name :=
      List.any_eq_true.2 ⟨p, List.mem_filter.1 (hcontrolled ▸ hp)⟩
    rw [narrowed, if_pos hany, ← hcontrolled]
  · have hcontrolled := (hsrc.pods hcontrolled).trans (selectPods_controller s ns hname)
    have hnone := List.filter_eq_nil_iff.1 hcontrolled.symm
    rw [narrowed_eq_self fun p hp _ _ hlabel => absurd hlabel (hnone p hp), hsrc.pods h,
      selectPods_older s ns hname, List.filter_eq_self]
    -- a member that the controller did not label has the older labels
    intro p hp
    have hmember := (List.mem_filter.1 hp).2
    rw [Pod.isMemberOf_eq, Bool.eq_false_iff.2 (hnone p hp), Bool.false_or,
      Bool.and_eq_true] at hmember
    exact hmember.2

theorem pods_ofCandidates_narrowed (e : Envelope) :
    (Job.ofCandidates e (narrowed e.name
      (s.pods.filter (·.isMemberOf e.name e.namespaceName)))).pods =
        narrowed e.name (s.pods.filter (·.isMemberOf e.name e.namespaceName)) := by
  refine List.filter_eq_self.2 fun p hp => ?_
  unfold narrowed at hp
  split at hp
  · exact (List.mem_filter.1 (List.mem_filter.1 hp).1).2
  · exact (List.mem_filter.1 hp).2

theorem candidates_ne_notFound (hsrc : src.Reflects s) (ns' name' : String) :
    (candidates src ns name).result ≠ .error (.notFound ns' name') := by
  intro h
  rcases result_candidates_eq_error_iff.1 h with h | ⟨-, h⟩
  · exact hsrc.podsFound h
  · exact hsrc.podsFound h

/-! ### The lookup of a listed job -/

/-- Namespace and name of an envelope. -/
def envelopeKey (e : Envelope) : String × String := (e.namespaceName, e.name)

/-- An envelope is the one that its namespace and name find, if it shares them with no other. -/
theorem envelope?_eq_some (hkeys : (s.envelopes.map envelopeKey).Nodup) {e : Envelope}
    (he : e ∈ s.envelopes) : s.envelope? e.namespaceName e.name = some e := by
  cases h : s.envelope? e.namespaceName e.name with
  | none =>
    have := List.find?_eq_none.1 h e he
    simp at this
  | some e' =>
    have hfound := List.find?_some h
    rw [Bool.and_eq_true, decide_eq_true_eq, decide_eq_true_eq] at hfound
    have hkey : envelopeKey e' = envelopeKey e := Prod.ext hfound.2 hfound.1
    rw [List.inj_on_of_nodup_map hkeys (List.mem_of_find?_eq_some h) he hkey]

/-- The lookup of an envelope of this kind finds it, unless a request is refused. -/
theorem job_ne_notFound (hsrc : src.Reflects s) (henvelopes : (s.envelopes.map envelopeKey).Nodup)
    {e : Envelope} (he : e ∈ s.envelopes) (howned : e.isOwned) (ns' name' : String) :
    (job src e.namespaceName e.name).result ≠ .error (.notFound ns' name') := by
  intro h
  rcases result_job_eq_error_iff.1 h with h | ⟨e', he', ⟨-, h⟩ | ⟨hforeign, -⟩⟩
  · have habsent := hsrc.notFound h
    rw [envelope?_eq_some henvelopes he] at habsent
    cases habsent
  · exact candidates_ne_notFound hsrc ns' name' h
  · have hfound := hsrc.envelope he'
    rw [envelope?_eq_some henvelopes he] at hfound
    obtain rfl := Option.some.inj hfound
    exact hforeign howned

/-- What the lookup of an envelope of this kind finds. -/
theorem eq_of_job_eq_ok (hsrc : src.Reflects s) (henvelopes : (s.envelopes.map envelopeKey).Nodup)
    {e : Envelope} (he : e ∈ s.envelopes) (hname : ',' ∉ e.name.toList)
    {g : Job} (h : (job src e.namespaceName e.name).result = .ok g) :
    g.envelope = e ∧
      g.pods = narrowed e.name (s.pods.filter (·.isMemberOf e.name e.namespaceName)) := by
  obtain ⟨e', he', -, ps, hps, rfl⟩ := result_job_eq_ok_iff.1 h
  have hfound := hsrc.envelope he'
  rw [envelope?_eq_some henvelopes he] at hfound
  obtain rfl := Option.some.inj hfound
  rw [candidates_eq hsrc hname hps]
  exact ⟨rfl, pods_ofCandidates_narrowed e⟩

/-- **The lookup of a listed job.** Unless a request is refused, the job is found again with the
same envelope. Its pods are those of the listed job if the controller labelled all of them or none,
and in the same order if none is labelled for another envelope; otherwise they are the ones that the
controller labelled, which are fewer. -/
theorem job_of_mem_jobs (hsrc : src.Reflects s) (hpods : (s.pods.map podKey).Nodup)
    (henvelopes : (s.envelopes.map envelopeKey).Nodup) {js : List Job}
    (hjobs : (jobs src (some ns)).result = .ok js) {j : Job} (hj : j ∈ js)
    (hname : ',' ∉ j.envelope.name.toList)
    (hget : (job src ns j.envelope.name).Unrefused) :
    ∃ g, (job src ns j.envelope.name).result = .ok g ∧ g.envelope = j.envelope ∧
      (¬j.MixesLabels → g.pods.Perm j.pods ∧ g.pods.length = j.pods.length ∧ g.SameGpus j ∧
        ((∀ p ∈ j.pods, ∀ v, p.metadata.labels.get? Labels.envelopeName = some v →
          v = j.envelope.name) → g.pods = j.pods)) ∧
      (j.MixesLabels → g.pods.length < j.pods.length ∧ g.pods.Perm
        (j.pods.filter fun p => p.metadata.hasLabel Labels.envelopeName j.envelope.name)) := by
  obtain ⟨he, hin, howned⟩ := envelope_of_mem_jobs hsrc hjobs hj
  obtain rfl := Envelope.namespaceName_of_isIn hin
  have hperm := perm_of_mem_jobs hsrc hpods hjobs hj
  cases hresult : (job src j.envelope.namespaceName j.envelope.name).result with
  | error e =>
    obtain ⟨ns', name', rfl⟩ := hget e hresult
    exact absurd hresult (job_ne_notFound hsrc henvelopes he howned ns' name')
  | ok g =>
    obtain ⟨hgenvelope, hgpods⟩ := eq_of_job_eq_ok hsrc henvelopes he hname hresult
    have hnarrowed : g.pods.Perm (narrowed j.envelope.name j.pods) :=
      hgpods ▸ (narrowed_perm hperm).symm
    refine ⟨g, rfl, hgenvelope, fun hsame => ?_, fun hmixed => ?_⟩
    · have hboth : ∀ p ∈ j.pods, ∀ q ∈ j.pods,
          p.metadata.hasLabel Labels.envelopeName j.envelope.name →
            q.metadata.hasLabel Labels.envelopeName j.envelope.name :=
        fun p hp q hq hlabel => Classical.byContradiction
          fun hother => hsame ⟨⟨p, hp, hlabel⟩, q, hq, hother⟩
      rw [narrowed_eq_self hboth] at hnarrowed
      refine ⟨hnarrowed, hnarrowed.length_eq, Job.sameGpus_of_perm hnarrowed, fun hown => ?_⟩
      rw [hgpods, ← pods_eq_of_mem_jobs hsrc hpods hjobs hj (labelled_or_not hboth hown),
        narrowed_eq_self hboth]
    · obtain ⟨⟨p, hp, hlabel⟩, q, hq, hother⟩ := hmixed
      refine ⟨hnarrowed.length_eq ▸ length_narrowed_lt hp hlabel hq hother, ?_⟩
      rwa [narrowed, if_pos (List.any_eq_true.2 ⟨p, hp, hlabel⟩)] at hnarrowed

/-- The cluster of `mixedSnapshot` without the pod that has only the older labels. -/
def controlledSnapshot : Snapshot := { mixedSnapshot with pods := mixedSnapshot.pods.drop 1 }

theorem job_of_mem_jobs_controlled :
    ∃ j g, (jobs controlledSnapshot.source (some "ml")).result = .ok [j] ∧
      (job controlledSnapshot.source "ml" j.envelope.name).result = .ok g ∧
      g.pods.Perm j.pods ∧ g.pods.length = 2 ∧ g.pods = j.pods := by
  have hjobs : (jobs controlledSnapshot.source (some "ml")).result =
      .ok [⟨sampleEnvelope "demo", _⟩] := rfl
  obtain ⟨g, hg, -, hsame, -⟩ := job_of_mem_jobs controlledSnapshot.source_reflects
    (by decide) (by decide) hjobs List.mem_cons_self (by decide) (fun _ h => by cases h)
  obtain ⟨hperm, hlength, -, horder⟩ := hsame fun ⟨_, p, hp, hother⟩ => by
    revert p
    decide
  exact ⟨_, g, hjobs, hg, hperm, hlength, horder (by decide)⟩

/-- A lookup does not find all pods of a listed job whose labels are mixed. -/
theorem listed_pods_not_found :
    (mixedSnapshot.pods.map podKey).Nodup ∧ (mixedSnapshot.envelopes.map envelopeKey).Nodup ∧
      ∃ j g, (jobs mixedSnapshot.source (some "ml")).result = .ok [j] ∧
        (job mixedSnapshot.source "ml" j.envelope.name).result = .ok g ∧
        j.pods.length = 3 ∧ g.pods.length = 2 :=
  ⟨by decide, by decide, _, _, rfl, rfl, rfl, rfl⟩

end Trainer

end WrappedTraining
