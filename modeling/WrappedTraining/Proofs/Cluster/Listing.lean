import Mathlib.Data.List.Nodup
import WrappedTraining.Cluster.Snapshot
import WrappedTraining.Proofs.Cluster.Lookups
import WrappedTraining.Proofs.Cluster.Selectors

/-!
# What a listing holds

A listing asks for the pods with the label of the controller and for those with the label of this
kind of job, puts both answers together and gives every envelope its members.

* `Source.Reflects` : a source that answers from a snapshot, whatever it refuses to answer;
* `Trainer.mergePods_filter`, `Trainer.mergePods_filter_perm` : putting two answers together
  neither loses nor repeats a pod;
* `Trainer.members_asked_for` : every member is in one of the answers;
* `Trainer.pods_of_mem_jobs` : a listed job holds the members of its envelope, each once.
-/

namespace WrappedTraining

/-! ### Sources that reflect a snapshot -/

/-- Whatever the source answers, it answers from the snapshot. It can refuse to answer. -/
structure Source.Reflects (src : Source) (s : Snapshot) : Prop where
  envelope : ∀ {ns name e}, (src.envelope ns name).result = .ok e → s.envelope? ns name = some e
  notFound : ∀ {ns name ns' name'},
    (src.envelope ns name).result = .error (.notFound ns' name') → s.envelope? ns name = none
  envelopes : ∀ {ns? selector es},
    (src.envelopes ns? selector).result = .ok es → es = s.selectEnvelopes ns? selector
  pods : ∀ {ns? selector ps},
    (src.pods ns? selector).result = .ok ps → ps = s.selectPods ns? selector
  /-- Only the question for an envelope is answered with its absence. -/
  podsFound : ∀ {ns? selector ns' name'},
    (src.pods ns? selector).result ≠ .error (.notFound ns' name')

namespace Snapshot

theorem result_source_envelope (s : Snapshot) (ns name : String) :
    (s.source.envelope ns name).result =
      match s.envelope? ns name with
      | some e => .ok e
      | none => .error (.notFound ns name) := rfl

/-- A snapshot answers from itself. -/
theorem source_reflects (s : Snapshot) : s.source.Reflects s where
  envelope {ns name e} h := by
    rw [result_source_envelope] at h
    cases he : s.envelope? ns name with
    | none =>
      rw [he] at h
      cases h
    | some e' =>
      rw [he] at h
      rw [Except.ok.inj h]
  notFound {ns name ns' name'} h := by
    rw [result_source_envelope] at h
    cases he : s.envelope? ns name with
    | none => rfl
    | some e' =>
      rw [he] at h
      cases h
  envelopes h := (Except.ok.inj h).symm
  pods h := (Except.ok.inj h).symm
  podsFound h := by cases h

end Snapshot

namespace Trainer

/-! ### Putting two answers together -/

/-- Without repeated keys, nothing but what was seen before is left out. -/
theorem newPods_eq_filter {ps : List Pod} (h : (ps.map podKey).Nodup)
    (seen : List (String × String)) :
    newPods seen ps = ps.filter fun p => !seen.contains (podKey p) := by
  induction ps generalizing seen with
  | nil => rfl
  | cons p ps ih =>
    rw [List.map_cons, List.nodup_cons] at h
    by_cases hp : seen.contains (podKey p)
    · rw [newPods, if_pos hp, ih h.2, List.filter_cons_of_neg (by simpa using hp)]
    · rw [newPods, if_neg hp, ih h.2, List.filter_cons_of_pos (by simpa using hp)]
      refine congrArg (p :: ·) (List.filter_congr fun q hq => ?_)
      have hne : podKey q ≠ podKey p := fun heq => h.1 (heq ▸ List.mem_map_of_mem hq)
      simp [hne]

variable {ps : List Pod} {f g : Pod → Bool}

/-- Of two parts of a list, the first is kept, and of the second what is not in the first. -/
theorem mergePods_filter (h : (ps.map podKey).Nodup) :
    mergePods (ps.filter f) (ps.filter g) = ps.filter f ++ ps.filter fun p => g p && !f p := by
  have hsecond : ((ps.filter g).map podKey).Nodup := h.sublist (List.filter_sublist.map podKey)
  -- a key was seen exactly if its pod is in the first part, for keys belong to one pod
  have hseen : ∀ p ∈ ps, ((ps.filter f).map podKey).contains (podKey p) = f p := by
    intro p hp
    rw [Bool.eq_iff_iff, List.contains_iff_mem, List.mem_map]
    constructor
    · rintro ⟨q, hq, hkey⟩
      obtain ⟨hq, hf⟩ := List.mem_filter.1 hq
      rwa [← List.inj_on_of_nodup_map h hq hp hkey]
    · intro hf
      exact ⟨p, List.mem_filter.2 ⟨hp, hf⟩, rfl⟩
  unfold mergePods
  rw [newPods_eq_filter hsecond, List.filter_filter]
  refine congrArg (ps.filter f ++ ·) (List.filter_congr fun p hp => ?_)
  rw [hseen p hp, Bool.and_comm]

/-- Of two parts of a list, every pod that is in one of them is kept, once. -/
theorem mergePods_filter_perm (h : (ps.map podKey).Nodup) :
    (mergePods (ps.filter f) (ps.filter g)).Perm (ps.filter fun p => f p || g p) := by
  have hfirst : ps.filter f = (ps.filter fun p => f p || g p).filter f := by
    rw [List.filter_filter]
    refine List.filter_congr fun p _ => ?_
    cases f p <;> simp
  have hrest : (ps.filter fun p => g p && !f p) =
      (ps.filter fun p => f p || g p).filter fun p => !f p := by
    rw [List.filter_filter]
    refine List.filter_congr fun p _ => ?_
    cases f p <;> simp
  rw [mergePods_filter h, hrest]
  nth_rewrite 1 [hfirst]
  exact List.filter_append_perm f _

/-- Pods that are all in the first part, or all in the second only, keep their order. -/
theorem filter_mergePods (h : (ps.map podKey).Nodup) {r : Pod → Bool}
    (hasked : ∀ p ∈ ps, r p → f p || g p)
    (hpart : (∀ p ∈ ps, r p → f p) ∨ ∀ p ∈ ps, r p → f p = false) :
    (mergePods (ps.filter f) (ps.filter g)).filter r = ps.filter r := by
  rw [mergePods_filter h, List.filter_append, List.filter_filter, List.filter_filter]
  rcases hpart with hfirst | hsecond
  · -- the second part adds nothing
    have hnone : (ps.filter fun p => r p && (g p && !f p)) = [] :=
      List.filter_eq_nil_iff.2 fun p hp => by grind
    rw [hnone, List.append_nil]
    refine List.filter_congr fun p hp => ?_
    by_cases hr : r p
    · rw [hfirst p hp hr, Bool.and_true]
    · rw [Bool.eq_false_iff.2 hr, Bool.false_and]
  · -- the first part has none of them, so that all are asked for by the second
    have hnone : (ps.filter fun p => r p && f p) = [] :=
      List.filter_eq_nil_iff.2 fun p hp => by grind
    rw [hnone, List.nil_append]
    refine List.filter_congr fun p hp => ?_
    by_cases hr : r p
    · have hg := hasked p hp hr
      rw [hsecond p hp hr, Bool.false_or] at hg
      rw [hg, hsecond p hp hr, Bool.not_false, Bool.and_true, Bool.and_true]
    · rw [Bool.eq_false_iff.2 hr, Bool.false_and]

end Trainer

/-! ### Members are asked for -/

namespace Pod

variable {p : Pod} {name ns : String}

theorem isMemberOf_eq (name ns : String) (p : Pod) :
    p.isMemberOf name ns =
      (p.metadata.isIn (some ns) && (p.metadata.hasLabel Labels.envelopeName name ||
        (p.metadata.hasLabel Labels.release name &&
          p.metadata.hasLabel Labels.app Submission.trainer))) := by
  simp [isMemberOf, Metadata.isIn]

theorem isIn_of_isMemberOf (h : p.isMemberOf name ns) : p.metadata.isIn (some ns) := by
  rw [isMemberOf_eq, Bool.and_eq_true] at h
  exact h.1

/-- A member carries the label of the controller or that of this kind of job. -/
theorem labelled_of_isMemberOf (h : p.isMemberOf name ns) :
    (p.metadata.labels.get? Labels.envelopeName).isSome ∨
      p.metadata.hasLabel Labels.app Submission.trainer := by
  rw [isMemberOf_eq, Bool.and_eq_true, Bool.or_eq_true, Bool.and_eq_true] at h
  rcases h with ⟨-, hcontroller | ⟨-, happ⟩⟩
  · left
    rw [of_decide_eq_true hcontroller]
    rfl
  · exact .inr happ

end Pod

theorem Envelope.namespaceName_of_isIn {e : Envelope} {ns : String}
    (h : e.metadata.isIn (some ns)) : e.namespaceName = ns := by
  have hns : e.metadata.namespaceName? = some ns := by simpa [Metadata.isIn] using h
  rw [Envelope.namespaceName, hns]
  rfl

namespace Trainer

variable {src : Source} {s : Snapshot} {ns? : Option String} {js : List Job} {j : Job}

/-! ### Listed jobs -/

/-- What a listing answers, from the contents of the cluster. -/
theorem jobs_eq (hsrc : src.Reflects s) (h : (jobs src ns?).result = .ok js) :
    js = (s.selectEnvelopes ns? ownSelector).map fun e =>
      Job.ofCandidates e
        (mergePods (s.selectPods ns? Labels.envelopeName) (s.selectPods ns? ownSelector)) := by
  obtain ⟨es, controlled, older, hes, hcontrolled, holder, rfl⟩ := result_jobs_eq_ok_iff.1 h
  rw [← hsrc.envelopes hes, ← hsrc.pods hcontrolled, ← hsrc.pods holder]

/-- The members of an envelope lie where it does. -/
theorem isIn_of_isMemberOf {e : Envelope} (he : e.metadata.isIn ns?) {p : Pod}
    (h : p.isMemberOf e.name e.namespaceName) : p.metadata.isIn ns? := by
  cases ns? with
  | none => rfl
  | some ns =>
    rw [Envelope.namespaceName_of_isIn he] at h
    exact Pod.isIn_of_isMemberOf h

/-- A listing asks for every member of an envelope that it lists. -/
theorem members_asked_for {e : Envelope} (he : e.metadata.isIn ns?) {p : Pod}
    (h : p.isMemberOf e.name e.namespaceName) :
    p.metadata.isSelected ns? Labels.envelopeName || p.metadata.isSelected ns? ownSelector := by
  rw [Metadata.isSelected_labelled, Metadata.isSelected_own, isIn_of_isMemberOf he h]
  simpa using Pod.labelled_of_isMemberOf h

theorem envelope_of_mem_jobs (hsrc : src.Reflects s) (hjobs : (jobs src ns?).result = .ok js)
    (hj : j ∈ js) : j.envelope ∈ s.envelopes ∧ j.envelope.metadata.isIn ns? ∧
      j.envelope.metadata.hasLabel Labels.app Submission.trainer := by
  rw [jobs_eq hsrc hjobs] at hj
  obtain ⟨e, he, rfl⟩ := List.mem_map.1 hj
  obtain ⟨he, hselected⟩ := List.mem_filter.1 he
  rw [Metadata.isSelected_own, Bool.and_eq_true] at hselected
  exact ⟨he, hselected⟩

/-- The pods of a listed job are the members in the cluster, in some order. -/
theorem perm_of_mem_jobs (hsrc : src.Reflects s) (hkeys : (s.pods.map podKey).Nodup)
    (hjobs : (jobs src ns?).result = .ok js) (hj : j ∈ js) :
    j.pods.Perm
      (s.pods.filter fun p => p.isMemberOf j.envelope.name j.envelope.namespaceName) := by
  obtain ⟨-, hin, -⟩ := envelope_of_mem_jobs hsrc hjobs hj
  rw [jobs_eq hsrc hjobs] at hj
  obtain ⟨e, -, rfl⟩ := List.mem_map.1 hj
  have hmerged := (mergePods_filter_perm
    (f := fun p => p.metadata.isSelected ns? Labels.envelopeName)
    (g := fun p => p.metadata.isSelected ns? ownSelector) hkeys).filter
      fun p => p.isMemberOf e.name e.namespaceName
  have hmembers : (s.pods.filter fun p => p.metadata.isSelected ns? Labels.envelopeName ||
      p.metadata.isSelected ns? ownSelector).filter (fun p => p.isMemberOf e.name e.namespaceName) =
        s.pods.filter fun p => p.isMemberOf e.name e.namespaceName := by
    rw [List.filter_filter]
    refine List.filter_congr fun p _ => ?_
    by_cases hp : p.isMemberOf e.name e.namespaceName
    · rw [members_asked_for hin hp, Bool.and_true]
    · rw [Bool.eq_false_iff.2 hp, Bool.false_and]
  exact hmerged.trans (.of_eq hmembers)

/-- **A listed job holds exactly the members of its envelope, each once**: from whatever source,
for one namespace or all of them, if no two pods of the cluster share namespace and name. -/
theorem pods_of_mem_jobs (hsrc : src.Reflects s) (hkeys : (s.pods.map podKey).Nodup)
    (hjobs : (jobs src ns?).result = .ok js) (hj : j ∈ js) :
    (j.pods.map podKey).Nodup ∧
      ∀ p, p ∈ j.pods ↔ p ∈ s.pods ∧ p.isMemberOf j.envelope.name j.envelope.namespaceName := by
  have hperm := perm_of_mem_jobs hsrc hkeys hjobs hj
  refine ⟨?_, fun p => ?_⟩
  · rw [(hperm.map podKey).nodup_iff]
    exact hkeys.sublist (List.filter_sublist.map podKey)
  · rw [hperm.mem_iff, List.mem_filter]

/-- The pods of a listed job are the members in the order of the cluster, if all of them carry the
label of the controller, or none does. -/
theorem pods_eq_of_mem_jobs (hsrc : src.Reflects s) (hkeys : (s.pods.map podKey).Nodup)
    (hjobs : (jobs src ns?).result = .ok js) (hj : j ∈ js)
    (hlabel : (∀ p ∈ j.pods, (p.metadata.labels.get? Labels.envelopeName).isSome) ∨
      ∀ p ∈ j.pods, p.metadata.labels.get? Labels.envelopeName = none) :
    j.pods = s.pods.filter fun p => p.isMemberOf j.envelope.name j.envelope.namespaceName := by
  have hmembers := (pods_of_mem_jobs hsrc hkeys hjobs hj).2
  obtain ⟨-, hin, -⟩ := envelope_of_mem_jobs hsrc hjobs hj
  have hselected : ∀ p : Pod, p.isMemberOf j.envelope.name j.envelope.namespaceName →
      p.metadata.isSelected ns? Labels.envelopeName =
        (p.metadata.labels.get? Labels.envelopeName).isSome := fun p hp => by
    rw [Metadata.isSelected_labelled, isIn_of_isMemberOf hin hp, Bool.true_and]
  rw [jobs_eq hsrc hjobs] at hj
  obtain ⟨e, -, rfl⟩ := List.mem_map.1 hj
  refine filter_mergePods hkeys (fun p _ hp => members_asked_for hin hp) ?_
  refine hlabel.imp (fun hall p hp hmember => ?_) fun hnone p hp hmember => ?_
  · rw [hselected p hmember]
    exact hall p ((hmembers p).2 ⟨hp, hmember⟩)
  · rw [hselected p hmember, hnone p ((hmembers p).2 ⟨hp, hmember⟩)]
    rfl

/-- A pod with a name and labels, nothing else. -/
def labelledPod (ns name : String) (labels : List (String × String)) : Pod where
  metadata := { Metadata.empty with
    name? := some name, namespaceName? := some ns, labels := .ofList labels }
  containers := []
  nodeName? := none
  priorityClass? := none
  phase? := none
  startTime? := none
  hostIp? := none

/-- The envelope of a job in the namespace `ml`. -/
def sampleEnvelope (name : String) : Envelope where
  metadata := { Metadata.empty with
    name? := some name, namespaceName? := some "ml",
    labels := .ofList [(Labels.app, Submission.trainer)] }
  status := ⟨.running, 0, []⟩

/-- The job `demo` with a pod of each kind of labels and one of both, next to a pod of another job
and one of another namespace. -/
def mixedSnapshot : Snapshot where
  envelopes := [sampleEnvelope "demo"]
  pods :=
    [labelledPod "ml" "older" [(Labels.release, "demo"), (Labels.app, Submission.trainer)],
     labelledPod "ml" "new" [(Labels.envelopeName, "demo")],
     labelledPod "ml" "both" [(Labels.envelopeName, "demo"), (Labels.release, "demo"),
       (Labels.app, Submission.trainer)],
     labelledPod "ml" "other" [(Labels.envelopeName, "train")],
     labelledPod "web" "new" [(Labels.envelopeName, "demo")]]
  dashboards := .empty

theorem pods_of_mem_jobs_mixed :
    ∃ j, (jobs mixedSnapshot.source none).result = .ok [j] ∧ j.pods.length = 3 ∧
      (j.pods.map podKey).Nodup ∧ ∀ p, p ∈ j.pods ↔
        p ∈ mixedSnapshot.pods ∧ p.isMemberOf j.envelope.name j.envelope.namespaceName := by
  have hjobs : (jobs mixedSnapshot.source none).result = .ok [⟨sampleEnvelope "demo", _⟩] := rfl
  refine ⟨_, hjobs, rfl, ?_⟩
  exact pods_of_mem_jobs mixedSnapshot.source_reflects (by decide) hjobs List.mem_cons_self

end Trainer

end WrappedTraining
