import WrappedTraining.Proofs.Cluster.Agreement
import WrappedTraining.Proofs.Cluster.Contents
import WrappedTraining.Proofs.Cluster.Reports

/-!
# Listings of one namespace and of all

A listing of one namespace leaves the choice to the cluster; a listing of all namespaces gets every
pod and leaves the choice to the envelopes. The jobs of the namespace are the same in both, and
they are the jobs that a lookup finds by name.

* `Snapshot.IsNamed` : nothing in the cluster shares its name and namespace with another object of
  its kind;
* `Source.Answers` : a source that answers from a snapshot; `Snapshot.answers` and
  `Server.Serves.answers` are the two that there are;
* `Snapshot.listed_some` : the listing of a namespace is a part of the listing of all;
* `Trainer.listings_agree` : from a snapshot, and from a server with the same contents, listings
  agree with each other and with lookups.
-/

namespace WrappedTraining

theorem Metadata.isSelected_some (m : Metadata) (ns selector : String) :
    m.isSelected (some ns) selector = (m.isIn (some ns) && m.isSelected none selector) := by
  simp [isSelected, isIn]

namespace Snapshot

/-- No two pods, and no two envelopes, share their namespace and name, and every envelope lies in a
namespace. -/
structure IsNamed (s : Snapshot) : Prop where
  pods : (s.pods.map Trainer.podKey).Nodup
  envelopes : (s.envelopes.map Trainer.envelopeKey).Nodup
  inNamespace : ∀ e ∈ s.envelopes, e.metadata.namespaceName?.isSome

/-- The jobs of a namespace, or of all. -/
def listed (s : Snapshot) (ns? : Option String) : List Job :=
  (s.selectEnvelopes ns? Trainer.ownSelector).map fun e =>
    Job.ofCandidates e (Trainer.mergePods (s.selectPods ns? Labels.envelopeName)
      (s.selectPods ns? Trainer.ownSelector))

variable {s : Snapshot}

/-! ### The listing of a namespace -/

theorem isIn_iff (hs : s.IsNamed) {e : Envelope} (he : e ∈ s.envelopes) (ns : String) :
    e.metadata.isIn (some ns) = decide (e.namespaceName = ns) := by
  obtain ⟨n, hn⟩ := Option.isSome_iff_exists.1 (hs.inNamespace e he)
  simp [Metadata.isIn, Envelope.namespaceName, hn]

theorem selectEnvelopes_some (hs : s.IsNamed) (ns selector : String) :
    s.selectEnvelopes (some ns) selector =
      (s.selectEnvelopes none selector).filter fun e => e.namespaceName = ns := by
  unfold selectEnvelopes
  rw [List.filter_filter]
  refine List.filter_congr fun e he => ?_
  rw [Metadata.isSelected_some, isIn_iff hs he]

/-- The members of an envelope are asked for in its namespace alone, with the same order among
them. -/
theorem ofCandidates_some (hs : s.IsNamed) {e : Envelope} {ns : String} (he : e.namespaceName = ns)
    (first second : String) :
    Job.ofCandidates e
        (Trainer.mergePods (s.selectPods (some ns) first) (s.selectPods (some ns) second)) =
      Job.ofCandidates e
        (Trainer.mergePods (s.selectPods none first) (s.selectPods none second)) := by
  -- a member lies in the namespace, so that asking for it there makes no difference
  have hmember : ∀ (p : Pod) (selector : String), p.isMemberOf e.name e.namespaceName →
      p.metadata.isSelected (some ns) selector = p.metadata.isSelected none selector := by
    intro p selector hp
    rw [he] at hp
    rw [Metadata.isSelected_some, Pod.isIn_of_isMemberOf hp, Bool.true_and]
  unfold Job.ofCandidates selectPods
  rw [Trainer.mergePods_filter hs.pods, Trainer.mergePods_filter hs.pods]
  simp only [List.filter_append, List.filter_filter]
  congr 2 <;>
  · refine List.filter_congr fun p _ => ?_
    cases hp : p.isMemberOf e.name e.namespaceName with
    | false => rfl
    | true => simp only [hmember p _ hp]

/-- **The listing of a namespace is a part of the listing of all**, job by job: with the same
pods in the same order. -/
theorem listed_some (hs : s.IsNamed) (ns : String) :
    s.listed (some ns) = (s.listed none).filter fun j => j.envelope.namespaceName = ns := by
  unfold listed
  rw [selectEnvelopes_some hs, List.filter_map]
  refine List.map_congr_left fun e he => ?_
  exact ofCandidates_some hs (of_decide_eq_true (List.mem_filter.1 he).2) _ _

end Snapshot

/-! ### Sources without failures -/

/-- The questions for pods in the listings of a namespace and of all, and in the lookup of a
job: namespace and selector. -/
def Trainer.podQuestions (ns name : String) : List (Option String × String) :=
  [(none, Labels.envelopeName), (none, ownSelector), (some ns, Labels.envelopeName),
    (some ns, ownSelector), (some ns, controllerSelector name), (some ns, olderSelector name)]

/-- The source answers from the snapshot what these listings and this lookup ask. -/
structure Source.Answers (src : Source) (s : Snapshot) (ns name : String) : Prop where
  envelope : (src.envelope ns name).result =
    match s.envelope? ns name with
    | some e => .ok e
    | none => .error (.notFound ns name)
  envelopes : ∀ ns? ∈ [none, some ns], (src.envelopes ns? Trainer.ownSelector).result =
    .ok (s.selectEnvelopes ns? Trainer.ownSelector)
  pods : ∀ q ∈ Trainer.podQuestions ns name, (src.pods q.1 q.2).result = .ok (s.selectPods q.1 q.2)

theorem Source.Answers.envelope_eq_ok_iff {src : Source} {s : Snapshot} {ns name : String}
    (h : src.Answers s ns name) {e : Envelope} :
    (src.envelope ns name).result = .ok e ↔ s.envelope? ns name = some e := by
  rw [h.envelope]
  cases s.envelope? ns name <;> simp

/-- A snapshot answers everything. -/
theorem Snapshot.answers (s : Snapshot) (ns name : String) : s.source.Answers s ns name where
  envelope := s.result_source_envelope ns name
  envelopes _ _ := rfl
  pods _ _ := rfl

/-- None of the requests that these listings and this lookup make to the server fails, and the one
for the envelope can be made at all. -/
structure Server.Serves (v : Server) (failures : Failures) (ns name : String) : Prop where
  named : name ≠ ""
  sent : (Request.envelope ns name).hasAddress
  envelope : failures (.envelope ns name) = none
  envelopes : ∀ ns? ∈ [none, some ns], ¬v.EnvelopesFail failures .standard ns?
  pods : ∀ q ∈ Trainer.podQuestions ns name, ¬v.PodsFail failures .standard q.1 q.2

/-- A server whose pods can all be read serves, while no request is made to fail, whatever can
stand in an address. -/
theorem Server.Holds.serves {v : Server} {s : Snapshot} {ns name : String} (h : v.Holds s)
    (hpods : ∀ j ∈ v.pods, Pod.ofJson? j ≠ none) (hname : name ≠ "")
    (haddress : (Request.envelope ns name).hasAddress) : v.Serves (fun _ => none) ns name where
  named := hname
  sent := haddress
  envelope := rfl
  envelopes ns? hns := by
    have hpath : (Request.namespacePart ns?).toList.all Request.allowsInPath := by
      simp only [List.mem_cons, List.not_mem_nil, or_false] at hns
      rcases hns with rfl | rfl
      · rfl
      · exact Request.allowsInPath_of_envelope haddress
    rintro (hnone | ⟨f, hf⟩ | ⟨-, j, hj, hmeta⟩)
    · exact hnone (Request.hasAddress_envelopes_iff.2 hpath)
    · cases hf
    · obtain ⟨e, he⟩ := Lists.exists_forall₂_iff.1 ⟨_, h.envelopes⟩ j (List.mem_filter.1 hj).1
      exact hmeta (exists_readEnvelope_iff.1 ⟨e, he⟩).1
  pods q hq := by
    have hpath : (Request.namespacePart q.1).toList.all Request.allowsInPath := by
      simp only [Trainer.podQuestions, List.mem_cons, List.not_mem_nil, or_false] at hq
      rcases hq with rfl | rfl | rfl | rfl | rfl | rfl
      · rfl
      · rfl
      all_goals exact Request.allowsInPath_of_envelope haddress
    rintro (hnone | ⟨f, hf⟩ | ⟨-, j, hj, -, hread⟩)
    · exact hnone (Request.hasAddress_pods hpath q.2)
    · cases hf
    · exact hpods j hj hread

/-- A server answers from the contents that it holds, as long as no request fails. -/
theorem Server.Serves.answers {v : Server} {s : Snapshot} {failures : Failures} {ns name : String}
    (h : v.Serves failures ns name) (hholds : v.Holds s) (hs : s.IsNamed) :
    (v.sourceUnder failures).Answers s ns name where
  envelope := by
    rw [sourceUnder, result_envelope h.named, if_pos h.sent, h.envelope]
    -- the record and the envelope are found together, or neither is
    have hfound := hholds.find ns h.named hs.inNamespace
    revert hfound
    generalize v.envelopes.find? (isNamed ns name) = j?, s.envelope? ns name = e?
    rintro (hread | _)
    · exact hread
    · rfl
  envelopes ns? hns := by
    have hserved := h.envelopes ns? hns
    unfold EnvelopesFail at hserved
    push Not at hserved
    obtain ⟨haddress, hanswered, -⟩ := hserved
    exact result_envelopes_eq_ok_iff.2
      ⟨haddress, Option.eq_none_iff_forall_ne_some.2 hanswered, hholds.labelled ns?⟩
  pods q hq := by
    have hserved := h.pods q hq
    unfold PodsFail at hserved
    push Not at hserved
    obtain ⟨haddress, hanswered, hread⟩ := hserved
    replace hanswered := Option.eq_none_iff_forall_ne_some.2 hanswered
    exact result_pods_eq_ok_iff.2 ⟨haddress, hanswered, hholds.selected (hread hanswered)⟩

namespace Trainer

variable {src : Source} {s : Snapshot} {ns name : String}

/-! ### Listings and lookups -/

/-- The listing of a namespace is the part of the listing of all that lies in it: the same jobs in
the same order, each with the same pods in the same order and so with the same chief. A lookup in
the namespace finds a job if one of its name is listed, and otherwise says that there is none. -/
structure ListingsAgree (src : Source) (ns name : String) (all js : List Job) : Prop where
  whole : (jobs src none).result = .ok all
  part : (jobs src (some ns)).result = .ok js
  agree : js = all.filter fun j => j.envelope.namespaceName = ns
  found : (∃ g, (job src ns name).result = .ok g) ↔ ∃ j ∈ js, j.envelope.name = name
  missing : (¬∃ j ∈ js, j.envelope.name = name) →
    (job src ns name).result = .error (.notFound ns name)

theorem result_jobs_of_answers (h : src.Answers s ns name) {ns? : Option String}
    (hns : ns? ∈ [none, some ns]) : (jobs src ns?).result = .ok (s.listed ns?) := by
  have hpods : ∀ selector ∈ [Labels.envelopeName, ownSelector],
      (src.pods ns? selector).result = .ok (s.selectPods ns? selector) := by
    intro selector hselector
    refine h.pods (ns?, selector) ?_
    simp only [List.mem_cons, List.not_mem_nil, or_false] at hns hselector
    rcases hns with rfl | rfl <;> rcases hselector with rfl | rfl <;> simp [podQuestions]
  exact result_jobs_eq_ok_iff.2
    ⟨_, _, _, h.envelopes ns? hns, hpods _ (by simp), hpods _ (by simp), rfl⟩

/-- The pods of a lookup are there, whichever selector finds them. -/
theorem exists_candidates_of_answers (h : src.Answers s ns name) :
    ∃ ps, (candidates src ns name).result = .ok ps := by
  have hcontrolled := h.pods (some ns, controllerSelector name) (by simp [podQuestions])
  have holder := h.pods (some ns, olderSelector name) (by simp [podQuestions])
  by_cases hnone : s.selectPods (some ns) (controllerSelector name) = []
  · rw [hnone] at hcontrolled
    exact ⟨_, result_candidates_eq_ok_iff.2 (.inr ⟨hcontrolled, holder⟩)⟩
  · exact ⟨_, result_candidates_eq_ok_iff.2 (.inl ⟨hcontrolled, hnone⟩)⟩

/-- An envelope of this kind is looked up by the namespace and the name under which it is listed. -/
theorem exists_owned_iff (hs : s.IsNamed) :
    (∃ e, s.envelope? ns name = some e ∧ e.isOwned) ↔
      ∃ j ∈ s.listed (some ns), j.envelope.name = name := by
  constructor
  · rintro ⟨e, he, howned⟩
    have hmem := List.mem_of_find?_eq_some he
    have hfound := List.find?_some he
    rw [Bool.and_eq_true, decide_eq_true_eq, decide_eq_true_eq] at hfound
    refine ⟨_, List.mem_map_of_mem (List.mem_filter.2 ⟨hmem, ?_⟩), hfound.1⟩
    rw [Metadata.isSelected_own, Snapshot.isIn_iff hs hmem, Bool.and_eq_true]
    exact ⟨decide_eq_true hfound.2, howned⟩
  · rintro ⟨j, hj, rfl⟩
    obtain ⟨e, he, rfl⟩ := List.mem_map.1 hj
    obtain ⟨hmem, hselected⟩ := List.mem_filter.1 he
    rw [Metadata.isSelected_own, Bool.and_eq_true] at hselected
    obtain rfl := Envelope.namespaceName_of_isIn hselected.1
    -- no other envelope of that name can be found first, one of another kind in particular
    exact ⟨e, envelope?_eq_some hs.envelopes hmem, hselected.2⟩

theorem listingsAgree_of_answers (h : src.Answers s ns name) (hs : s.IsNamed) :
    ListingsAgree src ns name (s.listed none) (s.listed (some ns)) where
  whole := result_jobs_of_answers h (by simp)
  part := result_jobs_of_answers h (by simp)
  agree := s.listed_some hs ns
  found := by
    rw [← exists_owned_iff hs]
    constructor
    · rintro ⟨g, hg⟩
      obtain ⟨e, he, howned, -⟩ := result_job_eq_ok_iff.1 hg
      exact ⟨e, h.envelope_eq_ok_iff.1 he, howned⟩
    · rintro ⟨e, he, howned⟩
      obtain ⟨ps, hps⟩ := exists_candidates_of_answers h
      exact ⟨_, result_job_eq_ok_iff.2 ⟨e, h.envelope_eq_ok_iff.2 he, howned, ps, hps, rfl⟩⟩
  missing hmissing := by
    rw [← exists_owned_iff hs] at hmissing
    rw [result_job_eq_error_iff]
    cases hfound : s.envelope? ns name with
    | none =>
      left
      rw [h.envelope, hfound]
    | some e =>
      have hforeign : ¬e.isOwned := fun howned => hmissing ⟨e, hfound, howned⟩
      exact .inr ⟨e, h.envelope_eq_ok_iff.2 hfound, .inr ⟨hforeign, rfl⟩⟩

/-- **Listings agree**, with each other and with lookups: from a snapshot, and from every server
that holds the same contents while no request fails. -/
theorem listings_agree (s : Snapshot) (hs : s.IsNamed) (ns name : String) :
    ∃ all js, ListingsAgree s.source ns name all js ∧
      ∀ (v : Server) (failures : Server.Failures), v.Holds s → v.Serves failures ns name →
        ListingsAgree (v.sourceUnder failures) ns name all js :=
  ⟨_, _, listingsAgree_of_answers (s.answers ns name) hs,
    fun _ _ hholds hserves => listingsAgree_of_answers (hserves.answers hholds hs) hs⟩

/-- The job `demo` in the namespaces `ml` and `web`. The chief of the first is the only pod of it
that is asked for by the older labels. -/
def twoNamespaces : Snapshot where
  envelopes :=
    [{ sampleEnvelope "demo" with
        metadata := { (sampleEnvelope "demo").metadata with namespaceName? := some "web" } },
      sampleEnvelope "demo"]
  pods :=
    [labelledPod "ml" "demo-0" [(Labels.release, "demo"), (Labels.app, Submission.trainer)],
      labelledPod "web" "demo-0" [(Labels.envelopeName, "demo")],
      labelledPod "ml" "demo-1" [(Labels.envelopeName, "demo")]]
  dashboards := .empty

/-- The record of a pod with a name and labels. -/
def podRecord (ns name : String) (labels : List (String × String)) : Json :=
  .obj [("metadata", .obj [("name", .str name), ("namespace", .str ns),
    ("labels", .obj (labels.map fun l => (l.1, .str l.2)))])]

/-- A server with the objects of `twoNamespaces`. -/
def twoNamespacesServer : Server where
  envelopes := [Server.envelopeRecord "web" "demo", Server.envelopeRecord "ml" "demo"]
  pods :=
    [podRecord "ml" "demo-0" [(Labels.release, "demo"), (Labels.app, Submission.trainer)],
      podRecord "web" "demo-0" [(Labels.envelopeName, "demo")],
      podRecord "ml" "demo-1" [(Labels.envelopeName, "demo")]]
  services := []
  installed := true
  faults := .empty

theorem listings_agree_two :
    ∃ all js, ListingsAgree (twoNamespacesServer.sourceUnder fun _ => none) "ml" "demo" all js ∧
      all.length = 2 ∧ js.map Job.chiefIndex? = [some 1] := by
  have hholds : twoNamespacesServer.Holds twoNamespaces := ⟨.cons rfl (.cons rfl .nil), rfl⟩
  have hserves : twoNamespacesServer.Serves (fun _ => none) "ml" "demo" :=
    hholds.serves (by decide) (by decide) (by decide)
  obtain ⟨all, js, hsnapshot, hserver⟩ :=
    listings_agree twoNamespaces ⟨by decide, by decide, by decide⟩ "ml" "demo"
  refine ⟨all, js, hserver _ _ hholds hserves, ?_, ?_⟩
  · obtain rfl := Except.ok.inj (hsnapshot.whole.symm.trans
      (result_jobs_of_answers (twoNamespaces.answers "ml" "demo") (by simp)))
    rfl
  · obtain rfl := Except.ok.inj (hsnapshot.part.symm.trans
      (result_jobs_of_answers (twoNamespaces.answers "ml" "demo") (by simp)))
    rfl

end Trainer

end WrappedTraining
