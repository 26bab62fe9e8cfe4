import Mathlib.Tactic.ByContra
import Mathlib.Tactic.Push
import WrappedTraining.Proofs.Cluster.Listing
import WrappedTraining.Proofs.Inserted

/-!
# Which pod leads a job

Four marks tell the chief of a job from its other pods, and a better mark on any pod beats a worse
one on an earlier pod. `Pod.Bears` says what it is to bear a mark, and `Mark.rank` how good it is.

* `Pod.chiefIndex?_eq_some_iff` : the chief is the first pod with the best mark that any pod bears;
* `Pod.chiefIndex?_eq_some_iff_leads` : a pod is the chief if no pod before it bears a mark as good
  as its own, and no pod after it a better one;
* `Job.chief_of_candidates` : the chief of a job, and which candidates can come and go without
  changing it.
-/

namespace WrappedTraining

/-! ### Marks -/

/-- A mark of the pod that leads the others. -/
inductive Mark where
  | master
  | driver
  | firstTask
  | ordinalZero
deriving DecidableEq

namespace Mark

/-- How good the mark is; a smaller number is better. -/
def rank : Mark → Nat
  | .master => 0
  | .driver => 1
  | .firstTask => 2
  | .ordinalZero => 3

/-- The marks, best first. -/
def all : List Mark := [.master, .driver, .firstTask, .ordinalZero]

/-- The rule that looks for the mark. -/
def rule : Mark → Pod → Bool
  | .master => Pod.isMaster
  | .driver => Pod.isDriver
  | .firstTask => Pod.isFirstTask
  | .ordinalZero => Pod.hasOrdinalZero

theorem mem_all (m : Mark) : m ∈ all := by
  cases m <;> decide

theorem pairwise_all : all.Pairwise fun m m' => m.rank < m'.rank := by
  decide

theorem rank_injective {m m' : Mark} (h : m.rank = m'.rank) : m = m' := by
  cases m <;> cases m' <;> first | rfl | cases h

end Mark

namespace Pod

/-- **The pod bears the mark**: it is labelled as a master under one of two keys, it is labelled as
a driver, it is annotated as the first task, or its name ends in `-0` after a character that is no
digit. -/
def Bears (p : Pod) : Mark → Prop
  | .master =>
    p.metadata.labels.get? "pytorch-replica-type" = some "master" ∨
      p.metadata.labels.get? "training.kubeflow.org/replica-type" = some "master"
  | .driver => p.metadata.labels.get? "volcano-role" = some "driver"
  | .firstTask => p.metadata.annotations.get? "volcano.sh/task-index" = some "0"
  | .ordinalZero => ∃ name front c, p.metadata.name? = some name ∧
    name.toList = front ++ [c, '-', '0'] ∧ c.isDigit = false

theorem endsInOrdinalZero_iff {name : String} : endsInOrdinalZero name = true ↔
    ∃ front c, name.toList = front ++ [c, '-', '0'] ∧ c.isDigit = false := by
  have hreverse : ∀ front c, name.toList = front ++ [c, '-', '0'] ↔
      name.toList.reverse = '0' :: '-' :: c :: front.reverse := by
    intro front c
    rw [← List.reverse_inj]
    simp
  simp only [hreverse]
  unfold endsInOrdinalZero
  constructor
  · intro h
    split at h
    · rename_i c cs hcs
      exact ⟨cs.reverse, c, by rw [List.reverse_reverse, hcs], by simpa using h⟩
    · cases h
  · rintro ⟨front, c, hname, hc⟩
    rw [hname]
    simpa using hc

theorem rule_iff {p : Pod} {m : Mark} : m.rule p = true ↔ p.Bears m := by
  cases m with
  | master => simp [Mark.rule, Bears, isMaster, Metadata.hasLabel]
  | driver => simp [Mark.rule, Bears, isDriver, Metadata.hasLabel]
  | firstTask => simp [Mark.rule, Bears, isFirstTask]
  | ordinalZero =>
    simp only [Mark.rule, Bears, hasOrdinalZero]
    cases p.metadata.name? with
    | none => simp
    | some name => simpa using endsInOrdinalZero_iff

/-- The best mark that any of the pods bears. -/
structure IsBest (ps : List Pod) (m : Mark) : Prop where
  borne : ∃ p ∈ ps, p.Bears m
  le : ∀ p ∈ ps, ∀ m', p.Bears m' → m.rank ≤ m'.rank

/-! ### The chief of some pods -/

variable {ps before after : List Pod} {p : Pod} {m : Mark} {i : Nat}

theorem chiefIndex?_eq (ps : List Pod) :
    chiefIndex? ps = Mark.all.findSome? fun m => ps.findIdx? m.rule := rfl

theorem findIdx?_rule_eq_none_iff : ps.findIdx? m.rule = none ↔ ∀ p ∈ ps, ¬p.Bears m := by
  simp only [List.findIdx?_eq_none_iff, ← rule_iff, Bool.not_eq_true]

/-- **The chief is the first pod with the best mark** that any pod bears. -/
theorem chiefIndex?_eq_some_iff :
    chiefIndex? ps = some i ↔ ∃ m, IsBest ps m ∧ ps.findIdx? m.rule = some i := by
  rw [chiefIndex?_eq, List.findSome?_eq_some_iff]
  constructor
  · rintro ⟨better, m, worse, hall, hfirst, hnone⟩
    have hsorted := hall ▸ Mark.pairwise_all
    obtain ⟨-, hworse, -⟩ := List.pairwise_append.1 hsorted
    refine ⟨m, ⟨?_, fun p hp m' hm' => ?_⟩, hfirst⟩
    · by_contra hborne
      have hnobody : ∀ p ∈ ps, ¬p.Bears m := fun p hp hm => hborne ⟨p, hp, hm⟩
      rw [findIdx?_rule_eq_none_iff.2 hnobody] at hfirst
      cases hfirst
    · have hmem := Mark.mem_all m'
      rw [hall, List.mem_append, List.mem_cons] at hmem
      rcases hmem with hbetter | rfl | hworse'
      · exact absurd hm' (findIdx?_rule_eq_none_iff.1 (hnone m' hbetter) p hp)
      · exact Nat.le_refl _
      · exact Nat.le_of_lt ((List.pairwise_cons.1 hworse).1 m' hworse')
  · rintro ⟨m, hbest, hfirst⟩
    obtain ⟨better, worse, hall⟩ := List.append_of_mem (Mark.mem_all m)
    have hsorted := hall ▸ Mark.pairwise_all
    refine ⟨better, m, worse, hall, hfirst, fun m' hm' => ?_⟩
    rw [findIdx?_rule_eq_none_iff]
    intro p hp hbears
    have hlt : m'.rank < m.rank :=
      (List.pairwise_append.1 hsorted).2.2 m' hm' m List.mem_cons_self
    exact absurd (hbest.le p hp m' hbears) (Nat.not_le.2 hlt)

/-- **The pod leads the pods around it** with its mark: the pods before it bear worse marks only,
and it and the pods after it no better ones. -/
structure Leads (before : List Pod) (p : Pod) (after : List Pod) (m : Mark) : Prop where
  bears : p.Bears m
  before_lt : ∀ q ∈ before, ∀ m', q.Bears m' → m.rank < m'.rank
  after_le : ∀ q ∈ p :: after, ∀ m', q.Bears m' → m.rank ≤ m'.rank

theorem Leads.isBest (h : Leads before p after m) : IsBest (before ++ p :: after) m := by
  refine ⟨⟨p, List.mem_append_cons_self, h.bears⟩, fun q hq m' hm' => ?_⟩
  rcases List.mem_append.1 hq with hbefore | hafter
  · exact Nat.le_of_lt (h.before_lt q hbefore m' hm')
  · exact h.after_le q hafter m' hm'

theorem Leads.findIdx?_eq (h : Leads before p after m) :
    (before ++ p :: after).findIdx? m.rule = some before.length := by
  have hnone : before.findIdx? m.rule = none := by
    rw [findIdx?_rule_eq_none_iff]
    exact fun q hq hm => Nat.lt_irrefl _ (h.before_lt q hq m hm)
  rw [List.findIdx?_append, hnone, List.findIdx?_cons, rule_iff.2 h.bears]
  simp

theorem leads_of_findIdx? (hbest : IsBest ps m) (hfirst : ps.findIdx? m.rule = some i) :
    ∃ before p after, ps = before ++ p :: after ∧ before.length = i ∧ Leads before p after m := by
  obtain ⟨hi, hbears, hbefore⟩ := List.findIdx?_eq_some_iff_getElem.1 hfirst
  have hps : ps = ps.take i ++ ps[i] :: ps.drop (i + 1) := by
    rw [List.getElem_cons_drop, List.take_append_drop]
  refine ⟨ps.take i, ps[i], ps.drop (i + 1), hps, List.length_take_of_le (Nat.le_of_lt hi),
    rule_iff.1 hbears, ?_, ?_⟩
  · intro q hq m' hm'
    -- A mark as good as the best is the best, and the first pod with that one is at `i`.
    refine Nat.lt_of_le_of_ne (hbest.le q (List.mem_of_mem_take hq) m' hm') fun heq => ?_
    obtain rfl := Mark.rank_injective heq
    obtain ⟨k, hk, rfl⟩ := List.mem_take_iff_getElem.1 hq
    exact hbefore k (by omega) (rule_iff.2 hm')
  · rw [List.getElem_cons_drop]
    exact fun q hq => hbest.le q (List.mem_of_mem_drop hq)

/-- A pod is the chief exactly if it leads the pods around it. -/
theorem chiefIndex?_eq_some_iff_leads : chiefIndex? ps = some i ↔
    ∃ before p after m, ps = before ++ p :: after ∧ before.length = i ∧ Leads before p after m := by
  rw [chiefIndex?_eq_some_iff]
  constructor
  · rintro ⟨m, hbest, hfirst⟩
    obtain ⟨before, p, after, hps, hi, hleads⟩ := leads_of_findIdx? hbest hfirst
    exact ⟨before, p, after, m, hps, hi, hleads⟩
  · rintro ⟨before, p, after, m, rfl, rfl, hleads⟩
    exact ⟨m, hleads.isBest, hleads.findIdx?_eq⟩

theorem chiefIndex?_eq_some_iff_getElem? : chiefIndex? ps = some i ↔
    ∃ p m, ps[i]? = some p ∧ p.Bears m ∧ IsBest ps m ∧
      ∀ k < i, ∀ q, ps[k]? = some q → ¬q.Bears m := by
  rw [chiefIndex?_eq_some_iff]
  constructor
  · rintro ⟨m, hbest, hfirst⟩
    obtain ⟨hi, hbears, hbefore⟩ := List.findIdx?_eq_some_iff_getElem.1 hfirst
    refine ⟨ps[i], m, List.getElem?_eq_getElem hi, rule_iff.1 hbears, hbest, fun k hk q hq => ?_⟩
    obtain ⟨_, rfl⟩ := List.getElem?_eq_some_iff.1 hq
    exact fun hm => hbefore k hk (rule_iff.2 hm)
  · rintro ⟨p, m, hp, hm, hbest, hbefore⟩
    obtain ⟨hi, rfl⟩ := List.getElem?_eq_some_iff.1 hp
    refine ⟨m, hbest, List.findIdx?_eq_some_iff_getElem.2 ⟨hi, rule_iff.2 hm, ?_⟩⟩
    intro k hk hbears
    exact hbefore k hk _ (List.getElem?_eq_getElem (Nat.lt_trans hk hi)) (rule_iff.1 hbears)

theorem isSome_chiefIndex?_iff : (chiefIndex? ps).isSome ↔ ∃ p ∈ ps, ∃ m, p.Bears m := by
  rw [Option.isSome_iff_ne_none, Ne, chiefIndex?_eq, List.findSome?_eq_none_iff]
  simp only [findIdx?_rule_eq_none_iff, Mark.mem_all, forall_const]
  push Not
  exact ⟨fun ⟨m, p, hp, hm⟩ => ⟨p, hp, m, hm⟩, fun ⟨p, hp, m, hm⟩ => ⟨m, p, hp, hm⟩⟩

end Pod

/-! ### The chief of a job -/

namespace Job

variable {e : Envelope} {candidates : List Pod} {i : Nat}

/-- The candidates that belong to the envelope. -/
def members (e : Envelope) (candidates : List Pod) : List Pod :=
  candidates.filter fun p => p.isMemberOf e.name e.namespaceName

theorem pods_ofCandidates (e : Envelope) (candidates : List Pod) :
    (ofCandidates e candidates).pods = members e candidates := rfl

theorem mem_members {p : Pod} :
    p ∈ members e candidates ↔ p ∈ candidates ∧ p.isMemberOf e.name e.namespaceName = true :=
  List.mem_filter

theorem chief?_of_chiefIndex? {j : Job} (h : j.chiefIndex? = some i) : j.chief? = j.pods[i]? := by
  rw [chief?, h, Option.bind_some]

theorem lt_of_chiefIndex? {j : Job} (h : j.chiefIndex? = some i) : i < j.pods.length := by
  obtain ⟨before, c, after, m, hpods, rfl, -⟩ := Pod.chiefIndex?_eq_some_iff_leads.1 h
  simp [hpods]

theorem isSome_chief? {j : Job} : j.chief?.isSome = j.chiefIndex?.isSome := by
  cases h : j.chiefIndex? with
  | none =>
    rw [chief?, h]
    rfl
  | some i =>
    rw [chief?_of_chiefIndex? h, List.getElem?_eq_getElem (lt_of_chiefIndex? h), Option.isSome_some,
      Option.isSome_some]

theorem ofCandidates_of_inserted {more : List Pod}
    (h : Inserted (fun p => p.isMemberOf e.name e.namespaceName = false) candidates more) :
    ofCandidates e more = ofCandidates e candidates := by
  unfold ofCandidates
  rw [h.filter_eq]

/-- The chief is a candidate, and the members before and after it are those of the candidates before
and after it. -/
theorem exists_leads_of_chiefIndex? (h : (ofCandidates e candidates).chiefIndex? = some i) :
    ∃ before c after m, candidates = before ++ c :: after ∧ (members e before).length = i ∧
      c.isMemberOf e.name e.namespaceName = true ∧
      Pod.Leads (members e before) c (members e after) m := by
  obtain ⟨before, c, after, m, hpods, hi, hleads⟩ := Pod.chiefIndex?_eq_some_iff_leads.1 h
  obtain ⟨front, rest, hcandidates, hfront, hrest⟩ := List.filter_eq_append_iff.1 hpods
  obtain ⟨skipped, back, hskipped, hnone, hc, hback⟩ := List.filter_eq_cons_iff.1 hrest
  have hbefore : members e (front ++ skipped) = before := by
    have hempty : skipped.filter (fun p => p.isMemberOf e.name e.namespaceName) = [] :=
      List.filter_eq_nil_iff.2 hnone
    rw [members, List.filter_append, hempty, List.append_nil, hfront]
  refine ⟨front ++ skipped, c, back, m, by simp [hcandidates, hskipped], ?_, hc, ?_⟩
  · rw [hbefore, hi]
  · rwa [hbefore, members, hback]

theorem members_append_cons {before after : List Pod} {c : Pod}
    (hc : c.isMemberOf e.name e.namespaceName = true) :
    members e (before ++ c :: after) = members e before ++ c :: members e after := by
  rw [members, List.filter_append, List.filter_cons_of_pos hc]
  rfl

theorem chief_of_leads {before after : List Pod} {c : Pod} {m : Mark}
    (hc : c.isMemberOf e.name e.namespaceName = true)
    (h : Pod.Leads (members e before) c (members e after) m) :
    (ofCandidates e (before ++ c :: after)).chiefIndex? = some (members e before).length ∧
      (ofCandidates e (before ++ c :: after)).chief? = some c := by
  have hindex : (ofCandidates e (before ++ c :: after)).chiefIndex? =
      some (members e before).length :=
    Pod.chiefIndex?_eq_some_iff_leads.2
      ⟨members e before, c, members e after, m, members_append_cons hc, rfl, h⟩
  refine ⟨hindex, ?_⟩
  rw [chief?_of_chiefIndex? hindex, pods_ofCandidates, members_append_cons hc]
  simp

/-- A leader among the members still leads when there are more candidates, if those that belong to
the envelope bear worse marks only or stand after it and bear no better ones. -/
theorem leads_of_inserted {before after before' after' : List Pod} {c : Pod} {m : Mark}
    (h : Pod.Leads (members e before) c (members e after) m)
    (hbefore : Inserted (fun p => p.isMemberOf e.name e.namespaceName = true →
      ∀ m', p.Bears m' → m.rank < m'.rank) before before')
    (hafter : Inserted (fun p => p.isMemberOf e.name e.namespaceName = true →
      ∀ m', p.Bears m' → m.rank ≤ m'.rank) after after') :
    Pod.Leads (members e before') c (members e after') m := by
  have hlt := hbefore.forall_mem fun p hp hmember =>
    h.before_lt p (mem_members.2 ⟨hp, hmember⟩)
  have hle := hafter.forall_mem fun p hp hmember =>
    h.after_le p (List.mem_cons_of_mem c (mem_members.2 ⟨hp, hmember⟩))
  refine ⟨h.bears, fun q hq => ?_, List.forall_mem_cons.2 ⟨h.after_le c List.mem_cons_self, ?_⟩⟩
  · obtain ⟨hmem, hmember⟩ := mem_members.1 hq
    exact hlt q hmem hmember
  · intro q hq
    obtain ⟨hmem, hmember⟩ := mem_members.1 hq
    exact hle q hmem hmember

/-- **The chief of a job.** The pods of the job are the candidates that belong to the envelope, in
their order. The chief is the first of them with the best mark that any of them bears; there is one
exactly if one of them bears a mark, and its place is a place in the list of pods.

More candidates that are no members change nothing. Where there is a chief, more members leave it
the chief, if those before it bear worse marks than it does and those after it no better ones. -/
theorem chief_of_candidates (e : Envelope) (candidates : List Pod) :
    let j := ofCandidates e candidates
    j.pods = candidates.filter (fun p => p.isMemberOf e.name e.namespaceName) ∧
    (∀ i, j.chiefIndex? = some i ↔ ∃ p m, j.pods[i]? = some p ∧ p.Bears m ∧ Pod.IsBest j.pods m ∧
      ∀ k < i, ∀ q, j.pods[k]? = some q → ¬q.Bears m) ∧
    (j.chief?.isSome ↔ ∃ p ∈ candidates,
      p.isMemberOf e.name e.namespaceName = true ∧ ∃ m, p.Bears m) ∧
    (∀ i, j.chiefIndex? = some i → i < j.pods.length ∧ j.chief? = j.pods[i]?) ∧
    (∀ more, Inserted (fun p => p.isMemberOf e.name e.namespaceName = false) candidates more →
      ofCandidates e more = j) ∧
    ∀ i, j.chiefIndex? = some i → ∃ before c after m,
      candidates = before ++ c :: after ∧ i = (members e before).length ∧ j.chief? = some c ∧
      c.Bears m ∧ Pod.IsBest j.pods m ∧
      ∀ before' after',
        Inserted (fun p => p.isMemberOf e.name e.namespaceName = true →
          ∀ m', p.Bears m' → m.rank < m'.rank) before before' →
        Inserted (fun p => p.isMemberOf e.name e.namespaceName = true →
          ∀ m', p.Bears m' → m.rank ≤ m'.rank) after after' →
        (ofCandidates e (before' ++ c :: after')).chiefIndex? = some (members e before').length ∧
          (ofCandidates e (before' ++ c :: after')).chief? = some c := by
  intro j
  refine ⟨rfl, fun i => Pod.chiefIndex?_eq_some_iff_getElem?, ?_,
    fun i hi => ⟨lt_of_chiefIndex? hi, chief?_of_chiefIndex? hi⟩,
    fun more hmore => ofCandidates_of_inserted hmore, fun i hi => ?_⟩
  · have hpods : j.chiefIndex? = Pod.chiefIndex? (members e candidates) := rfl
    rw [isSome_chief?, hpods, Pod.isSome_chiefIndex?_iff]
    simp only [mem_members, and_assoc]
  · obtain ⟨before, c, after, m, rfl, rfl, hc, hleads⟩ := exists_leads_of_chiefIndex? hi
    have hbest : Pod.IsBest j.pods m := by
      rw [pods_ofCandidates, members_append_cons hc]
      exact hleads.isBest
    refine ⟨before, c, after, m, rfl, rfl, (chief_of_leads hc hleads).2, hleads.bears, hbest, ?_⟩
    intro before' after' hbefore hafter
    exact chief_of_leads hc (leads_of_inserted hleads hbefore hafter)

/-- A driver leads a worker that stands before it, and a master of another namespace does not count. -/
example : (ofCandidates (Trainer.sampleEnvelope "demo")
    [Trainer.labelledPod "web" "demo-1"
       [(Labels.envelopeName, "demo"), ("pytorch-replica-type", "master")],
     Trainer.labelledPod "ml" "demo-0" [(Labels.envelopeName, "demo")],
     Trainer.labelledPod "ml" "demo-2" [(Labels.envelopeName, "demo"), ("volcano-role", "driver")]]
    ).chiefIndex? = some 1 := by decide

end Job

end WrappedTraining
