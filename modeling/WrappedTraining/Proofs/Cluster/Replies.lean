import WrappedTraining.Cluster.Server
import WrappedTraining.Proofs.Cluster.Listing
import WrappedTraining.Proofs.Lists

/-!
# What comes of a request

A request to a server can fail, in any way, or be answered with records that cannot be read. The
result of asking is settled by the records that the server holds and by the failures.

* `Server.readEnvelopes_eq_ok_iff`, `Server.readEnvelopes_eq_error_iff`,
  `Server.readPods_eq_ok_iff`, `Server.readPods_eq_error_iff` : reading lists of records;
* `Server.GivesEnvelope`, `Server.Lacks`, `Server.GivesUndecodable`, `Server.EnvelopeFails` : what
  can come of the request for an envelope; `Server.GivesEnvelopes`, `Server.GivesPods` and the
  conditions next to them do the same for lists;
* `Server.result_envelope_eq_ok_iff`, `Server.error_of_envelope` and their like : nothing else can
  come of a request.
-/

namespace WrappedTraining

/-- The cluster or the request is at fault: there is neither the word that a job is not there, nor
an envelope that cannot be read. -/
def LookupError.isService : LookupError → Bool
  | .notFound _ _ => false
  | .service => true
  | .decode => false
  | .nameless => true
  | .badAddress => true
  | .unreachable => true

@[simp] theorem Server.Failure.isService_error (f : Failure) : f.error.isService := by
  cases f <;> rfl

namespace Request

/-- The request on its way to the server, if it has an address. -/
def sent (r : Request) : List Request := if r.hasAddress then [r] else []

theorem sent_eq {r : Request} (h : r.hasAddress) : r.sent = [r] := if_pos h

/-- What matters for the address of a request for pods is the namespace. -/
theorem hasAddress_pods {ns? : Option String}
    (h : (namespacePart ns?).toList.all allowsInPath) (selector : String) :
    (pods ns? selector).hasAddress := by
  unfold hasAddress path
  simp only [String.toList_append, List.all_append, Bool.and_eq_true]
  exact ⟨⟨by decide, h⟩, by decide⟩

theorem hasAddress_envelopes_iff {ns? : Option String} {selector : String} :
    (envelopes ns? selector).hasAddress ↔ (namespacePart ns?).toList.all allowsInPath := by
  have hends : envelopeApi.toList.all allowsInPath ∧ "/appwrappers".toList.all allowsInPath := by
    decide
  unfold hasAddress path
  simp only [String.toList_append, List.all_append, Bool.and_eq_true]
  exact ⟨fun h => h.1.2, fun h => ⟨⟨hends.1, h⟩, hends.2⟩⟩

/-- The namespace of an envelope that can be asked for can stand in an address. -/
theorem allowsInPath_of_envelope {ns name : String} (h : (envelope ns name).hasAddress) :
    (namespacePart (some ns)).toList.all allowsInPath := by
  unfold hasAddress path at h
  simp only [String.toList_append, List.all_append, Bool.and_eq_true] at h
  exact h.1.1.2

end Request

namespace Lookup

variable {α : Type}

theorem requests_send (r : Request) (x : Except LookupError α) : (send r x).requests = r.sent := by
  unfold send Request.sent
  split <;> rfl

end Lookup

namespace Server

open WrappedTraining.Lists

variable {α β : Type}

/-! ### Records -/

/-- The metadata of a record can be read. -/
def HasMetadata (d : Reader) (j : Json) : Prop := (d.metadata? j).isSome

/-- The status of a record can be read as that of an envelope. -/
def HasStatus (j : Json) : Prop := (Envelope.statusOf? j).isSome

section readEnvelope

variable {d : Reader} {j : Json}

theorem exists_readEnvelope_iff :
    (∃ e, readEnvelope d j = .ok e) ↔ HasMetadata d j ∧ HasStatus j := by
  unfold readEnvelope HasMetadata HasStatus
  cases d.metadata? j <;> cases Envelope.statusOf? j <;> simp

theorem readEnvelope_eq_error_iff {e : LookupError} :
    readEnvelope d j = .error e ↔
      ¬HasMetadata d j ∧ e = .service ∨ HasMetadata d j ∧ ¬HasStatus j ∧ e = .decode := by
  unfold readEnvelope HasMetadata HasStatus
  cases d.metadata? j <;> cases Envelope.statusOf? j <;> simp [eq_comm]

end readEnvelope

section readLists

variable {d : Reader} {js : List Json}

theorem readEnvelopes_eq_ok_iff {es : List Envelope} :
    readEnvelopes d js = .ok es ↔ List.Forall₂ (fun j e => readEnvelope d j = .ok e) js es := by
  unfold readEnvelopes
  split
  · exact mapM_eq_ok_iff
  · rename_i h
    constructor
    · intro h'
      cases h'
    · intro hes
      refine absurd (List.all_eq_true.2 fun j hj => ?_) h
      obtain ⟨e, he⟩ := exists_forall₂_iff.1 ⟨es, hes⟩ j hj
      exact (exists_readEnvelope_iff.1 ⟨e, he⟩).1

theorem readEnvelopes_eq_error_iff {e : LookupError} :
    readEnvelopes d js = .error e ↔
      (∃ j ∈ js, ¬HasMetadata d j) ∧ e = .service ∨
        (∀ j ∈ js, HasMetadata d j) ∧ (∃ j ∈ js, ¬HasStatus j) ∧ e = .decode := by
  unfold readEnvelopes
  split
  · rename_i h
    -- all metadata are read before any status, so that only a status can still be at fault
    replace h : ∀ j ∈ js, HasMetadata d j := List.all_eq_true.1 h
    have hnone : ¬∃ j ∈ js, ¬HasMetadata d j := fun ⟨j, hj, hmeta⟩ => hmeta (h j hj)
    simp only [hnone, false_and, false_or, and_iff_right h]
    constructor
    · intro hread
      obtain ⟨j, hj, hread⟩ := exists_of_mapM_eq_error hread
      rcases readEnvelope_eq_error_iff.1 hread with ⟨hmeta, -⟩ | ⟨-, hstatus, he⟩
      · exact absurd (h j hj) hmeta
      · exact ⟨⟨j, hj, hstatus⟩, he⟩
    · rintro ⟨⟨j, hj, hstatus⟩, rfl⟩
      cases hread : js.mapM (readEnvelope d) with
      | ok es =>
        obtain ⟨e, he⟩ := exists_forall₂_iff.1 ⟨es, mapM_eq_ok_iff.1 hread⟩ j hj
        exact absurd (exists_readEnvelope_iff.1 ⟨e, he⟩).2 hstatus
      | error e =>
        obtain ⟨j', hj', hread'⟩ := exists_of_mapM_eq_error hread
        rcases readEnvelope_eq_error_iff.1 hread' with ⟨hmeta, -⟩ | ⟨-, -, rfl⟩
        · exact absurd (h j' hj') hmeta
        · rfl
  · rename_i h
    have hsome : ∃ j ∈ js, ¬HasMetadata d j := by simpa [HasMetadata] using h
    have hnot : ¬∀ j ∈ js, HasMetadata d j := fun hall =>
      hsome.elim fun j hj => hj.2 (hall j hj.1)
    simp [hsome, hnot, eq_comm]

theorem readPods_eq_ok_iff {ps : List Pod} :
    readPods d js = .ok ps ↔ List.Forall₂ (fun j p => d.pod? j = some p) js ps := by
  rw [← mapM_eq_some_iff]
  unfold readPods
  cases js.mapM d.pod? <;> simp

theorem readPods_eq_error_iff {e : LookupError} :
    readPods d js = .error e ↔ (∃ j ∈ js, d.pod? j = none) ∧ e = .service := by
  have hnone : js.mapM d.pod? = none ↔ ∃ j ∈ js, d.pod? j = none := by
    rw [Option.eq_none_iff_forall_ne_some]
    simp only [ne_eq, mapM_eq_some_iff]
    rw [← not_exists, exists_forall₂_iff]
    simp [Option.eq_none_iff_forall_ne_some]
  rw [← hnone]
  unfold readPods
  cases js.mapM d.pod? <;> simp [eq_comm]

end readLists

/-! ### What comes of a request -/

section requests

variable (s : Server) (failures : Failures) (d : Reader) (ns name : String) (ns? : Option String)
  (selector : String)

/-- The request for the envelope is answered with it. -/
def GivesEnvelope (e : Envelope) : Prop :=
  (Request.envelope ns name).hasAddress ∧ failures (.envelope ns name) = none ∧
    ∃ j, s.envelopes.find? (isNamed ns name) = some j ∧ readEnvelope d j = .ok e

/-- The request for the envelope is answered with the code 404: it is refused so, or there is no
such envelope. -/
def Lacks : Prop :=
  (Request.envelope ns name).hasAddress ∧ (failures (.envelope ns name) = some (.refused 404) ∨
    failures (.envelope ns name) = none ∧ s.envelopes.find? (isNamed ns name) = none)

/-- The request for the envelope is answered with an object whose body is no envelope. -/
def GivesUndecodable : Prop :=
  (Request.envelope ns name).hasAddress ∧ failures (.envelope ns name) = none ∧
    ∃ j, s.envelopes.find? (isNamed ns name) = some j ∧ HasMetadata d j ∧ ¬HasStatus j

/-- The request for the envelope has no address, it fails other than by the code 404, or it is
answered with something that is no object of a cluster. -/
def EnvelopeFails : Prop :=
  ¬(Request.envelope ns name).hasAddress ∨
    (∃ f, failures (.envelope ns name) = some f ∧ f ≠ .refused 404) ∨
      failures (.envelope ns name) = none ∧
        ∃ j, s.envelopes.find? (isNamed ns name) = some j ∧ ¬HasMetadata d j

/-- The records of the envelopes of this kind in a namespace, or in all. -/
def labelled : List Json :=
  s.envelopes.filter fun j => (ns?.isNone || metadataText? j "namespace" = ns?) &&
    (labelsOf j).get? Labels.app = some Submission.trainer

/-- The request for the envelopes of this kind is answered with all of them. -/
def GivesEnvelopes (es : List Envelope) : Prop :=
  (Request.envelopes ns? Trainer.ownSelector).hasAddress ∧
    failures (.envelopes ns? Trainer.ownSelector) = none ∧
      List.Forall₂ (fun j e => readEnvelope d j = .ok e) (s.labelled ns?) es

/-- The request for the envelopes of this kind is answered with objects, and some body is no
envelope. -/
def GivesSomeUndecodable : Prop :=
  (Request.envelopes ns? Trainer.ownSelector).hasAddress ∧
    failures (.envelopes ns? Trainer.ownSelector) = none ∧
      (∀ j ∈ s.labelled ns?, HasMetadata d j) ∧ ∃ j ∈ s.labelled ns?, ¬HasStatus j

/-- The request for the envelopes of this kind has no address, it fails, or it is answered with
something that is no object of a cluster. -/
def EnvelopesFail : Prop :=
  ¬(Request.envelopes ns? Trainer.ownSelector).hasAddress ∨
    (∃ f, failures (.envelopes ns? Trainer.ownSelector) = some f) ∨
      failures (.envelopes ns? Trainer.ownSelector) = none ∧ ∃ j ∈ s.labelled ns?, ¬HasMetadata d j

/-- A request for pods is answered with them. -/
def GivesPods (ps : List Pod) : Prop :=
  (Request.pods ns? selector).hasAddress ∧ failures (.pods ns? selector) = none ∧
    List.Forall₂ (fun j p => d.pod? j = some p) (s.pods.filter (isSelected ns? selector)) ps

/-- A request for pods has no address, it fails, by whatever code, or it is answered with something
that is no pod. -/
def PodsFail : Prop :=
  ¬(Request.pods ns? selector).hasAddress ∨ (∃ f, failures (.pods ns? selector) = some f) ∨
    failures (.pods ns? selector) = none ∧
      ∃ j ∈ s.pods, isSelected ns? selector j ∧ d.pod? j = none

/-! ### Single requests -/

/-- A server that answers nothing is a cluster that cannot be reached. -/
theorem sourceWith_unanswered (s : Server) (d : Reader) :
    s.sourceWith (fun _ => some .unanswered) d = Source.unreachable := by
  have hinstalled : s.hasDefinition (fun _ => some .unanswered) = false := Bool.and_false _
  unfold sourceWith Source.unreachable
  rw [hinstalled]
  rfl

variable {s failures d ns name ns? selector}

theorem result_envelope (hname : name ≠ "") :
    ((s.sourceWith failures d).envelope ns name).result =
      if (Request.envelope ns name).hasAddress then
        match failures (.envelope ns name) with
        | some f => .error (if f = .refused 404 then .notFound ns name else f.error)
        | none =>
          match s.envelopes.find? (isNamed ns name) with
          | some j => readEnvelope d j
          | none => .error (.notFound ns name)
      else .error .badAddress := by
  change (s.lookupEnvelope failures d ns name).result = _
  unfold lookupEnvelope envelopeReply reply get
  rw [if_neg hname]
  unfold Lookup.send
  split
  · cases failures (.envelope ns name) with
    | some f => rfl
    | none => cases s.envelopes.find? (isNamed ns name) <;> rfl
  · rfl

theorem requests_envelope (hname : name ≠ "") :
    ((s.sourceWith failures d).envelope ns name).requests = (Request.envelope ns name).sent := by
  change (s.lookupEnvelope failures d ns name).requests = _
  unfold lookupEnvelope
  rw [if_neg hname, Lookup.requests_send]

theorem result_envelope_eq_ok_iff (hname : name ≠ "") {e : Envelope} :
    ((s.sourceWith failures d).envelope ns name).result = .ok e ↔
      s.GivesEnvelope failures d ns name e := by
  rw [result_envelope hname]
  unfold GivesEnvelope
  by_cases haddress : (Request.envelope ns name).hasAddress <;>
    cases hfailure : failures (.envelope ns name) <;>
      cases hfound : s.envelopes.find? (isNamed ns name) <;> simp [haddress]

theorem GivesEnvelope.unique {e e' : Envelope} (h : s.GivesEnvelope failures d ns name e)
    (h' : s.GivesEnvelope failures d ns name e') : e = e' := by
  obtain ⟨-, -, j, hj, he⟩ := h
  obtain ⟨-, -, j', hj', he'⟩ := h'
  obtain rfl := Option.some.inj (hj.symm.trans hj')
  exact Except.ok.inj (he.symm.trans he')

/-- The errors of the request for an envelope. -/
theorem error_of_envelope (hname : name ≠ "") {err : LookupError}
    (h : ((s.sourceWith failures d).envelope ns name).result = .error err) :
    s.Lacks failures ns name ∧ err = .notFound ns name ∨
      s.GivesUndecodable failures d ns name ∧ err = .decode ∨
        s.EnvelopeFails failures d ns name ∧ err.isService := by
  rw [result_envelope hname] at h
  by_cases haddress : (Request.envelope ns name).hasAddress
  · rw [if_pos haddress] at h
    cases hfailure : failures (.envelope ns name) with
    | some f =>
      rw [hfailure] at h
      obtain rfl := Except.error.inj h
      -- here alone a code matters: 404 says that there is no such envelope
      by_cases hf : f = .refused 404
      · exact .inl ⟨⟨haddress, .inl (hf ▸ hfailure)⟩, if_pos hf⟩
      · refine .inr (.inr ⟨.inr (.inl ⟨f, hfailure, hf⟩), ?_⟩)
        rw [if_neg hf]
        exact f.isService_error
    | none =>
      cases hfound : s.envelopes.find? (isNamed ns name) with
      | none =>
        rw [hfailure, hfound] at h
        exact .inl ⟨⟨haddress, .inr ⟨hfailure, hfound⟩⟩, (Except.error.inj h).symm⟩
      | some j =>
        rw [hfailure, hfound] at h
        rcases readEnvelope_eq_error_iff.1 h with ⟨hmeta, rfl⟩ | ⟨hmeta, hstatus, rfl⟩
        · exact .inr (.inr ⟨.inr (.inr ⟨hfailure, j, hfound, hmeta⟩), rfl⟩)
        · exact .inr (.inl ⟨⟨haddress, hfailure, j, hfound, hmeta, hstatus⟩, rfl⟩)
  · rw [if_neg haddress] at h
    obtain rfl := Except.error.inj h
    exact .inr (.inr ⟨.inl haddress, rfl⟩)

theorem Lacks.result (h : s.Lacks failures ns name) (hname : name ≠ "") :
    ((s.sourceWith failures d).envelope ns name).result = .error (.notFound ns name) := by
  rw [result_envelope hname, if_pos h.1]
  rcases h.2 with hfailure | ⟨hfailure, hfound⟩
  · rw [hfailure]
    rfl
  · rw [hfailure, hfound]

theorem GivesUndecodable.result (h : s.GivesUndecodable failures d ns name) (hname : name ≠ "") :
    ((s.sourceWith failures d).envelope ns name).result = .error .decode := by
  obtain ⟨haddress, hfailure, j, hfound, hmeta, hstatus⟩ := h
  rw [result_envelope hname, if_pos haddress, hfailure, hfound]
  exact readEnvelope_eq_error_iff.2 (.inr ⟨hmeta, hstatus, rfl⟩)

theorem EnvelopeFails.result (h : s.EnvelopeFails failures d ns name) (hname : name ≠ "") :
    ∃ err, ((s.sourceWith failures d).envelope ns name).result = .error err ∧ err.isService := by
  rw [result_envelope hname]
  split
  · rename_i haddress
    rcases h with h | ⟨f, hfailure, hf⟩ | ⟨hfailure, j, hfound, hmeta⟩
    · exact absurd haddress h
    · rw [hfailure]
      exact ⟨f.error, congrArg _ (if_neg hf), f.isService_error⟩
    · rw [hfailure, hfound]
      exact ⟨.service, readEnvelope_eq_error_iff.2 (.inl ⟨hmeta, rfl⟩), rfl⟩
  · exact ⟨.badAddress, rfl, rfl⟩

/-- The result of a request for a list, if it fails or is answered with records. -/
theorem result_send_reply (r : Request) (a : α) (read : α → Except LookupError β) :
    (Lookup.send r (answered (reply failures r (.ok a)) read)).result =
      if r.hasAddress then
        match failures r with
        | some f => .error f.error
        | none => read a
      else .error .badAddress := by
  unfold Lookup.send reply answered
  split
  · cases failures r <;> rfl
  · rfl

/-- The error of a request for a list is a failure, or comes from the records. -/
theorem error_of_send_reply {r : Request} {a : α} {read : α → Except LookupError β}
    {err : LookupError}
    (h : (Lookup.send r (answered (reply failures r (.ok a)) read)).result = .error err) :
    (¬r.hasAddress ∨ ∃ f, failures r = some f) ∧ err.isService ∨
      (r.hasAddress ∧ failures r = none) ∧ read a = .error err := by
  rw [result_send_reply] at h
  by_cases haddress : r.hasAddress
  · rw [if_pos haddress] at h
    cases hfailure : failures r with
    | some f =>
      rw [hfailure] at h
      obtain rfl := Except.error.inj h
      exact .inl ⟨.inr ⟨f, rfl⟩, f.isService_error⟩
    | none =>
      rw [hfailure] at h
      exact .inr ⟨⟨haddress, rfl⟩, h⟩
  · rw [if_neg haddress] at h
    obtain rfl := Except.error.inj h
    exact .inl ⟨.inl haddress, rfl⟩

/-- The server is asked for the envelopes of this kind. -/
theorem envelopes_eq (s : Server) (failures : Failures) (d : Reader) (ns? : Option String) :
    (s.sourceWith failures d).envelopes ns? Trainer.ownSelector =
      .send (.envelopes ns? Trainer.ownSelector) (answered
        (reply failures (.envelopes ns? Trainer.ownSelector) (.ok (s.labelled ns?)))
        (readEnvelopes d)) := by
  have hlabelled : s.envelopes.filter (isSelected ns? Trainer.ownSelector) = s.labelled ns? := by
    unfold labelled isSelected Selector.accepts
    rw [Selector.terms_own]
    simp [Selector.Term.holds]
  rw [← hlabelled]
  rfl

theorem requests_envelopes (s : Server) (failures : Failures) (d : Reader) (ns? : Option String) :
    ((s.sourceWith failures d).envelopes ns? Trainer.ownSelector).requests =
      (Request.envelopes ns? Trainer.ownSelector).sent :=
  Lookup.requests_send _ _

theorem result_envelopes_eq_ok_iff {es : List Envelope} :
    ((s.sourceWith failures d).envelopes ns? Trainer.ownSelector).result = .ok es ↔
      s.GivesEnvelopes failures d ns? es := by
  rw [envelopes_eq, result_send_reply, GivesEnvelopes, ← readEnvelopes_eq_ok_iff]
  by_cases haddress : (Request.envelopes ns? Trainer.ownSelector).hasAddress <;>
    cases failures (.envelopes ns? Trainer.ownSelector) <;> simp [haddress]

/-- The errors of the request for the envelopes of this kind. -/
theorem error_of_envelopes {err : LookupError}
    (h : ((s.sourceWith failures d).envelopes ns? Trainer.ownSelector).result = .error err) :
    s.GivesSomeUndecodable failures d ns? ∧ err = .decode ∨
      s.EnvelopesFail failures d ns? ∧ err.isService := by
  rw [envelopes_eq] at h
  rcases error_of_send_reply h with ⟨hfails, hservice⟩ | ⟨⟨haddress, hanswered⟩, hread⟩
  · exact .inr ⟨hfails.imp_right .inl, hservice⟩
  · rcases readEnvelopes_eq_error_iff.1 hread with ⟨hmeta, rfl⟩ | ⟨hmeta, hstatus, rfl⟩
    · exact .inr ⟨.inr (.inr ⟨hanswered, hmeta⟩), rfl⟩
    · exact .inl ⟨⟨haddress, hanswered, hmeta, hstatus⟩, rfl⟩

theorem GivesSomeUndecodable.result (h : s.GivesSomeUndecodable failures d ns?) :
    ((s.sourceWith failures d).envelopes ns? Trainer.ownSelector).result = .error .decode := by
  obtain ⟨haddress, hfailure, hmeta, hstatus⟩ := h
  rw [envelopes_eq, result_send_reply, if_pos haddress, hfailure]
  exact readEnvelopes_eq_error_iff.2 (.inr ⟨hmeta, hstatus, rfl⟩)

theorem EnvelopesFail.result (h : s.EnvelopesFail failures d ns?) :
    ∃ err, ((s.sourceWith failures d).envelopes ns? Trainer.ownSelector).result = .error err ∧
      err.isService := by
  rw [envelopes_eq, result_send_reply]
  split
  · rename_i haddress
    rcases h with h | ⟨f, hfailure⟩ | ⟨hfailure, hmeta⟩
    · exact absurd haddress h
    · rw [hfailure]
      exact ⟨f.error, rfl, f.isService_error⟩
    · rw [hfailure]
      exact ⟨.service, readEnvelopes_eq_error_iff.2 (.inl ⟨hmeta, rfl⟩), rfl⟩
  · exact ⟨.badAddress, rfl, rfl⟩

theorem pods_eq (s : Server) (failures : Failures) (d : Reader) (ns? : Option String)
    (selector : String) :
    (s.sourceWith failures d).pods ns? selector =
      .send (.pods ns? selector) (answered (reply failures (.pods ns? selector)
        (.ok (s.pods.filter (isSelected ns? selector)))) (readPods d)) := rfl

theorem requests_pods (s : Server) (failures : Failures) (d : Reader) (ns? : Option String)
    (selector : String) :
    ((s.sourceWith failures d).pods ns? selector).requests = (Request.pods ns? selector).sent :=
  Lookup.requests_send _ _

theorem result_pods_eq_ok_iff {ps : List Pod} :
    ((s.sourceWith failures d).pods ns? selector).result = .ok ps ↔
      s.GivesPods failures d ns? selector ps := by
  rw [pods_eq, result_send_reply, GivesPods, ← readPods_eq_ok_iff]
  by_cases haddress : (Request.pods ns? selector).hasAddress <;>
    cases failures (.pods ns? selector) <;> simp [haddress]

/-- The errors of a request for pods. -/
theorem error_of_pods {err : LookupError}
    (h : ((s.sourceWith failures d).pods ns? selector).result = .error err) :
    s.PodsFail failures d ns? selector ∧ err.isService := by
  rw [pods_eq] at h
  rcases error_of_send_reply h with ⟨hfails, hservice⟩ | ⟨⟨-, hanswered⟩, hread⟩
  · exact ⟨hfails.imp_right .inl, hservice⟩
  · obtain ⟨⟨j, hj, hpod⟩, rfl⟩ := readPods_eq_error_iff.1 hread
    obtain ⟨hj, hselected⟩ := List.mem_filter.1 hj
    exact ⟨.inr (.inr ⟨hanswered, j, hj, hselected, hpod⟩), rfl⟩

theorem PodsFail.result (h : s.PodsFail failures d ns? selector) :
    ∃ err, ((s.sourceWith failures d).pods ns? selector).result = .error err ∧ err.isService := by
  rw [pods_eq, result_send_reply]
  split
  · rename_i haddress
    rcases h with h | ⟨f, hfailure⟩ | ⟨hfailure, j, hj, hselected, hread⟩
    · exact absurd haddress h
    · rw [hfailure]
      exact ⟨f.error, rfl, f.isService_error⟩
    · rw [hfailure]
      have hj := List.mem_filter.2 ⟨hj, hselected⟩
      exact ⟨.service, readPods_eq_error_iff.2 ⟨⟨j, hj, hread⟩, rfl⟩, rfl⟩
  · exact ⟨.badAddress, rfl, rfl⟩

end requests

end Server

end WrappedTraining
