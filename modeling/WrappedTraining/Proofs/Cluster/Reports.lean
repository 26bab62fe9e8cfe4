import WrappedTraining.Proofs.Cluster.Replies

/-!
# Failures in lookups

A lookup makes up to three requests, and any of them can fail. What the lookup answers then, and
which requests it makes, follows from what comes of each request.

* `Server.JobReport`, `Server.ListingReport` : a lookup of one job, and a listing, against what
  comes of their requests;
* `Envelope.IsLabelled` : the mark of the envelopes that lookups and listings are about;
* `Server.lookups_follow_replies` : every lookup is as reported, whatever the server holds, however
  its records are read and whichever requests fail;
* `Server.unreadable_metadata_is_service` : an envelope that cannot be read, where it is not said to
  be one.
-/

namespace WrappedTraining

/-- **The envelope is labelled as one of this kind**: its label `app` says so. -/
def Envelope.IsLabelled (e : Envelope) : Prop :=
  e.metadata.labels.get? "app" = some "appwrapperjob"

instance (e : Envelope) : Decidable e.IsLabelled := inferInstanceAs (Decidable (_ = _))

theorem Envelope.isOwned_iff {e : Envelope} : e.isOwned ↔ e.IsLabelled := decide_eq_true_iff

namespace Server

/-! ### Reports -/

/-- What the lookup of a job is, by what comes of the requests that it makes: one for the envelope,
one for the pods that the controller labelled and one for those with the older labels. -/
structure JobReport (s : Server) (failures : Failures) (d : Reader) (ns name : String)
    (x : Lookup Job) : Prop where
  /-- There is no such job if and only if the server lacks the envelope, or it is foreign. -/
  notFound : ∀ ns' name', x.result = .error (.notFound ns' name') ↔
    (ns' = ns ∧ name' = name) ∧ (s.Lacks failures ns name ∨
      ∃ e, s.GivesEnvelope failures d ns name e ∧ ¬e.IsLabelled)
  decode : x.result = .error .decode ↔ s.GivesUndecodable failures d ns name
  /-- Every other failure is one of the cluster. -/
  service : (∃ err, x.result = .error err ∧ err.isService) ↔
    s.EnvelopeFails failures d ns name ∨
      ∃ e, s.GivesEnvelope failures d ns name e ∧ e.IsLabelled ∧
        (s.PodsFail failures d (some ns) (Trainer.controllerSelector name) ∨
          s.GivesPods failures d (some ns) (Trainer.controllerSelector name) [] ∧
            s.PodsFail failures d (some ns) (Trainer.olderSelector name))
  found : ∀ g, x.result = .ok g ↔
    ∃ e, s.GivesEnvelope failures d ns name e ∧ e.IsLabelled ∧
      ∃ ps, (s.GivesPods failures d (some ns) (Trainer.controllerSelector name) ps ∧ ps ≠ [] ∨
        s.GivesPods failures d (some ns) (Trainer.controllerSelector name) [] ∧
          s.GivesPods failures d (some ns) (Trainer.olderSelector name) ps) ∧
        g = Job.ofCandidates e ps
  /-- Without an envelope of this kind, no pods are asked for. -/
  stops : (∀ e, s.GivesEnvelope failures d ns name e → ¬e.IsLabelled) →
    x.requests = (Request.envelope ns name).sent
  /-- Pods are asked for once, also if that fails, unless there are none. -/
  asksOnce : ∀ e, s.GivesEnvelope failures d ns name e → e.IsLabelled →
    ¬s.GivesPods failures d (some ns) (Trainer.controllerSelector name) [] →
      x.requests = [.envelope ns name, .pods (some ns) (Trainer.controllerSelector name)]
  asksAgain : ∀ e, s.GivesEnvelope failures d ns name e → e.IsLabelled →
    s.GivesPods failures d (some ns) (Trainer.controllerSelector name) [] →
      x.requests = [.envelope ns name, .pods (some ns) (Trainer.controllerSelector name),
        .pods (some ns) (Trainer.olderSelector name)]

/-- What a listing is, by what comes of its requests: one for the envelopes, one for the pods that
a controller labelled and one for those with the older labels. -/
structure ListingReport (s : Server) (failures : Failures) (d : Reader) (ns? : Option String)
    (y : Lookup (List Job)) : Prop where
  /-- A listing has a job for every envelope of this kind. -/
  whole : ∀ js, y.result = .ok js →
    List.Forall₂ (fun j g => readEnvelope d j = .ok g.envelope) (s.labelled ns?) js
  found : ∀ js, y.result = .ok js ↔
    ∃ es controlled older, s.GivesEnvelopes failures d ns? es ∧
      s.GivesPods failures d ns? Labels.envelopeName controlled ∧
      s.GivesPods failures d ns? Trainer.ownSelector older ∧
      js = es.map fun e => Job.ofCandidates e (Trainer.mergePods controlled older)
  decode : y.result = .error .decode ↔ s.GivesSomeUndecodable failures d ns?
  /-- One request that fails is a failure of the listing. -/
  service : (∃ err, y.result = .error err ∧ err.isService) ↔
    s.EnvelopesFail failures d ns? ∨
      (∃ es, s.GivesEnvelopes failures d ns? es) ∧ (s.PodsFail failures d ns? Labels.envelopeName ∨
        (∃ ps, s.GivesPods failures d ns? Labels.envelopeName ps) ∧
          s.PodsFail failures d ns? Trainer.ownSelector)
  /-- A listing knows no missing job. -/
  notFound : ∀ ns name, y.result ≠ .error (.notFound ns name)
  /-- Without the envelopes, no pods are asked for. -/
  stops : (¬∃ es, s.GivesEnvelopes failures d ns? es) →
    y.requests = (Request.envelopes ns? Trainer.ownSelector).sent
  asksOnce : ∀ es, s.GivesEnvelopes failures d ns? es →
    (¬∃ ps, s.GivesPods failures d ns? Labels.envelopeName ps) →
      y.requests = [.envelopes ns? Trainer.ownSelector, .pods ns? Labels.envelopeName]
  asksAgain : ∀ es ps, s.GivesEnvelopes failures d ns? es →
    s.GivesPods failures d ns? Labels.envelopeName ps →
      y.requests = [.envelopes ns? Trainer.ownSelector, .pods ns? Labels.envelopeName,
        .pods ns? Trainer.ownSelector]

variable {s : Server} {failures : Failures} {d : Reader} {ns name : String} {ns? : Option String}

theorem error_of_candidates {err : LookupError}
    (h : (Trainer.candidates (s.sourceWith failures d) ns name).result = .error err) :
    (s.PodsFail failures d (some ns) (Trainer.controllerSelector name) ∨
      s.GivesPods failures d (some ns) (Trainer.controllerSelector name) [] ∧
        s.PodsFail failures d (some ns) (Trainer.olderSelector name)) ∧ err.isService := by
  rcases Trainer.result_candidates_eq_error_iff.1 h with h | ⟨hnone, h⟩
  · exact (error_of_pods h).imp_left .inl
  · exact (error_of_pods h).imp_left fun hfail => .inr ⟨result_pods_eq_ok_iff.1 hnone, hfail⟩

theorem jobReport (s : Server) (failures : Failures) (d : Reader) (ns : String)
    (hname : name ≠ "") :
    s.JobReport failures d ns name (Trainer.job (s.sourceWith failures d) ns name) where
  notFound ns' name' := by
    simp only [Trainer.result_job_eq_error_iff, Envelope.isOwned_iff]
    constructor
    · rintro (h | ⟨e, he, ⟨-, h⟩ | ⟨hforeign, h⟩⟩)
      · rcases error_of_envelope hname h with ⟨hlacks, herr⟩ | ⟨-, herr⟩ | ⟨-, herr⟩
        · exact ⟨LookupError.notFound.inj herr, .inl hlacks⟩
        · cases herr
        · cases herr
      · cases (error_of_candidates h).2
      · exact ⟨LookupError.notFound.inj h,
          .inr ⟨e, (result_envelope_eq_ok_iff hname).1 he, hforeign⟩⟩
    · rintro ⟨⟨rfl, rfl⟩, hlacks | ⟨e, he, hforeign⟩⟩
      · exact .inl (hlacks.result hname)
      · exact .inr ⟨e, (result_envelope_eq_ok_iff hname).2 he, .inr ⟨hforeign, rfl⟩⟩
  decode := by
    rw [Trainer.result_job_eq_error_iff]
    constructor
    · rintro (h | ⟨e, -, ⟨-, h⟩ | ⟨-, h⟩⟩)
      · rcases error_of_envelope hname h with ⟨-, herr⟩ | ⟨hbody, -⟩ | ⟨-, herr⟩
        · cases herr
        · exact hbody
        · cases herr
      · cases (error_of_candidates h).2
      · cases h
    · exact fun hbody => .inl (hbody.result hname)
  service := by
    simp only [Trainer.result_job_eq_error_iff, Envelope.isOwned_iff]
    constructor
    · rintro ⟨err, h | ⟨e, he, ⟨howned, h⟩ | ⟨-, rfl⟩⟩, hservice⟩
      · rcases error_of_envelope hname h with ⟨-, rfl⟩ | ⟨-, rfl⟩ | ⟨hfails, -⟩
        · cases hservice
        · cases hservice
        · exact .inl hfails
      · exact .inr ⟨e, (result_envelope_eq_ok_iff hname).1 he, howned, (error_of_candidates h).1⟩
      · cases hservice
    · rintro (hfails | ⟨e, he, howned, hfails | ⟨hnone, hfails⟩⟩)
      · obtain ⟨err, herr, hservice⟩ := hfails.result hname
        exact ⟨err, .inl herr, hservice⟩
      · obtain ⟨err, herr, hservice⟩ := hfails.result
        have hpods := Trainer.result_candidates_eq_error_iff.2 (.inl herr)
        have he := (result_envelope_eq_ok_iff hname).2 he
        exact ⟨err, .inr ⟨e, he, .inl ⟨howned, hpods⟩⟩, hservice⟩
      · obtain ⟨err, herr, hservice⟩ := hfails.result
        have hpods := Trainer.result_candidates_eq_error_iff.2
          (.inr ⟨result_pods_eq_ok_iff.2 hnone, herr⟩)
        have he := (result_envelope_eq_ok_iff hname).2 he
        exact ⟨err, .inr ⟨e, he, .inl ⟨howned, hpods⟩⟩, hservice⟩
  found g := by
    simp only [Trainer.result_job_eq_ok_iff, Trainer.result_candidates_eq_ok_iff,
      result_envelope_eq_ok_iff hname, result_pods_eq_ok_iff, Envelope.isOwned_iff]
  stops h := by
    rw [Trainer.requests_job_of_not_owned, requests_envelope hname]
    exact fun e he howned =>
      h e ((result_envelope_eq_ok_iff hname).1 he) (Envelope.isOwned_iff.1 howned)
  asksOnce e he howned hpods := by
    have haddress := Request.hasAddress_pods (Request.allowsInPath_of_envelope he.1)
      (Trainer.controllerSelector name)
    have hsent := Request.sent_eq he.1
    rw [← result_envelope_eq_ok_iff hname] at he
    rw [← result_pods_eq_ok_iff] at hpods
    rw [Trainer.requests_job_of_owned he (Envelope.isOwned_iff.2 howned),
      Trainer.requests_candidates_of_ne_nil hpods,
      requests_envelope hname, requests_pods, hsent, Request.sent_eq haddress]
    rfl
  asksAgain e he howned hpods := by
    have haddress := Request.hasAddress_pods (Request.allowsInPath_of_envelope he.1)
      (Trainer.olderSelector name)
    have hsent := Request.sent_eq he.1
    have hsentPods := Request.sent_eq hpods.1
    rw [← result_envelope_eq_ok_iff hname] at he
    rw [← result_pods_eq_ok_iff] at hpods
    rw [Trainer.requests_job_of_owned he (Envelope.isOwned_iff.2 howned),
      Trainer.requests_candidates_of_nil hpods,
      requests_envelope hname, requests_pods, requests_pods, hsent, hsentPods,
      Request.sent_eq haddress]
    rfl

theorem listingReport (s : Server) (failures : Failures) (d : Reader) (ns? : Option String) :
    s.ListingReport failures d ns? (Trainer.jobs (s.sourceWith failures d) ns?) where
  whole js h := by
    obtain ⟨es, controlled, older, hes, -, -, rfl⟩ := Trainer.result_jobs_eq_ok_iff.1 h
    have hread := (result_envelopes_eq_ok_iff.1 hes).2.2
    exact List.forall₂_map_right_iff.2 hread
  found js := by
    simp only [Trainer.result_jobs_eq_ok_iff, result_envelopes_eq_ok_iff, result_pods_eq_ok_iff]
  decode := by
    rw [Trainer.result_jobs_eq_error_iff]
    constructor
    · rintro (h | ⟨-, h | ⟨-, h⟩⟩)
      · rcases error_of_envelopes h with ⟨hbody, -⟩ | ⟨-, hservice⟩
        · exact hbody
        · cases hservice
      · cases (error_of_pods h).2
      · cases (error_of_pods h).2
    · exact fun hbody => .inl hbody.result
  service := by
    simp only [Trainer.result_jobs_eq_error_iff, result_envelopes_eq_ok_iff, result_pods_eq_ok_iff]
    constructor
    · rintro ⟨err, h | ⟨hes, h | ⟨hps, h⟩⟩, hservice⟩
      · rcases error_of_envelopes h with ⟨-, rfl⟩ | ⟨hfails, -⟩
        · cases hservice
        · exact .inl hfails
      · exact .inr ⟨hes, .inl (error_of_pods h).1⟩
      · exact .inr ⟨hes, .inr ⟨hps, (error_of_pods h).1⟩⟩
    · rintro (hfails | ⟨hes, hfails | ⟨hps, hfails⟩⟩)
      · obtain ⟨err, herr, hservice⟩ := hfails.result
        exact ⟨err, .inl herr, hservice⟩
      · obtain ⟨err, herr, hservice⟩ := hfails.result
        exact ⟨err, .inr ⟨hes, .inl herr⟩, hservice⟩
      · obtain ⟨err, herr, hservice⟩ := hfails.result
        exact ⟨err, .inr ⟨hes, .inr ⟨hps, herr⟩⟩, hservice⟩
  notFound ns name h := by
    rcases Trainer.result_jobs_eq_error_iff.1 h with h | ⟨-, h | ⟨-, h⟩⟩
    · rcases error_of_envelopes h with ⟨-, herr⟩ | ⟨-, hservice⟩
      · cases herr
      · cases hservice
    · cases (error_of_pods h).2
    · cases (error_of_pods h).2
  stops h := by
    cases hresult : ((s.sourceWith failures d).envelopes ns? Trainer.ownSelector).result with
    | ok es => exact absurd ⟨es, result_envelopes_eq_ok_iff.1 hresult⟩ h
    | error err => rw [Trainer.requests_jobs_of_error hresult, requests_envelopes]
  asksOnce es hes h := by
    have haddress := Request.hasAddress_pods (Request.hasAddress_envelopes_iff.1 hes.1)
      Labels.envelopeName
    have hsent := Request.sent_eq hes.1
    rw [← result_envelopes_eq_ok_iff] at hes
    cases hresult : ((s.sourceWith failures d).pods ns? Labels.envelopeName).result with
    | ok ps => exact absurd ⟨ps, result_pods_eq_ok_iff.1 hresult⟩ h
    | error err =>
      rw [Trainer.requests_jobs_of_pods_error hes hresult, requests_envelopes, requests_pods, hsent,
        Request.sent_eq haddress]
      rfl
  asksAgain es ps hes hps := by
    have haddress := Request.hasAddress_pods (Request.hasAddress_envelopes_iff.1 hes.1)
      Trainer.ownSelector
    have hsent := Request.sent_eq hes.1
    have hsentPods := Request.sent_eq hps.1
    rw [← result_envelopes_eq_ok_iff] at hes
    rw [← result_pods_eq_ok_iff] at hps
    rw [Trainer.requests_jobs_of_pods hes hps, requests_envelopes, requests_pods, requests_pods,
      hsent, hsentPods, Request.sent_eq haddress]
    rfl

/-- **Failures in lookups.** Whatever a server holds, however its records are read and whichever
requests to it fail, the lookup of a job with a name, and every listing, are as reported. -/
theorem lookups_follow_replies (s : Server) (failures : Failures) (d : Reader) :
    (∀ ns name, name ≠ "" →
      s.JobReport failures d ns name (Trainer.job (s.sourceWith failures d) ns name)) ∧
    ∀ ns?, s.ListingReport failures d ns? (Trainer.jobs (s.sourceWith failures d) ns?) :=
  ⟨fun ns _ hname => jobReport s failures d ns hname, listingReport s failures d⟩

/-- The record of an envelope that is running, with a label `app`. -/
def appRecord (ns name app : String) : Json :=
  .obj [("metadata", .obj [("name", .str name), ("namespace", .str ns),
      ("labels", .obj [("app", .str app)])]),
    ("status", .obj [("phase", .str "Running")])]

/-- The record of an envelope of this kind that is running. -/
def envelopeRecord (ns name : String) : Json := appRecord ns name "appwrapperjob"

/-- A server with the envelope `demo` in the namespace `ml`, a foreign one and no pods. -/
def sampleServer : Server where
  envelopes := [envelopeRecord "ml" "demo", appRecord "ml" "board" "tensorboard"]
  pods := []
  services := []
  installed := true
  faults := .empty

/-- The request for the pods of `demo` with the older labels is refused as if they were missing. -/
def missingOlder : Failures := fun r =>
  if r = .pods (some "ml") (Trainer.olderSelector "demo") then some (.refused 404) else none

/-- The foreign envelope is not found, and no pods are asked for; it is not listed either. -/
theorem lookups_follow_replies_missing_older :
    let src := sampleServer.sourceWith missingOlder .standard
    ((Trainer.job src "ml" "demo").requests =
      [.envelope "ml" "demo", .pods (some "ml") (Trainer.controllerSelector "demo"),
        .pods (some "ml") (Trainer.olderSelector "demo")] ∧
      ∃ err, (Trainer.job src "ml" "demo").result = .error err ∧ err.isService) ∧
    ((Trainer.job src "ml" "board").requests = [.envelope "ml" "board"] ∧
      (Trainer.job src "ml" "board").result = .error (.notFound "ml" "board")) ∧
    (Trainer.jobs src (some "ml")).result = .ok [⟨Trainer.sampleEnvelope "demo", []⟩] := by
  intro src
  obtain ⟨hjob, hjobs⟩ := lookups_follow_replies sampleServer missingOlder .standard
  have hdemo := hjob "ml" "demo" (by decide)
  have hboard := hjob "ml" "board" (by decide)
  replace hjobs := hjobs (some "ml")
  have henvelope : sampleServer.GivesEnvelope missingOlder .standard "ml" "demo"
      (Trainer.sampleEnvelope "demo") := ⟨by decide, by decide, _, rfl, rfl⟩
  have hnone : sampleServer.GivesPods missingOlder .standard (some "ml")
      (Trainer.controllerSelector "demo") [] := ⟨by decide, by decide, .nil⟩
  have hfails : sampleServer.PodsFail missingOlder .standard (some "ml")
      (Trainer.olderSelector "demo") := .inr (.inl ⟨.refused 404, by decide⟩)
  obtain ⟨e, hgiven, hforeign⟩ : ∃ e,
      sampleServer.GivesEnvelope missingOlder .standard "ml" "board" e ∧ ¬e.IsLabelled :=
    ⟨_, ⟨by decide, by decide, _, rfl, rfl⟩, by decide⟩
  refine ⟨⟨hdemo.asksAgain _ henvelope rfl hnone, hdemo.service.2 ?_⟩,
    ⟨hboard.stops fun e' he' => he'.unique hgiven ▸ hforeign,
      (hboard.notFound "ml" "board").2 ⟨⟨rfl, rfl⟩, .inr ⟨e, hgiven, hforeign⟩⟩⟩,
    (hjobs.found _).2 ?_⟩
  · exact .inr ⟨_, henvelope, rfl, .inr ⟨hnone, hfails⟩⟩
  · exact ⟨[Trainer.sampleEnvelope "demo"], [], [], ⟨by decide, by decide, .cons rfl .nil⟩,
      ⟨by decide, by decide, .nil⟩, ⟨by decide, by decide, .nil⟩, rfl⟩

/-- An envelope whose metadata cannot be read, for there is a number among its annotations. -/
def unreadableRecord : Json :=
  .obj [("metadata", .obj [("name", .str "demo"), ("namespace", .str "ml"),
      ("labels", .obj [("app", .str "appwrapperjob")]),
      ("annotations", .obj [("note", .int 5)])]),
    ("status", .obj [("phase", .str "Running")])]

/-- An envelope that cannot be read is a failure of the cluster, if its metadata are at fault. -/
theorem unreadable_metadata_is_service :
    let s := { sampleServer with envelopes := [unreadableRecord] }
    let src := s.sourceWith (fun _ => none) .standard
    Envelope.ofJson? unreadableRecord = none ∧
      s.envelopeReply (fun _ => none) "ml" "demo" = .ok unreadableRecord ∧
      (Trainer.job src "ml" "demo").result = .error .service ∧
      (Trainer.jobs src (some "ml")).result = .error .service := by
  intro s src
  exact ⟨by decide, rfl, rfl, rfl⟩

end Server

end WrappedTraining
