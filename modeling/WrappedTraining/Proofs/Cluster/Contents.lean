import WrappedTraining.Proofs.Cluster.Replies

/-!
# The contents of a server

A server chooses records by the texts in them, a snapshot chooses objects by their metadata. For
records that can be read, the choices are the same.

* `Server.Shows` : the texts of a record are those of the metadata;
* `Server.shows_of_readEnvelope`, `Server.shows_of_pod` : what is read in a record shows in it;
* `Server.Holds` : a server with the contents of a snapshot;
* `Server.Holds.labelled`, `Server.Holds.selected`, `Server.Holds.find` : what the server chooses
  is read as what the snapshot chooses.
-/

namespace WrappedTraining

namespace Server

/-! ### Texts in records -/

/-- The server finds the metadata in the texts of the record. -/
structure Shows (j : Json) (m : Metadata) : Prop where
  name : metadataText? j "name" = m.name?
  namespaceName : metadataText? j "namespace" = m.namespaceName?
  labels : labelsOf j = m.labels

variable {j v : Json} {m : Metadata}

theorem eq_of_object? {o : Json} (h : j.object? = some o) : o = j := by
  cases j with
  | obj fields => exact (Option.some.inj h).symm
  | _ => cases h

theorem text_of_nullable {k : String} {t? : Option String}
    (h : v.nullable? k Json.str? = some t?) : (v.field? k).bind Json.str? = t? := by
  unfold Json.nullable? at h
  split at h
  · rename_i hk
    rw [hk]
    exact Option.some.inj h
  · rename_i hk
    rw [hk]
    exact Option.some.inj h
  · rename_i w _ hk
    rw [hk]
    cases hw : w.str? <;> simp_all

/-- Where all values are texts, none is left out. -/
theorem filterMap_of_entries {fields : List (String × Json)} {es : List (String × String)}
    (h : Json.entries? Json.str? fields = some es) :
    (fields.filterMap fun f => f.2.str?.map fun t => (f.1, t)) = es := by
  induction fields generalizing es with
  | nil => exact Option.some.inj h
  | cons f fields ih =>
    unfold Json.entries? at h
    split at h
    · rename_i t ts hf hrest
      obtain rfl := Option.some.inj h
      rw [List.filterMap_cons, hf, ih hrest]
      rfl
    · cases h

theorem labels_of_nullable {d? : Option (Dict String)}
    (h : v.nullable? "labels" (Json.dict? Json.str?) = some d?) :
    (match v.field? "labels" with
    | some (.obj fields) =>
      Dict.ofList (fields.filterMap fun f => f.2.str?.map fun t => (f.1, t))
    | _ => .empty) = d?.getD .empty := by
  unfold Json.nullable? at h
  split at h
  · rename_i hk
    obtain rfl := Option.some.inj h
    rw [hk]
    rfl
  · rename_i hk
    obtain rfl := Option.some.inj h
    rw [hk]
    rfl
  · rename_i w _ hk
    obtain ⟨d, hd, rfl⟩ := Option.map_eq_some_iff.1 h
    rw [hk]
    cases w with
    | obj fields =>
      obtain ⟨es, hes, rfl⟩ := Option.map_eq_some_iff.1 hd
      exact congrArg Dict.ofList (filterMap_of_entries hes)
    | _ => cases hd

/-- Metadata that can be read show in their record. -/
theorem shows_of_metadata (hv : j.field? "metadata" = some v) (hm : Metadata.ofJson? v = some m) :
    Shows j m := by
  unfold Metadata.ofJson? at hm
  simp only [Option.bind_eq_bind, Option.bind_eq_some_iff] at hm
  obtain ⟨o, ho, name?, hname, namespaceName?, hns, uid?, -, labels?, hlabels, annotations?, -,
    created?, -, heq⟩ := hm
  obtain rfl := eq_of_object? ho
  obtain rfl := Option.some.inj heq
  constructor
  · unfold metadataText?
    rw [hv]
    exact text_of_nullable hname
  · unfold metadataText?
    rw [hv]
    exact text_of_nullable hns
  · unfold labelsOf
    rw [hv]
    exact labels_of_nullable hlabels

theorem shows_empty (h : j.field? "metadata" = none ∨ j.field? "metadata" = some .null) :
    Shows j .empty := by
  have hnone : ∀ k, (j.field? "metadata").bind (·.field? k) = none := by
    intro k
    rcases h with h | h <;> rw [h] <;> rfl
  constructor
  · unfold metadataText?
    rw [hnone]
    rfl
  · unfold metadataText?
    rw [hnone]
    rfl
  · unfold labelsOf
    rw [hnone]
    rfl

/-- The metadata of an envelope show in its record; the time of creation is no text among them. -/
theorem shows_of_readEnvelope {e : Envelope} (h : readEnvelope .standard j = .ok e) :
    Shows j e.metadata := by
  unfold readEnvelope Reader.standard at h
  split at h
  · cases h
  · rename_i m hm
    split at h
    · cases h
    · obtain rfl := Except.ok.inj h
      obtain ⟨o, ho, hmetadata⟩ := Option.bind_eq_some_iff.1 hm
      obtain rfl := eq_of_object? ho
      unfold Envelope.metadataOf? Json.fieldOr? at hmetadata
      have hshows : Shows o m := by
        split at hmetadata
        · rename_i hk
          obtain rfl := Option.some.inj hmetadata
          exact shows_empty (.inl hk)
        · rename_i v hk
          exact shows_of_metadata hk hmetadata
      exact ⟨hshows.name, hshows.namespaceName, hshows.labels⟩

theorem shows_of_pod {p : Pod} (h : Pod.ofJson? j = some p) : Shows j p.metadata := by
  unfold Pod.ofJson? at h
  simp only [Option.bind_eq_bind, Option.bind_eq_some_iff] at h
  obtain ⟨o, ho, h⟩ := h
  obtain rfl := eq_of_object? ho
  split at h
  · cases h
  · simp only [Option.bind_eq_some_iff] at h
    -- whatever else is read, the metadata come from their own field
    obtain ⟨metadata?, hm, _, -, _, -, _, -, _, -, _, -, _, -, _, -, _, -, heq⟩ := h
    obtain rfl := Option.some.inj heq
    unfold Json.nullable? at hm
    split at hm
    · rename_i hk
      obtain rfl := Option.some.inj hm
      exact shows_empty (.inl hk)
    · rename_i hk
      obtain rfl := Option.some.inj hm
      exact shows_empty (.inr hk)
    · rename_i v _ hk
      obtain ⟨m, hread, rfl⟩ := Option.map_eq_some_iff.1 hm
      exact shows_of_metadata hk hread

/-! ### What a server chooses -/

theorem Shows.isSelected (h : Shows j m) (ns? : Option String) (selector : String) :
    Server.isSelected ns? selector j = m.isSelected ns? selector := by
  unfold Server.isSelected Metadata.isSelected
  rw [h.namespaceName, h.labels]

/-- A record is looked up by its name and namespace as metadata are that have both. -/
theorem Shows.isNamed (h : Shows j m) {ns name : String} (hname : name ≠ "")
    (hns : m.namespaceName?.isSome) : Server.isNamed ns name j =
      (m.name?.getD "" = name && m.namespaceName?.getD "" = ns) := by
  unfold Server.isNamed
  rw [h.name, h.namespaceName, Bool.and_comm]
  obtain ⟨n, hn⟩ := Option.isSome_iff_exists.1 hns
  cases hname' : m.name? with
  | none => simp [hn, hname.symm]
  | some n' => simp [hn]

/-- The server holds the contents of the snapshot: every record of an envelope can be read, and the
pods are those of the records that can be read. -/
structure Holds (v : Server) (s : Snapshot) : Prop where
  envelopes : List.Forall₂ (fun j e => readEnvelope .standard j = .ok e) v.envelopes s.envelopes
  pods : s.pods = v.pods.filterMap Pod.ofJson?

variable {s : Server} {c : Snapshot} {name : String} {ns? : Option String}
  {selector : String}

/-- The selector for the envelopes of this kind asks for what makes a record one of them. -/
theorem isLabelled_eq {e : Envelope} (h : Shows j e.metadata) :
    ((ns?.isNone || metadataText? j "namespace" = ns?) &&
      (labelsOf j).get? Labels.app = some Submission.trainer) =
        e.metadata.isSelected ns? Trainer.ownSelector := by
  rw [Metadata.isSelected_own, h.namespaceName, h.labels]
  rfl

/-- The records of the envelopes of this kind are read as those envelopes. -/
theorem Holds.labelled (h : s.Holds c) (ns? : Option String) :
    List.Forall₂ (fun j e => readEnvelope .standard j = .ok e) (s.labelled ns?)
      (c.selectEnvelopes ns? Trainer.ownSelector) := by
  refine List.rel_filter (fun j e he => ?_) h.envelopes
  exact Bool.eq_iff_iff.1 (isLabelled_eq (shows_of_readEnvelope he))

/-- The records of chosen pods are read as those pods, if all of them can be read. -/
theorem Holds.selected (h : s.Holds c)
    (hread : ∀ j ∈ s.pods, Server.isSelected ns? selector j → Pod.ofJson? j ≠ none) :
    List.Forall₂ (fun j p => Pod.ofJson? j = some p)
      (s.pods.filter (Server.isSelected ns? selector)) (c.selectPods ns? selector) := by
  unfold Snapshot.selectPods
  rw [h.pods]
  exact Lists.forall₂_filterMap (fun j p hp => (shows_of_pod hp).isSelected ns? selector) hread

/-- The record of a looked-up envelope is read as that envelope. -/
theorem Holds.find (h : s.Holds c) (ns : String) (hname : name ≠ "")
    (hns : ∀ e ∈ c.envelopes, e.metadata.namespaceName?.isSome) :
    Option.Rel (fun j e => readEnvelope .standard j = .ok e)
      (s.envelopes.find? (Server.isNamed ns name)) (c.envelope? ns name) :=
  Lists.rel_find? h.envelopes fun _ e he hread =>
    (shows_of_readEnvelope hread).isNamed hname (hns e he)

end Server

end WrappedTraining
