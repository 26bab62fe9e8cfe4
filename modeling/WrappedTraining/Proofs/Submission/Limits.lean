import WrappedTraining.Proofs.Submission.Deadlines

/-!
# Limits that are set and limits that are deferred

Deadline and time to live reach a submission in two ways: they are set in its run policy, or they
wait among the deferred options until the policy is taken over. No stage before that looks at the
policy, so that both ways come to the same.

* `Submission.fragments_withLimits` : the parts of a submission are completed before and after a
  change of the limits alike;
* `Builder.finish_withLimits` : a builder whose submission has the limits and one that defers them
  finish alike.
-/

namespace WrappedTraining

namespace Submission

variable (d : Int64) (t : Int32)

/-! ### Stages that do not look at the limits -/

theorem addDataSets_withLimits (bag : Bag) :
    Outcome.Commutes (withLimits d t) (addDataSets bag) := fun _ => rfl

theorem addOptions_withLimits (bag : Bag) :
    Outcome.Commutes (withLimits d t) (addOptions bag) := by
  have hcheck : Outcome.Commutes (withLimits d t) fun s => .check s s.job.nameFault? := fun _ => rfl
  have hentries : Outcome.Commutes (withLimits d t) (mapJob (·.addEntries bag)) := fun _ => rfl
  have htols : Outcome.Commutes (withLimits d t) (addTolerations bag) := fun _ => rfl
  have hdirs : Outcome.Commutes (withLimits d t) (addDataDirs bag) := fun _ => rfl
  have hsecrets : Outcome.Commutes (withLimits d t) (mapJob (·.addSecrets bag)) := fun _ => rfl
  have hfiles : Outcome.Commutes (withLimits d t) (addConfigFiles bag) := fun _ => rfl
  exact ((((hcheck.andThen hentries).andThen htols).andThen hdirs).andThen hsecrets).andThen hfiles

theorem apart_withLimits : Apart (withLimits d t) where
  name _ := rfl
  sync _ := rfl
  dashboard _ := rfl
  setSync _ _ := rfl
  setDashboard _ _ := rfl

theorem fragments_withLimits (bag : Bag) :
    Outcome.Commutes (withLimits d t) (fragments bag) := by
  have hderive : Outcome.Commutes (withLimits d t) (mapJob (·.deriveNames.deriveWorkers)) :=
    fun _ => rfl
  intro s
  rw [fragments_eq, fragments_eq]
  exact (addOptions_withLimits d t bag).andThen
    (hderive.andThen ((apart_withLimits d t).services bag)) s

theorem syncReplicas_withLimits (s : Submission) :
    (s.withLimits d t).syncReplicas = s.syncReplicas.withLimits d t := by
  have hvolcano : (s.withLimits d t).isVolcano = s.isVolcano := rfl
  unfold syncReplicas
  rw [hvolcano]
  split <;> rfl

/-! ### The run policy -/

variable {d t} {bag : Bag}

/-- Without deferred limits those of the submission stay. -/
theorem reconcile_withLimits (hdeadline : bag.span? "running-timeout" = none)
    (httl : bag.span? "ttl-after-finished" = none) (s : Submission) :
    (s.withLimits d t).reconcile bag = s.syncReplicas.withLimits d t := by
  have hd : (s.withLimits d t).deadline bag = d := by
    unfold deadline
    rw [hdeadline]
    rfl
  have ht : (s.withLimits d t).ttl bag = t := by
    unfold ttl
    rw [httl]
    rfl
  rw [reconcile_eq, hd, ht, syncReplicas_withLimits]
  rfl

/-- Deferred limits replace those of the submission. -/
theorem reconcile_of_span? {x y : Span} (hdeadline : bag.span? "running-timeout" = some x)
    (httl : bag.span? "ttl-after-finished" = some y) (s : Submission) :
    s.reconcile bag = s.syncReplicas.withLimits (deadlineOf x) (ttlOf y) := by
  rw [reconcile_eq, deadline_eq_of_span? hdeadline, ttl_eq_of_span? httl]

/-! ### Whole seconds -/

theorem seconds_ofSeconds (n : Int) : (Span.ofSeconds n).seconds = n := by
  unfold Span.seconds Span.ofSeconds
  exact Int.mul_tdiv_cancel n (by decide)

/-- A number of seconds in 64 bits is taken over as it is. -/
theorem deadlineOf_ofSeconds (n : Int64) : deadlineOf (.ofSeconds n.toInt) = n := by
  have hlo := n.le_toInt
  have hhi := n.toInt_lt
  unfold deadlineOf
  rw [seconds_ofSeconds, Int.min_eq_right (by omega), Int.max_eq_right (by omega),
    Int64.ofInt_toInt]

/-- A number of seconds in 32 bits is taken over as it is. -/
theorem ttlOf_ofSeconds (n : Int32) : ttlOf (.ofSeconds n.toInt) = n := by
  have hlo := n.le_toInt
  have hhi := n.toInt_lt
  unfold ttlOf
  rw [seconds_ofSeconds, if_pos ⟨by omega, by omega⟩, Int32.ofInt_toInt]

end Submission

/-- A change between two steps can be left out if the second one does not look at it. -/
theorem map_bind_congr {ε α β : Type} {f : α → α} {k k' : α → Except ε β}
    (h : ∀ x, k (f x) = k' x) (r : Except ε α) : (r.map f >>= k) = (r >>= k') := by
  cases r with
  | error e => rfl
  | ok x => exact h x

namespace Builder

variable {a b : Bag} {x y : Span} {d : Int64} {t : Int32}

/-- Builds come to the same if the parts of the submission are completed alike up to a change that
reconciling undoes. -/
theorem result_congr {s s' : Submission} {f : Submission → Submission}
    (hfragments : (s'.fragments a).result = (s.fragments b).result.map f)
    (hreconcile : ∀ u : Submission, (f u).reconcile a = u.reconcile b) :
    result ⟨s', a⟩ = result ⟨s, b⟩ := by
  unfold result
  rw [Submission.result_build, Submission.result_build, hfragments]
  refine map_bind_congr (fun u => ?_) _
  rw [hreconcile u]

theorem result_withLimits (h : a.Alike b) (hdeadline : a.span? "running-timeout" = none)
    (httl : a.span? "ttl-after-finished" = none) (hx : b.span? "running-timeout" = some x)
    (hy : b.span? "ttl-after-finished" = some y) (hd : Submission.deadlineOf x = d)
    (ht : Submission.ttlOf y = t) (s : Submission) :
    result ⟨s.withLimits d t, a⟩ = result ⟨s, b⟩ := by
  have hfragments : ((s.withLimits d t).fragments a).result =
      (s.fragments b).result.map (Submission.withLimits d t) := by
    rw [Submission.fragments_congr h, Submission.fragments_withLimits, Outcome.result_map]
  refine result_congr hfragments fun u => ?_
  rw [Submission.reconcile_withLimits hdeadline httl, Submission.reconcile_of_span? hx hy, hd, ht]

/-- **Limits that are set and limits that are deferred come to the same**, with deferred options
that come to the same otherwise: both builders finish with the same submission or with the same
error. -/
theorem finish_withLimits (h : a.Alike b) (hdeadline : a.span? "running-timeout" = none)
    (httl : a.span? "ttl-after-finished" = none) (hx : b.span? "running-timeout" = some x)
    (hy : b.span? "ttl-after-finished" = some y) (hd : Submission.deadlineOf x = d)
    (ht : Submission.ttlOf y = t) (s : Submission) :
    finish ⟨s.withLimits d t, a⟩ = finish ⟨s, b⟩ := by
  have hdatasets : (Submission.addDataSets a (s.withLimits d t)).result =
      (s.addDataSets b).result.map (Submission.withLimits d t) := by
    rw [Submission.addDataSets_congr h, Submission.addDataSets_withLimits, Outcome.result_map]
  rw [finish_eq, finish_eq, hdatasets]
  refine map_bind_congr (fun u => ?_) _
  -- publishing the data sets hides no limit
  have hspan : ∀ (c : Bag) (k : String), k ≠ Bag.dataSetMounts →
      (c.insert Bag.dataSetMounts (.dict u.job.dataSets)).span? k = c.span? k :=
    fun c _ hk => Bag.span?_insert_of_ne hk c _
  exact result_withLimits (h.insert _ _) ((hspan a _ (by decide)).trans hdeadline)
    ((hspan a _ (by decide)).trans httl) ((hspan b _ (by decide)).trans hx)
    ((hspan b _ (by decide)).trans hy) hd ht u

end Builder

end WrappedTraining
