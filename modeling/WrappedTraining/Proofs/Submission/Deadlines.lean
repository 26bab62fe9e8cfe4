import WrappedTraining.Proofs.Submission.Alike
import WrappedTraining.Proofs.Submission.History

/-!
# Negative deadlines and times to live

A deferred length of time is cut to whole seconds before its sign is checked, and a time to live is
also brought to 32 bits. Both steps can lose the sign.

* `Submission.fault?_eq_none_iff` : deadline and time to live are checked on their own;
* `Builder.succeeds_iff` : a builder succeeds when the submission without limits passes its checks
  and neither limit is negative;
* `Builder.succeeds_with_limit_iff` : which lengths of time are accepted;
* `Builder.succeeds_below_zero` : some of them are negative.
-/

namespace WrappedTraining

namespace Bag

variable {a b : Bag}

/-! ### Bags that differ in lengths of time -/

/-- The bags hold the same options but for lengths of time. -/
structure Agrees (a b : Bag) : Prop where
  texts : ∀ k, a.texts k = b.texts k
  dict? : ∀ k, a.dict? k = b.dict? k

theorem get?_of_span? {k : String} {d : Span} (h : b.span? k = some d) :
    b.options.get? k = some (.span d) := by
  unfold span? at h
  split at h
  · rename_i hget
    rw [hget, Option.some.inj h]
  · cases h

/-- Another length of time in the place of one changes nothing else. -/
theorem agrees_insert_span {k : String} {d : Span} (h : b.span? k = some d) (e : Span) :
    b.Agrees (b.insert k (.span e)) := by
  have hget := get?_of_span? h
  constructor <;> intro j <;> by_cases hj : j = k
  · subst hj
    simp [texts, insert, hget]
  · simp [texts, insert, hj]
  · subst hj
    simp [dict?, insert, hget]
  · simp [dict?, insert, hj]

theorem Agrees.alike (h : a.Agrees b) : a.Alike b :=
  ⟨fun k _ => congrArg (pairsOf '=') (h.texts k), fun k _ => h.texts k, h.dict?⟩

theorem texts_insert_of_ne {j k : String} (h : j ≠ k) (b : Bag) (v : OptionValue) :
    (b.insert k v).texts j = b.texts j := by
  simp [texts, insert, h]

theorem span?_insert_of_ne {j k : String} (h : j ≠ k) (b : Bag) (v : OptionValue) :
    (b.insert k v).span? j = b.span? j := by
  simp [span?, insert, h]

end Bag

namespace Submission

/-! ### Limits are checked on their own -/

/-- The submission with other limits in its run policy. -/
def withLimits (deadline : Int64) (ttl : Int32) (s : Submission) : Submission :=
  { s with policy := { s.policy with
    activeDeadlineSeconds := deadline
    ttlSecondsAfterFinished := ttl } }

/-- The deadline that a submission takes from the deferred options, or keeps. -/
def deadline (bag : Bag) (s : Submission) : Int64 :=
  ((bag.span? "running-timeout").map deadlineOf).getD s.policy.activeDeadlineSeconds

/-- The time to live that a submission takes from the deferred options, or keeps. -/
def ttl (bag : Bag) (s : Submission) : Int32 :=
  ((bag.span? "ttl-after-finished").map ttlOf).getD s.policy.ttlSecondsAfterFinished

theorem deadline_eq_of_span? {bag : Bag} {d : Span} (h : bag.span? "running-timeout" = some d)
    (s : Submission) : s.deadline bag = deadlineOf d := by
  unfold deadline
  rw [h]
  rfl

theorem deadline_insert_of_ne {k : String} (h : "running-timeout" ≠ k) (bag : Bag)
    (v : OptionValue) (s : Submission) : s.deadline (bag.insert k v) = s.deadline bag := by
  unfold deadline
  rw [Bag.span?_insert_of_ne h]

theorem ttl_eq_of_span? {bag : Bag} {d : Span} (h : bag.span? "ttl-after-finished" = some d)
    (s : Submission) : s.ttl bag = ttlOf d := by
  unfold ttl
  rw [h]
  rfl

theorem ttl_insert_of_ne {k : String} (h : "ttl-after-finished" ≠ k) (bag : Bag)
    (v : OptionValue) (s : Submission) : s.ttl (bag.insert k v) = s.ttl bag := by
  unfold ttl
  rw [Bag.span?_insert_of_ne h]

theorem reconcile_eq (bag : Bag) (s : Submission) :
    s.reconcile bag = s.syncReplicas.withLimits (s.deadline bag) (s.ttl bag) := by
  have hpolicy : s.syncReplicas.policy = s.policy :=
    s.syncReplicas_keeps Submission.policy fun _ _ => rfl
  unfold deadline ttl
  rw [← hpolicy]
  rfl

theorem deadlineFault?_eq_none_iff {s : Submission} :
    s.deadlineFault? = none ↔ 0 ≤ s.policy.activeDeadlineSeconds := by
  unfold deadlineFault?
  split
  · rename_i h
    simpa using h
  · rename_i h
    simpa using h

theorem ttlFault?_eq_none_iff {s : Submission} :
    s.ttlFault? = none ↔ 0 ≤ s.policy.ttlSecondsAfterFinished := by
  unfold ttlFault?
  split
  · rename_i h
    simpa using h
  · rename_i h
    simpa using h

theorem fault?_eq_none_iff_checks (s : Submission) :
    s.fault? = none ↔ (∀ c ∈ s.checks.take 6, c = none) ∧ s.deadlineFault? = none ∧
      s.ttlFault? = none ∧ ∀ c ∈ s.checks.drop 8, c = none := by
  -- six checks stand before those of the limits
  have hchecks : s.checks =
      s.checks.take 6 ++ s.deadlineFault? :: s.ttlFault? :: s.checks.drop 8 := rfl
  unfold fault?
  rw [List.findSome?_eq_none_iff, hchecks]
  simp only [List.forall_mem_append, List.forall_mem_cons, id]
  rfl

/-- **Limits are checked on their own**: no other check looks at them. -/
theorem fault?_eq_none_iff (s : Submission) :
    s.fault? = none ↔ 0 ≤ s.policy.activeDeadlineSeconds ∧ 0 ≤ s.policy.ttlSecondsAfterFinished ∧
      (s.withLimits 0 0).fault? = none := by
  have htake : (s.withLimits 0 0).checks.take 6 = s.checks.take 6 := rfl
  have hdrop : (s.withLimits 0 0).checks.drop 8 = s.checks.drop 8 := rfl
  rw [fault?_eq_none_iff_checks, fault?_eq_none_iff_checks (s.withLimits 0 0), htake, hdrop,
    ← deadlineFault?_eq_none_iff, ← ttlFault?_eq_none_iff]
  constructor
  · rintro ⟨hbefore, hdeadline, httl, hafter⟩
    exact ⟨hdeadline, httl, hbefore, rfl, rfl, hafter⟩
  · rintro ⟨hdeadline, httl, hbefore, -, -, hafter⟩
    exact ⟨hbefore, hdeadline, httl, hafter⟩

/-! ### The sign of a limit -/

/-- Whole seconds are taken from the length without its sign. -/
theorem seconds_eq (d : Span) :
    d.seconds = if 0 ≤ d.nanos then d.nanos / 1000000000 else -(-d.nanos / 1000000000) := by
  change d.nanos.tdiv 1000000000 = _
  split
  · rename_i h
    exact Int.tdiv_eq_ediv_of_nonneg h
  · rename_i h
    rw [← Int.tdiv_eq_ediv_of_nonneg (by omega), Int.neg_tdiv, Int.neg_neg]

theorem seconds_nonneg_iff (d : Span) : 0 ≤ d.seconds ↔ -1000000000 < d.nanos := by
  rw [seconds_eq]
  omega

theorem seconds_lt_iff (d : Span) :
    d.seconds < -0x80000000 ↔ d.nanos ≤ -2147483649000000000 := by
  rw [seconds_eq]
  omega

/-- A deadline keeps its sign but for the part of a second before zero. -/
theorem deadlineOf_nonneg_iff (d : Span) : 0 ≤ deadlineOf d ↔ -1000000000 < d.nanos := by
  rw [← seconds_nonneg_iff, Int64.le_iff_toInt_le]
  unfold deadlineOf
  rw [Int64.toInt_ofInt_of_le (by omega) (by omega), Int64.toInt_zero]
  omega

/-- A time to live that is too far below zero for 32 bits becomes the largest number. -/
theorem ttlOf_nonneg_iff (d : Span) :
    0 ≤ ttlOf d ↔ -1000000000 < d.nanos ∨ d.nanos ≤ -2147483649000000000 := by
  rw [← seconds_nonneg_iff, ← seconds_lt_iff, Int32.le_iff_toInt_le, Int32.toInt_zero]
  unfold ttlOf
  split
  · rename_i h
    rw [Int32.toInt_ofInt_of_le (by omega) (by omega)]
    omega
  · rename_i h
    have hmax : (0x7FFFFFFF : Int32).toInt = 2147483647 := rfl
    rw [hmax]
    omega

end Submission

namespace Builder

variable {b : Builder}

/-! ### Builders that succeed -/

/-- Taking over the data sets and building succeeds. -/
def Succeeds (b : Builder) : Prop := ∃ r, b.finish = .ok r

instance (b : Builder) : Decidable b.Succeeds :=
  match h : b.finish with
  | .ok r => isTrue ⟨r, h⟩
  | .error _ => isFalse fun ⟨r, hr⟩ => by rw [h] at hr; cases hr

/-- What a builder completes before it looks at the run policy. -/
def assemble (b : Builder) : Except Submission.Error Submission :=
  (b.submission.addDataSets b.bag).result >>= fun s =>
    (s.fragments (b.bag.insert Bag.dataSetMounts (.dict s.job.dataSets))).result

theorem assemble_congr {s : Submission} {bag bag' : Bag} (h : bag.Agrees bag') :
    assemble ⟨s, bag⟩ = assemble ⟨s, bag'⟩ := by
  unfold assemble
  rw [Submission.addDataSets_congr h.alike]
  congr 1
  funext t
  rw [Submission.fragments_congr (h.alike.insert _ _)]

/-- **When a builder succeeds**: the parts are completed on their own, neither limit is negative,
and the checks find no other fault. -/
theorem succeeds_iff (b : Builder) :
    b.Succeeds ↔ ∃ t, b.assemble = .ok t ∧ 0 ≤ t.deadline b.bag ∧ 0 ≤ t.ttl b.bag ∧
      (t.syncReplicas.withLimits 0 0).fault? = none := by
  have hfault : ∀ (t : Submission) (d : Dict String),
      (t.reconcile (b.bag.insert Bag.dataSetMounts (.dict d))).fault? = none ↔
        0 ≤ t.deadline b.bag ∧ 0 ≤ t.ttl b.bag ∧
          (t.syncReplicas.withLimits 0 0).fault? = none := by
    intro t d
    rw [Submission.reconcile_eq, Submission.fault?_eq_none_iff,
      Submission.deadline_insert_of_ne (by decide), Submission.ttl_insert_of_ne (by decide)]
    rfl
  unfold Succeeds assemble
  constructor
  · rintro ⟨r, hr⟩
    obtain ⟨s, hs, hbuild⟩ := finish_eq_ok_iff.1 hr
    obtain ⟨t, ht, hnone, -⟩ := Submission.result_build_eq_ok_iff.1 hbuild
    have hlimits := (hfault t s.job.dataSets).1 hnone
    rw [hs]
    exact ⟨t, ht, hlimits⟩
  · rintro ⟨t, ht, hlimits⟩
    cases hs : (b.submission.addDataSets b.bag).result with
    | error e =>
      rw [hs] at ht
      cases ht
    | ok s =>
      rw [hs] at ht
      have hbuild : result ⟨s, b.bag.insert Bag.dataSetMounts (.dict s.job.dataSets)⟩ = .ok _ :=
        Submission.result_build_eq_ok_iff.2 ⟨t, ht, (hfault t _).2 hlimits, rfl⟩
      exact ⟨_, finish_eq_ok_iff.2 ⟨s, hs, hbuild⟩⟩

/-! ### Lengths of time below zero -/

/-- Whether a builder succeeds with another length of time depends on the limits alone. -/
theorem succeeds_add_span_iff {k : String} {d : Span} (hd : b.bag.span? k = some d) (e : Span) :
    (b.add k (.span e)).Succeeds ↔ ∃ t, b.assemble = .ok t ∧
      0 ≤ t.deadline (b.bag.insert k (.span e)) ∧ 0 ≤ t.ttl (b.bag.insert k (.span e)) ∧
      (t.syncReplicas.withLimits 0 0).fault? = none := by
  have hassemble : (b.add k (.span e)).assemble = b.assemble :=
    (assemble_congr (Bag.agrees_insert_span hd e)).symm
  rw [succeeds_iff, hassemble]
  rfl

theorem succeeds_iff_of_timeout {d : Span} (hd : b.bag.span? "running-timeout" = some d) :
    b.Succeeds ↔ 0 ≤ Submission.deadlineOf d ∧
      (b.add "running-timeout" (.span .zero)).Succeeds := by
  have hzero : (b.bag.insert "running-timeout" (.span .zero)).span? "running-timeout" =
      some .zero := by
    rw [Bag.span?_insert_span, if_pos rfl]
  have hne : "ttl-after-finished" ≠ "running-timeout" := by decide
  rw [succeeds_iff, succeeds_add_span_iff hd]
  simp only [Submission.deadline_eq_of_span? hd, Submission.deadline_eq_of_span? hzero,
    Submission.ttl_insert_of_ne hne]
  constructor
  · rintro ⟨t, ht, hsign, hrest⟩
    exact ⟨hsign, t, ht, by decide, hrest⟩
  · rintro ⟨hsign, t, ht, -, hrest⟩
    exact ⟨t, ht, hsign, hrest⟩

theorem succeeds_iff_of_ttl {d : Span} (hd : b.bag.span? "ttl-after-finished" = some d) :
    b.Succeeds ↔ 0 ≤ Submission.ttlOf d ∧
      (b.add "ttl-after-finished" (.span .zero)).Succeeds := by
  have hzero : (b.bag.insert "ttl-after-finished" (.span .zero)).span? "ttl-after-finished" =
      some .zero := by
    rw [Bag.span?_insert_span, if_pos rfl]
  have hne : "running-timeout" ≠ "ttl-after-finished" := by decide
  rw [succeeds_iff, succeeds_add_span_iff hd]
  simp only [Submission.ttl_eq_of_span? hd, Submission.ttl_eq_of_span? hzero,
    Submission.deadline_insert_of_ne hne]
  constructor
  · rintro ⟨t, ht, hdeadline, hsign, hrest⟩
    exact ⟨hsign, t, ht, hdeadline, by decide, hrest⟩
  · rintro ⟨hsign, t, ht, hdeadline, -, hrest⟩
    exact ⟨t, ht, hdeadline, hsign, hrest⟩

/-- **Which lengths of time are accepted.** A running timeout below zero is accepted in the place
of zero when it is less than a second, and a time to live below zero also when it is too far below
for 32 bits. No other negative length of time is accepted. -/
theorem succeeds_with_limit_iff (b : Builder) (d : Span) :
    (b.bag.span? "running-timeout" = some d →
      (b.Succeeds ↔
        -1000000000 < d.nanos ∧ (b.add "running-timeout" (.span .zero)).Succeeds)) ∧
    (b.bag.span? "ttl-after-finished" = some d →
      (b.Succeeds ↔
        (-1000000000 < d.nanos ∨ d.nanos ≤ -2147483649000000000) ∧
          (b.add "ttl-after-finished" (.span .zero)).Succeeds)) := by
  constructor
  · intro hd
    rw [succeeds_iff_of_timeout hd, Submission.deadlineOf_nonneg_iff]
  · intro hd
    rw [succeeds_iff_of_ttl hd, Submission.ttlOf_nonneg_iff]

/-- Half a second below zero is accepted as a running timeout and as a time to live, and so are
3000000000 seconds below zero as a time to live. -/
theorem succeeds_below_zero :
    let demo := Builder.new { Submission.initial with
      job := { JobSpec.initial with name := "demo", image := "x" } }
    (demo.add "running-timeout" (.span ⟨-500000000⟩)).Succeeds ∧
      (demo.add "ttl-after-finished" (.span ⟨-500000000⟩)).Succeeds ∧
      (demo.add "ttl-after-finished" (.span ⟨-3000000000000000000⟩)).Succeeds := by
  decide +kernel

end Builder

end WrappedTraining
