import WrappedTraining.Proofs.CommandLine.Fields

/-!
# The options of a submission as fields

The table of options and the fields of a submission go together place by place.

* `SubmitOptions.fields` : what the options hold, in the order of the table;
* `SubmitOptions.eq_of_held` : there is nothing else in the options of a submission;
* `SubmitOptions.exists_fills` : each field has an option of its own;
* `covers_topSpec`, `covers_submitSpec` : the fields of the two levels of a command line.
-/

namespace WrappedTraining.CommandLine

attribute [ext] SubmitOptions RepeatedOptions FaultTolerance TaskSpec Topology

namespace SubmitOptions

/-! ### The fields -/

/-- **What the options of a submission hold**, under the long names of the options. -/
def fields : List (Field SubmitOptions) :=
  [⟨"env", fun o => .texts o.repeated.env⟩,
   ⟨"selector", fun o => .texts o.repeated.selector⟩,
   ⟨"toleration", fun o => .texts o.repeated.toleration⟩,
   ⟨"annotation", fun o => .texts o.repeated.annotation⟩,
   ⟨"label", fun o => .texts o.repeated.label⟩,
   ⟨"data", fun o => .texts o.repeated.data⟩,
   ⟨"data-dir", fun o => .texts o.repeated.dataDir⟩,
   ⟨"image-pull-secret", fun o => .texts o.repeated.imagePullSecret⟩,
   ⟨"device", fun o => .texts o.repeated.device⟩,
   ⟨"config-file", fun o => .texts o.repeated.configFile⟩,
   ⟨"name", fun o => .text o.name⟩,
   ⟨"image", fun o => .text o.image⟩,
   ⟨"image-pull-policy", fun o => .text o.imagePullPolicy⟩,
   ⟨"gpus", fun o => .number o.gpus⟩,
   ⟨"workers", fun o => .number o.workers⟩,
   ⟨"priority", fun o => .text o.priority⟩,
   ⟨"rdma", fun o => .switch o.rdma⟩,
   ⟨"gang", fun o => .switch o.gang⟩,
   ⟨"working-dir", fun o => .text o.workingDir⟩,
   ⟨"shell", fun o => .text o.shell⟩,
   ⟨"scheduler-name", fun o => .text o.schedulerName⟩,
   ⟨"sync-mode", fun o => .text o.syncMode⟩,
   ⟨"sync-source", fun o => .text o.syncSource⟩,
   ⟨"sync-image", fun o => .text o.syncImage⟩,
   ⟨"tensorboard", fun o => .switch o.dashboard⟩,
   ⟨"tensorboard-image", fun o => .text o.dashboardImage⟩,
   ⟨"logdir", fun o => .text o.logDir⟩,
   ⟨"clean-task-policy", fun o => .text o.cleanPods⟩,
   ⟨"cpu", fun o => .text o.cpu⟩,
   ⟨"memory", fun o => .text o.memory⟩,
   ⟨"running-timeout", fun o => .span o.runningTimeout⟩,
   ⟨"ttl-after-finished", fun o => .span o.ttlAfterFinished⟩,
   ⟨"share-memory", fun o => .text o.shareMemory⟩,
   ⟨"nproc-per-node", fun o => .text o.procsPerNode⟩,
   ⟨"kueue-queue", fun o => .text o.queueName⟩,
   ⟨"retry-limit", fun o => .number o.faults.retryLimit⟩,
   ⟨"admission-grace-period", fun o => .text o.faults.admissionGracePeriod⟩,
   ⟨"warmup-grace-period", fun o => .text o.faults.warmupGracePeriod⟩,
   ⟨"failure-grace-period", fun o => .text o.faults.failureGracePeriod⟩,
   ⟨"retry-pause-period", fun o => .text o.faults.retryPausePeriod⟩,
   ⟨"success-ttl", fun o => .text o.faults.successTtl⟩,
   ⟨"inner-type", fun o => .text o.innerType⟩,
   ⟨"min-available", fun o => .number o.task.minAvailable⟩,
   ⟨"task-name", fun o => .text o.task.name⟩,
   ⟨"max-retry", fun o => .number o.task.maxRetry⟩,
   ⟨"replicas", fun o => .number o.task.replicas⟩,
   ⟨"master-port", fun o => .number o.task.masterPort⟩,
   ⟨"use-svc-plugin", fun o => .truth o.task.useServicePlugin⟩,
   ⟨"network-topology-mode", fun o => .text o.topology.mode⟩,
   ⟨"highest-tier-allowed", fun o => .number o.topology.highestTier⟩,
   ⟨"total-partitions", fun o => .number o.totalPartitions⟩,
   ⟨"partition-size", fun o => .number o.partitionSize⟩,
   ⟨"partition-topology-mode", fun o => .text o.partitionTopology.mode⟩,
   ⟨"partition-highest-tier", fun o => .number o.partitionTopology.highestTier⟩,
   ⟨"ring-controller", fun o => .text o.ringController⟩]

/-- What all fields hold. -/
def held (o : SubmitOptions) : List Held := fields.map fun f => f.held o

theorem names_fields : table.map OptionSpec.long = fields.map Field.name := rfl

/-- The fields are all there is. -/
theorem eq_of_held {a b : SubmitOptions} (h : a.held = b.held) : a = b := by
  simp only [held, fields, List.map_cons, List.map_nil, List.cons.injEq, Held.text.injEq,
    Held.number.injEq, Held.span.injEq, Held.switch.injEq, Held.truth.injEq, Held.texts.injEq] at h
  simp only [SubmitOptions.ext_iff, RepeatedOptions.ext_iff, FaultTolerance.ext_iff,
    TaskSpec.ext_iff, Topology.ext_iff, h, and_self]

/-! ### Each option fills its field -/

section Fills

variable {i : Nat} {o : OptionSpec SubmitOptions} {name : String}

/-- The option in place `i` fills the field in the same place. -/
def FillsAt (i : Nat) (o : OptionSpec SubmitOptions) : Prop :=
  ∃ f, fields[i]? = some f ∧ o.long = f.name ∧ o.Fills fields f

theorem getElem?_held {f : Field SubmitOptions} (hf : fields[i]? = some f) (s : SubmitOptions) :
    s.held[i]? = some (f.held s) := by
  rw [held, List.getElem?_map, hf, Option.map_some]

/-- To replace the entry in one place is to change one field. -/
theorem fillsAt_of_set {f : Field SubmitOptions} (hf : fields[i]? = some f)
    (hlong : o.long = f.name) (hrepeats : ∀ s, o.repeats = (f.held s).repeats)
    (htakes : ∀ {s value? h}, (f.held s).give value? = some h →
      ∃ s', o.Takes value? s s' ∧ s'.held = s.held.set i h) : FillsAt i o := by
  refine ⟨f, hf, hlong, hrepeats, fun {s value? h} hgive => ?_⟩
  obtain ⟨s', ht, hset⟩ := htakes hgive
  have hlt : i < s.held.length := (List.getElem?_eq_some_iff.1 (getElem?_held hf s)).1
  refine ⟨s', ht, ?_, fun e he hne => ?_⟩
  · have := getElem?_held hf s'
    rw [hset, List.getElem?_set_self hlt] at this
    exact (Option.some.inj this).symm
  · obtain ⟨j, hj⟩ := List.mem_iff_getElem?.1 he
    have hij : i ≠ j := by
      rintro rfl
      exact hne (congrArg Field.name (Option.some.inj (hj.symm.trans hf)))
    have := getElem?_held hj s'
    rw [hset, List.getElem?_set_ne hij, getElem?_held hj s] at this
    exact (Option.some.inj this).symm

theorem fillsAt_text {get : SubmitOptions → String} {set : String → SubmitOptions → SubmitOptions}
    (hf : fields[i]? = some ⟨name, fun s => .text (get s)⟩)
    (hset : ∀ v s, (set v s).held = s.held.set i (.text v)) : FillsAt i (text name set) := by
  refine fillsAt_of_set hf rfl (fun _ => rfl) fun {s value? h} hgive => ?_
  cases value? with
  | none => cases hgive
  | some v =>
    cases hgive
    exact ⟨set v s, rfl, hset v s⟩

theorem fillsAt_number {get : SubmitOptions → Int32} {set : Int32 → SubmitOptions → SubmitOptions}
    (hf : fields[i]? = some ⟨name, fun s => .number (get s)⟩)
    (hset : ∀ n s, (set n s).held = s.held.set i (.number n)) : FillsAt i (number name set) := by
  refine fillsAt_of_set hf rfl (fun _ => rfl) fun {s value? h} hgive => ?_
  cases value? with
  | none => cases hgive
  | some v =>
    obtain ⟨n, hn, rfl⟩ := Option.map_eq_some_iff.1 hgive
    exact ⟨set n s, by simp only [OptionSpec.Takes, number, hn], hset n s⟩

theorem fillsAt_span {get : SubmitOptions → Span} {set : Span → SubmitOptions → SubmitOptions}
    (hf : fields[i]? = some ⟨name, fun s => .span (get s)⟩)
    (hset : ∀ d s, (set d s).held = s.held.set i (.span d)) : FillsAt i (span name set) := by
  refine fillsAt_of_set hf rfl (fun _ => rfl) fun {s value? h} hgive => ?_
  cases value? with
  | none => cases hgive
  | some v =>
    obtain ⟨d, hd, rfl⟩ := Option.map_eq_some_iff.1 hgive
    have hparse : Span.parse v = .ok d := by
      cases hv : Span.parse v with
      | ok d' =>
        rw [hv] at hd
        cases hd
        rfl
      | error e =>
        rw [hv] at hd
        cases hd
    exact ⟨set d s, by simp only [OptionSpec.Takes, span, hparse], hset d s⟩

theorem fillsAt_switch {get : SubmitOptions → Bool} {set : SubmitOptions → SubmitOptions}
    (hf : fields[i]? = some ⟨name, fun s => .switch (get s)⟩)
    (hset : ∀ s, (set s).held = s.held.set i (.switch true)) : FillsAt i (switch name set) := by
  refine fillsAt_of_set hf rfl (fun _ => rfl) fun {s value? h} hgive => ?_
  cases value? with
  | none =>
    cases hgive
    exact ⟨set s, rfl, hset s⟩
  | some v => cases hgive

theorem fillsAt_repeatable {short? : Option Char} {get : RepeatedOptions → List String}
    {add : String → RepeatedOptions → RepeatedOptions}
    (hf : fields[i]? = some ⟨name, fun s => .texts (get s.repeated)⟩)
    (hset : ∀ v (s : SubmitOptions), { s with repeated := add v s.repeated }.held =
      s.held.set i (.texts (get s.repeated ++ [v]))) : FillsAt i (repeatable name short? add) := by
  refine fillsAt_of_set hf rfl (fun _ => rfl) fun {s value? h} hgive => ?_
  cases value? with
  | none => cases hgive
  | some v =>
    cases hgive
    exact ⟨{ s with repeated := add v s.repeated }, rfl, hset v s⟩

end Fills

/-! ### The whole table -/

/-- The options in the places from `i` on fill the fields there. -/
def FillFrom (i : Nat) : List (OptionSpec SubmitOptions) → Prop
  | [] => True
  | o :: os => FillsAt i o ∧ FillFrom (i + 1) os

theorem FillFrom.append {i : Nat} {os os' : List (OptionSpec SubmitOptions)}
    (h : FillFrom i os) (h' : FillFrom (i + os.length) os') : FillFrom i (os ++ os') := by
  induction os generalizing i with
  | nil => exact h'
  | cons o os ih =>
    refine ⟨h.1, ih h.2 ?_⟩
    rwa [Nat.add_right_comm, Nat.add_assoc]

theorem FillFrom.fillsAt {i j : Nat} {os : List (OptionSpec SubmitOptions)} (h : FillFrom i os)
    {o : OptionSpec SubmitOptions} (ho : os[j]? = some o) : FillsAt (i + j) o := by
  induction os generalizing i j with
  | nil => cases ho
  | cons o' os ih =>
    cases j with
    | zero =>
      cases ho
      exact h.1
    | succ j =>
      have := ih h.2 ho
      rwa [Nat.add_right_comm] at this

theorem fillFrom_repeatedTable : FillFrom 0 repeatedTable := by
  iterate 10 refine ⟨fillsAt_repeatable rfl fun _ _ => rfl, ?_⟩
  trivial

theorem fillFrom_jobTable : FillFrom 10 jobTable :=
  ⟨fillsAt_text rfl fun _ _ => rfl,
   fillsAt_text rfl fun _ _ => rfl,
   fillsAt_text rfl fun _ _ => rfl,
   fillsAt_number rfl fun _ _ => rfl,
   fillsAt_number rfl fun _ _ => rfl,
   fillsAt_text rfl fun _ _ => rfl,
   fillsAt_switch rfl fun _ => rfl,
   fillsAt_switch rfl fun _ => rfl,
   fillsAt_text rfl fun _ _ => rfl,
   fillsAt_text rfl fun _ _ => rfl,
   fillsAt_text rfl fun _ _ => rfl, trivial⟩

theorem fillFrom_serviceTable : FillFrom 21 serviceTable :=
  ⟨fillsAt_text rfl fun _ _ => rfl,
   fillsAt_text rfl fun _ _ => rfl,
   fillsAt_text rfl fun _ _ => rfl,
   fillsAt_switch rfl fun _ => rfl,
   fillsAt_text rfl fun _ _ => rfl,
   fillsAt_text rfl fun _ _ => rfl, trivial⟩

theorem fillFrom_policyTable : FillFrom 27 policyTable :=
  ⟨fillsAt_text rfl fun _ _ => rfl,
   fillsAt_text rfl fun _ _ => rfl,
   fillsAt_text rfl fun _ _ => rfl,
   fillsAt_span rfl fun _ _ => rfl,
   fillsAt_span rfl fun _ _ => rfl,
   fillsAt_text rfl fun _ _ => rfl,
   fillsAt_text rfl fun _ _ => rfl,
   fillsAt_text rfl fun _ _ => rfl,
   fillsAt_number rfl fun _ _ => rfl,
   fillsAt_text rfl fun _ _ => rfl,
   fillsAt_text rfl fun _ _ => rfl,
   fillsAt_text rfl fun _ _ => rfl,
   fillsAt_text rfl fun _ _ => rfl,
   fillsAt_text rfl fun _ _ => rfl, trivial⟩

/-- The one option with a truth value. -/
theorem fillsAt_truth {o : OptionSpec SubmitOptions} (ho : innerTable[6]? = some o) :
    FillsAt 47 o := by
  cases ho
  refine fillsAt_of_set (i := 47) rfl rfl (fun _ => rfl) fun {s value? h} hgive => ?_
  cases value? with
  | none => cases hgive
  | some v =>
    obtain ⟨b, hb, rfl⟩ := Option.map_eq_some_iff.1 hgive
    exact ⟨{ s with task := { s.task with useServicePlugin := some b } },
      by simp only [OptionSpec.Takes, hb], rfl⟩

theorem fillFrom_innerTable : FillFrom 41 innerTable :=
  ⟨fillsAt_text rfl fun _ _ => rfl,
   fillsAt_number rfl fun _ _ => rfl,
   fillsAt_text rfl fun _ _ => rfl,
   fillsAt_number rfl fun _ _ => rfl,
   fillsAt_number rfl fun _ _ => rfl,
   fillsAt_number rfl fun _ _ => rfl,
   fillsAt_truth rfl,
   fillsAt_text rfl fun _ _ => rfl,
   fillsAt_number rfl fun _ _ => rfl,
   fillsAt_number rfl fun _ _ => rfl,
   fillsAt_number rfl fun _ _ => rfl,
   fillsAt_text rfl fun _ _ => rfl,
   fillsAt_number rfl fun _ _ => rfl,
   fillsAt_text rfl fun _ _ => rfl, trivial⟩

theorem fillFrom_table : FillFrom 0 table :=
  (((fillFrom_repeatedTable.append fillFrom_jobTable).append fillFrom_serviceTable).append
    fillFrom_policyTable).append fillFrom_innerTable

/-- **Every field has an option** in the table, which fills it. -/
theorem exists_fills {f : Field SubmitOptions} (hf : f ∈ fields) :
    ∃ o ∈ table, o.long = f.name ∧ o.Fills fields f := by
  obtain ⟨j, hj⟩ := List.mem_iff_getElem?.1 hf
  have hlt : j < table.length := (List.getElem?_eq_some_iff.1 hj).1
  obtain ⟨o, ho⟩ : ∃ o, table[j]? = some o := ⟨_, List.getElem?_eq_getElem hlt⟩
  obtain ⟨f', hf', hlong, hfills⟩ := fillFrom_table.fillsAt ho
  rw [Nat.zero_add, hj] at hf'
  obtain rfl := Option.some.inj hf'
  exact ⟨o, List.mem_of_getElem? ho, hlong, hfills⟩

end SubmitOptions

/-! ### Both levels -/

/-- The level before the name of the command has the global options alone. -/
theorem covers_topSpec : Covers topSpec (Level.fieldsWith []) :=
  Level.covers_of_fills [⟨"version", some 'V', .stop .displayVersion, false, false⟩] rfl
    (by decide) (by decide) (by decide) fun _ hf => absurd hf List.not_mem_nil

/-- The level after the name has all options. -/
theorem covers_submitSpec : Covers submitSpec (Level.fieldsWith SubmitOptions.fields) :=
  Level.covers_of_fills SubmitOptions.table rfl (by decide +kernel) (by decide +kernel)
    (by decide +kernel) fun _ hf => SubmitOptions.exists_fills hf

end WrappedTraining.CommandLine
