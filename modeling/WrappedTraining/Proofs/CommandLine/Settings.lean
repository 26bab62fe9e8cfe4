import WrappedTraining.CommandLine.Invocation
import WrappedTraining.Proofs.Dict
import WrappedTraining.Proofs.Submission.Choices
import WrappedTraining.Proofs.Submission.Limits
import WrappedTraining.Proofs.Text.Pieces

/-!
# Command lines and settings

A job is described in two ways: by the options of a command line, which all reach the builder, and
by settings, which leave out what is empty or not positive. Both ways come to the same job, or to
the same error.

Which option and which setting belong together is said by tables of their own
(`SubmitOptions.textOf` and its siblings), next to the tables by which each way fills a submission.

* `Expressible` : the options that settings can express, with the lengths of time in seconds;
* `Spells` : settings that say what the options say, in any order;
* `spells_settingsOf` : there are such settings for every command line;
* `submission_choicesOf`, `alike_toBag` : the choices of the options, as submission and as deferred
  options, are those of the command line but for the place of the limits;
* `ofSettings_eq_compose` : settings and command line come to the same.
-/

namespace WrappedTraining.CommandLine

namespace SubmitOptions

variable (o : SubmitOptions)

/-! ### What the options say -/

/-- The option for each text of a submission. -/
def textOf (namespaceName : String) : TextSetting → String
  | .name => o.name
  | .namespaceName => namespaceName
  | .image => o.image
  | .shell => o.shell
  | .workingDir => o.workingDir
  | .priorityClass => o.priority
  | .schedulerName => o.schedulerName
  | .syncMode => o.syncMode
  | .syncSource => o.syncSource
  | .syncImage => o.syncImage
  | .dashboardImage => o.dashboardImage
  | .logDir => o.logDir
  | .cpu => o.cpu
  | .memory => o.memory
  | .shareMemory => o.shareMemory
  | .cleanPods => o.cleanPods
  | .procsPerNode => o.procsPerNode
  | .queueName => o.queueName
  | .admissionGracePeriod => o.faults.admissionGracePeriod
  | .warmupGracePeriod => o.faults.warmupGracePeriod
  | .failureGracePeriod => o.faults.failureGracePeriod
  | .retryPausePeriod => o.faults.retryPausePeriod
  | .successTtl => o.faults.successTtl
  | .innerType => o.innerType
  | .taskName => o.task.name
  | .topologyMode => o.topology.mode
  | .partitionTopologyMode => o.partitionTopology.mode
  | .ringController => o.ringController

/-- The option for each count of a submission, with the time to live in seconds. -/
def countOf (ttl : Int32) : CountSetting → Int32
  | .gpus => o.gpus
  | .workers => o.workers
  | .minAvailable => o.task.minAvailable
  | .replicas => o.task.replicas
  | .masterPort => o.task.masterPort
  | .highestTier => o.topology.highestTier
  | .totalPartitions => o.totalPartitions
  | .partitionSize => o.partitionSize
  | .partitionHighestTier => o.partitionTopology.highestTier
  | .ttlSeconds => ttl

/-- The option for each limit on retries. -/
def limitOf : LimitSetting → Int32
  | .retryLimit => o.faults.retryLimit
  | .maxRetry => o.task.maxRetry

/-- The switch for each service. -/
def isOn : SwitchSetting → Bool
  | .rdma => o.rdma
  | .coscheduling => o.gang
  | .dashboard => o.dashboard

/-- The repeated option for each list of pairs. -/
def pairsOf : PairSetting → List String
  | .envs => o.repeated.env
  | .nodeSelectors => o.repeated.selector
  | .annotations => o.repeated.annotation
  | .labels => o.repeated.label
  | .dataSets => o.repeated.data
  | .dataDirs => o.repeated.dataDir
  | .devices => o.repeated.device
  | .configFiles => o.repeated.configFile

/-- The entries that are pairs. Where an equals sign separates them, others are skipped. -/
def keptOf (f : PairSetting) : List String :=
  if f.separator = '=' then (o.pairsOf f).filter fun e => e.toList.contains '=' else o.pairsOf f

/-- The repeated option for each list. -/
def listOf : ListSetting → List String
  | .tolerations => o.repeated.toleration
  | .imagePullSecrets => o.repeated.imagePullSecret

end SubmitOptions

/-! ### Settings for the same job -/

section Settings

variable (o : SubmitOptions) (ns : String) (words : List String) (deadline : Int64) (ttl : Int32)

/-- The text for a setting that no option gives. -/
def defaultText (f : TextSetting) : String :=
  SubmitOptions.initial.textOf Invocation.defaultNamespace f

/-- **Settings can express the options**: nothing is given that they leave out. -/
structure Expressible : Prop where
  imagePullPolicy : o.imagePullPolicy = "IfNotPresent"
  /-- A text that is given is not empty. -/
  texts : ∀ f, o.textOf ns f = "" → defaultText f = ""
  gpus : 0 ≤ o.gpus
  workers : 1 ≤ o.workers
  minAvailable : 0 ≤ o.task.minAvailable
  replicas : 1 ≤ o.task.replicas
  masterPort : 1 ≤ o.task.masterPort
  highestTier : 0 ≤ o.topology.highestTier
  partitionHighestTier : 0 ≤ o.partitionTopology.highestTier
  totalPartitions : 0 ≤ o.totalPartitions
  partitionSize : 0 ≤ o.partitionSize
  retryLimit : 0 ≤ o.faults.retryLimit
  maxRetry : 0 ≤ o.task.maxRetry
  runningTimeout : o.runningTimeout = .ofSeconds deadline.toInt
  deadline_nonneg : 0 ≤ deadline
  ttlAfterFinished : o.ttlAfterFinished = .ofSeconds ttl.toInt
  ttl_nonneg : 0 ≤ ttl

/-- The setting says what an option says. -/
def Says : Setting → Prop
  | .text f v => v = o.textOf ns f
  | .count f n => n = o.countOf ttl f
  | .limit f n => n = o.limitOf f
  | .deadlineSeconds n => n = deadline
  | .command ws => ws = words
  | .switchOn f => o.isOn f
  | .useServicePlugin on => o.task.useServicePlugin = some on
  | .pairs f ps => ps.map (Setting.entryOf f.separator) = o.keptOf f
  | .list f es => es = o.listOf f

/-- **The settings say what the options say**, in any order: each of them repeats an option, and
every option that is not at its default has a setting. -/
structure Spells (settings : List Setting) : Prop where
  truthful : ∀ x ∈ settings, Says o ns words deadline ttl x
  text : ∀ f, o.textOf ns f ≠ defaultText f → .text f (o.textOf ns f) ∈ settings
  count : ∀ f, o.countOf ttl f ≠ SubmitOptions.initial.countOf 0 f →
    .count f (o.countOf ttl f) ∈ settings
  limit : ∀ f, o.limitOf f ≠ SubmitOptions.initial.limitOf f → .limit f (o.limitOf f) ∈ settings
  deadlineSeconds : deadline ≠ 0 → .deadlineSeconds deadline ∈ settings
  command : Setting.commandText words ≠ "" → .command words ∈ settings
  switchOn : ∀ f, o.isOn f → .switchOn f ∈ settings
  useServicePlugin : ∀ on, o.task.useServicePlugin = some on → .useServicePlugin on ∈ settings
  pairs : ∀ f, o.keptOf f ≠ [] → ∃ ps, .pairs f ps ∈ settings
  list : ∀ f, o.listOf f ≠ [] → .list f (o.listOf f) ∈ settings

/-- The choices that the options make. -/
def choicesOf : Choices
  | .text f => o.textOf ns f
  | .count f => o.countOf ttl f
  | .limit f => o.limitOf f
  | .deadlineSeconds => deadline
  | .command => Setting.commandText words
  | .isOn f => o.isOn f
  | .useServicePlugin => o.task.useServicePlugin
  | .entries k =>
    if k ∈ Bag.skippingOptions then (o.toBag.texts k).filter fun e => e.toList.contains '='
    else o.toBag.texts k

/-- The choices when no option is given. -/
def defaultChoices : Choices := choicesOf .initial Invocation.defaultNamespace [] 0 0

end Settings

/-! ### Deferred options -/

namespace SubmitOptions

variable (o : SubmitOptions)

theorem texts_foldl (es : List (String × List String)) (b : Bag) (k : String) :
    (es.foldl (fun b e => b.insert e.1 (.texts e.2)) b).texts k =
      (Dict.lookup? k es.reverse).getD (b.texts k) := by
  induction es generalizing b with
  | nil => rfl
  | cons e es ih =>
    rw [List.foldl_cons, ih, List.reverse_cons, Dict.lookup?_append, Bag.texts_insert_texts]
    cases Dict.lookup? k es.reverse with
    | some v => rfl
    | none => by_cases hk : k = e.1 <;> simp [Dict.lookup?, hk, eq_comm]

theorem dict?_foldl (es : List (String × List String)) {b : Bag} {k : String}
    (h : b.dict? k = none) :
    (es.foldl (fun b e => b.insert e.1 (.texts e.2)) b).dict? k = none := by
  induction es generalizing b with
  | nil => exact h
  | cons e es ih =>
    refine ih ?_
    rw [Bag.dict?_insert_texts, h, ite_self]

theorem texts_toBag (k : String) :
    o.toBag.texts k = (Dict.lookup? k o.repeated.entries).getD [] := by
  have hkeys : (o.repeated.entries.map (·.1)).Nodup := by
    show ["env", "selector", "toleration", "annotation", "label", "data", "data-dir",
      "image-pull-secret", "device", "config-file"].Nodup
    decide
  unfold toBag
  rw [Bag.texts_insert_span, Bag.texts_insert_span, texts_foldl, Dict.lookup?_reverse hkeys]
  split
  · rename_i hk
    subst hk
    rfl
  · split
    · rename_i hk
      subst hk
      rfl
    · rfl

theorem texts_toBag_pairs (f : PairSetting) : o.toBag.texts f.option = o.pairsOf f := by
  rw [texts_toBag]
  cases f <;> rfl

theorem texts_toBag_list (f : ListSetting) : o.toBag.texts f.option = o.listOf f := by
  rw [texts_toBag]
  cases f <;> rfl

/-- A deferred option with entries is set by pairs or by a list. -/
theorem exists_option_of_texts_toBag {k : String} (h : o.toBag.texts k ≠ []) :
    (∃ f : PairSetting, f.option = k) ∨ ∃ f : ListSetting, f.option = k := by
  have hmem : k ∈ o.repeated.entries.map (·.1) := by
    by_contra hk
    rw [texts_toBag, Dict.lookup?_eq_none_of_notMem hk] at h
    exact h rfl
  have hkeys : o.repeated.entries.map (·.1) = ["env", "selector", "toleration", "annotation",
    "label", "data", "data-dir", "image-pull-secret", "device", "config-file"] := rfl
  -- each of the ten repeated options has a setting
  rw [hkeys] at hmem
  simp only [List.mem_cons, List.not_mem_nil, or_false] at hmem
  rcases hmem with rfl | rfl | rfl | rfl | rfl | rfl | rfl | rfl | rfl | rfl
  · exact .inl ⟨.envs, rfl⟩
  · exact .inl ⟨.nodeSelectors, rfl⟩
  · exact .inr ⟨.tolerations, rfl⟩
  · exact .inl ⟨.annotations, rfl⟩
  · exact .inl ⟨.labels, rfl⟩
  · exact .inl ⟨.dataSets, rfl⟩
  · exact .inl ⟨.dataDirs, rfl⟩
  · exact .inr ⟨.imagePullSecrets, rfl⟩
  · exact .inl ⟨.devices, rfl⟩
  · exact .inl ⟨.configFiles, rfl⟩

theorem span?_toBag_timeout : o.toBag.span? "running-timeout" = some o.runningTimeout := by
  unfold toBag
  rw [Bag.span?_insert_of_ne (by decide), Bag.span?_insert_span, if_pos rfl]

theorem span?_toBag_ttl : o.toBag.span? "ttl-after-finished" = some o.ttlAfterFinished := by
  unfold toBag
  rw [Bag.span?_insert_span, if_pos rfl]

theorem dict?_toBag (k : String) : o.toBag.dict? k = none := by
  unfold toBag
  rw [Bag.dict?_insert_span, Bag.dict?_insert_span, dict?_foldl _ rfl, ite_self, ite_self]

end SubmitOptions

/-! ### The choices of the options -/

section Settings

variable {o : SubmitOptions} {ns : String} {words : List String} {deadline : Int64} {ttl : Int32}
  {settings : List Setting}

theorem mem_skippingOptions_iff (f : PairSetting) :
    f.option ∈ Bag.skippingOptions ↔ f.separator = '=' := by
  cases f <;> decide

theorem choicesOf_pairs (f : PairSetting) :
    choicesOf o ns words deadline ttl (.entries f.option) = o.keptOf f := by
  simp only [choicesOf, SubmitOptions.keptOf, mem_skippingOptions_iff,
    SubmitOptions.texts_toBag_pairs]

theorem choicesOf_list (f : ListSetting) :
    choicesOf o ns words deadline ttl (.entries f.option) = o.listOf f := by
  have hf : f.option ∉ Bag.skippingOptions := by cases f <;> decide
  simp only [choicesOf, if_neg hf, SubmitOptions.texts_toBag_list]

/-- The deferred options of the choices come to the same as those of the command line. -/
theorem alike_toBag {b : Bag}
    (htexts : ∀ k, b.texts k = choicesOf o ns words deadline ttl (.entries k))
    (hdict : ∀ k, b.dict? k = none) : b.Alike o.toBag where
  pairs k hk := by
    rw [htexts, choicesOf, if_pos hk, WrappedTraining.pairsOf_filter]
  texts k hk := by rw [htexts, choicesOf, if_neg hk]
  dict? k := by rw [hdict, SubmitOptions.dict?_toBag]

/-- The choices describe the submission of the command line with its limits set. -/
theorem submission_choicesOf (h : o.imagePullPolicy = "IfNotPresent") :
    (choicesOf o ns words deadline ttl).submission =
      (o.toSubmission ns words).withLimits deadline ttl := by
  unfold SubmitOptions.toSubmission
  rw [h]
  rfl

theorem texts_toBag_initial (k : String) : SubmitOptions.initial.toBag.texts k = [] := by
  by_contra h
  rcases SubmitOptions.exists_option_of_texts_toBag _ h with ⟨f, rfl⟩ | ⟨f, rfl⟩
  · rw [SubmitOptions.texts_toBag_pairs] at h
    cases f <;> exact h rfl
  · rw [SubmitOptions.texts_toBag_list] at h
    cases f <;> exact h rfl

/-- **Options that are not given leave what settings leave.** -/
theorem describes_defaultChoices : defaultChoices.Describes (.new .initial) where
  submission := rfl
  texts k := by
    rw [defaultChoices, choicesOf, texts_toBag_initial, List.filter_nil, ite_self]
    rfl
  span? _ := rfl
  dict? _ := rfl

/-! ### Settings that say what the options say -/

/-- A setting that says what an option says makes its choice. -/
theorem Says.choice {x : Setting} (h : Says o ns words deadline ttl x) {p : Choice}
    (hp : x.choice? = some p) : p.2 = choicesOf o ns words deadline ttl p.1 := by
  cases x with
  | text f v =>
    by_cases hv : v = ""
    · simp [Setting.choice?, hv] at hp
    · obtain rfl := Option.some.inj ((if_neg hv).symm.trans hp)
      exact h
  | count f n =>
    by_cases hn : 0 < n
    · obtain rfl := Option.some.inj ((if_pos hn).symm.trans hp)
      exact h
    · simp [Setting.choice?, hn] at hp
  | limit f n =>
    by_cases hn : 0 ≤ n
    · obtain rfl := Option.some.inj ((if_pos hn).symm.trans hp)
      exact h
    · simp [Setting.choice?, hn] at hp
  | deadlineSeconds n =>
    by_cases hn : 0 < n
    · obtain rfl := Option.some.inj ((if_pos hn).symm.trans hp)
      exact h
    · simp [Setting.choice?, hn] at hp
  | command ws =>
    obtain rfl := Option.some.inj hp
    exact congrArg Setting.commandText h
  | switchOn f =>
    obtain rfl := Option.some.inj hp
    exact h.symm
  | useServicePlugin on =>
    obtain rfl := Option.some.inj hp
    exact h.symm
  | pairs f ps =>
    by_cases hps : ps = []
    · simp [Setting.choice?, hps] at hp
    · obtain rfl := Option.some.inj ((if_neg hps).symm.trans hp)
      exact h.trans (choicesOf_pairs f).symm
  | list f es =>
    obtain rfl := Option.some.inj hp
    exact h.trans (choicesOf_list f).symm

/-- A count that is not at its default is positive. -/
theorem Expressible.count_pos (h : Expressible o ns deadline ttl) (f : CountSetting)
    (hf : o.countOf ttl f ≠ SubmitOptions.initial.countOf 0 f) : 0 < o.countOf ttl f := by
  have hzero : ∀ n : Int32, 0 ≤ n → n ≠ 0 → 0 < n := fun n hn hne =>
    Int32.lt_of_le_of_ne hn (Ne.symm hne)
  have hone : ∀ n : Int32, 1 ≤ n → 0 < n := fun n hn => Int32.lt_of_lt_of_le (by decide) hn
  cases f with
  | gpus => exact hzero _ h.gpus hf
  | workers => exact hone _ h.workers
  | minAvailable => exact hzero _ h.minAvailable hf
  | replicas => exact hone _ h.replicas
  | masterPort => exact hone _ h.masterPort
  | highestTier => exact hzero _ h.highestTier hf
  | totalPartitions => exact hzero _ h.totalPartitions hf
  | partitionSize => exact hzero _ h.partitionSize hf
  | partitionHighestTier => exact hzero _ h.partitionHighestTier hf
  | ttlSeconds => exact hzero _ h.ttl_nonneg hf

theorem Expressible.limit_nonneg (h : Expressible o ns deadline ttl) (f : LimitSetting) :
    0 ≤ o.limitOf f := by
  cases f with
  | retryLimit => exact h.retryLimit
  | maxRetry => exact h.maxRetry

/-- Entries that are not empty are set by pairs or by a list. -/
theorem Spells.made_entries (hs : Spells o ns words deadline ttl settings) {k : String}
    (hk : choicesOf o ns words deadline ttl (.entries k) ≠ []) :
    ∃ x ∈ settings,
      x.choice? = some ⟨.entries k, choicesOf o ns words deadline ttl (.entries k)⟩ := by
  have htexts : o.toBag.texts k ≠ [] := by
    intro hempty
    rw [choicesOf, hempty, List.filter_nil, ite_self] at hk
    exact hk rfl
  rcases o.exists_option_of_texts_toBag htexts with ⟨f, rfl⟩ | ⟨f, rfl⟩
  · rw [choicesOf_pairs] at hk ⊢
    obtain ⟨ps, hmem⟩ := hs.pairs f hk
    have hps : ps.map (Setting.entryOf f.separator) = o.keptOf f := hs.truthful _ hmem
    have hne : ps ≠ [] := by
      rintro rfl
      exact hk hps.symm
    rw [← hps]
    exact ⟨_, hmem, if_neg hne⟩
  · rw [choicesOf_list] at hk ⊢
    exact ⟨_, hs.list f hk, rfl⟩

/-- The settings make every choice that differs from the defaults. -/
theorem Spells.made (hs : Spells o ns words deadline ttl settings)
    (h : Expressible o ns deadline ttl) (i : Slot) :
    defaultChoices i = choicesOf o ns words deadline ttl i ∨
      ∃ x ∈ settings, x.choice? = some ⟨i, choicesOf o ns words deadline ttl i⟩ := by
  by_cases hi : choicesOf o ns words deadline ttl i = defaultChoices i
  · exact .inl hi.symm
  · -- a value that is not at its default is one that its setting does not pass over
    refine .inr ?_
    cases i with
    | text f =>
      have hne : o.textOf ns f ≠ "" := fun hempty => hi (hempty.trans (h.texts f hempty).symm)
      exact ⟨_, hs.text f hi, if_neg hne⟩
    | count f => exact ⟨_, hs.count f hi, if_pos (h.count_pos f hi)⟩
    | limit f => exact ⟨_, hs.limit f hi, if_pos (h.limit_nonneg f)⟩
    | deadlineSeconds =>
      have hpos : 0 < deadline := Int64.lt_of_le_of_ne h.deadline_nonneg (Ne.symm hi)
      exact ⟨_, hs.deadlineSeconds hi, if_pos hpos⟩
    | command => exact ⟨_, hs.command hi, rfl⟩
    | isOn f =>
      have hon : choicesOf o ns words deadline ttl (.isOn f) = true := by
        have hoff : defaultChoices (.isOn f) = false := by cases f <;> rfl
        rw [hoff] at hi
        exact Bool.of_not_eq_false hi
      rw [hon]
      exact ⟨_, hs.switchOn f hon, rfl⟩
    | useServicePlugin =>
      cases hplugin : o.task.useServicePlugin with
      | none => exact absurd hplugin hi
      | some on =>
        have hchoice : choicesOf o ns words deadline ttl .useServicePlugin = some on := hplugin
        rw [hchoice]
        exact ⟨_, hs.useServicePlugin on hplugin, rfl⟩
    | entries k =>
      have hempty : defaultChoices (.entries k) = [] := by
        rw [defaultChoices, choicesOf, texts_toBag_initial, List.filter_nil, ite_self]
      exact hs.made_entries (hempty ▸ hi)

/-! ### Settings for every command line -/

/-- The texts of a submission. -/
def allTexts : List TextSetting :=
  [.name, .namespaceName, .image, .shell, .workingDir, .priorityClass, .schedulerName, .syncMode,
   .syncSource, .syncImage, .dashboardImage, .logDir, .cpu, .memory, .shareMemory, .cleanPods,
   .procsPerNode, .queueName, .admissionGracePeriod, .warmupGracePeriod, .failureGracePeriod,
   .retryPausePeriod, .successTtl, .innerType, .taskName, .topologyMode, .partitionTopologyMode,
   .ringController]

/-- The counts of a submission. -/
def allCounts : List CountSetting :=
  [.gpus, .workers, .minAvailable, .replicas, .masterPort, .highestTier, .totalPartitions,
   .partitionSize, .partitionHighestTier, .ttlSeconds]

/-- The deferred options that are set by pairs. -/
def allPairs : List PairSetting :=
  [.envs, .nodeSelectors, .annotations, .labels, .dataSets, .dataDirs, .devices, .configFiles]

variable (o ns words deadline ttl) in
/-- One setting for each option. -/
def settingsOf : List Setting :=
  (allTexts.map fun f => Setting.text f (o.textOf ns f)) ++
    (allCounts.map fun f => Setting.count f (o.countOf ttl f)) ++
    ([.retryLimit, .maxRetry].map fun f => Setting.limit f (o.limitOf f)) ++
    [Setting.deadlineSeconds deadline, Setting.command words] ++
    ([.rdma, .coscheduling, .dashboard].filter o.isOn).map Setting.switchOn ++
    o.task.useServicePlugin.toList.map Setting.useServicePlugin ++
    (allPairs.map fun f =>
      Setting.pairs f (WrappedTraining.pairsOf f.separator (o.pairsOf f))) ++
    ([.tolerations, .imagePullSecrets].map fun f => Setting.list f (o.listOf f))

theorem mem_settingsOf {x : Setting} :
    x ∈ settingsOf o ns words deadline ttl ↔
      (∃ f, x = .text f (o.textOf ns f)) ∨ (∃ f, x = .count f (o.countOf ttl f)) ∨
      (∃ f, x = .limit f (o.limitOf f)) ∨ x = .deadlineSeconds deadline ∨ x = .command words ∨
      (∃ f, o.isOn f ∧ x = .switchOn f) ∨
      (∃ on, o.task.useServicePlugin = some on ∧ x = .useServicePlugin on) ∨
      (∃ f : PairSetting, x = .pairs f (WrappedTraining.pairsOf f.separator (o.pairsOf f))) ∨
      ∃ f, x = .list f (o.listOf f) := by
  have htexts : ∀ f, f ∈ allTexts := by rintro ⟨⟩ <;> decide
  have hcounts : ∀ f, f ∈ allCounts := by rintro ⟨⟩ <;> decide
  have hlimits : ∀ f, f ∈ [LimitSetting.retryLimit, .maxRetry] := by rintro ⟨⟩ <;> decide
  have hswitches : ∀ f, f ∈ [SwitchSetting.rdma, .coscheduling, .dashboard] := by
    rintro ⟨⟩ <;> decide
  have hpairs : ∀ f, f ∈ allPairs := by rintro ⟨⟩ <;> decide
  have hlists : ∀ f, f ∈ [ListSetting.tolerations, .imagePullSecrets] := by rintro ⟨⟩ <;> decide
  simp only [settingsOf, List.mem_append, List.mem_map, List.mem_filter, htexts, hcounts, hlimits,
    hswitches, hpairs, hlists, true_and, Option.mem_toList, List.mem_cons, List.not_mem_nil,
    or_false, eq_comm (b := x), or_assoc]

/-- Pairs are written as the entries that they were read from. -/
theorem map_entryOf_pairsOf (sep : Char) (entries : List String) :
    (WrappedTraining.pairsOf sep entries).map (Setting.entryOf sep) =
      entries.filter fun e => e.toList.contains sep := by
  unfold WrappedTraining.pairsOf
  induction entries with
  | nil => rfl
  | cons e es ih =>
    cases hcut : Text.cut? sep e with
    | none =>
      have hno : sep ∉ e.toList := Text.cut?_eq_none_iff.1 hcut
      rw [List.filterMap_cons_none hcut, ih, List.filter_cons_of_neg (by simpa using hno)]
    | some p =>
      have htext : Setting.entryOf sep p = e := (Text.eq_of_cut? hcut).1.symm
      have hmem : sep ∈ e.toList := by
        rw [← htext]
        simp [Setting.entryOf]
      rw [List.filterMap_cons_some hcut, List.map_cons, ih, htext,
        List.filter_cons_of_pos (by simpa using hmem)]

/-- **Every expressible command line is spelled by some settings**, if the entries of options with
colons have one. -/
theorem spells_settingsOf
    (hcolons : ∀ f : PairSetting, f.separator = ':' → ∀ e ∈ o.pairsOf f, ':' ∈ e.toList) :
    Spells o ns words deadline ttl (settingsOf o ns words deadline ttl) where
  truthful x hx := by
    rcases mem_settingsOf.1 hx with ⟨f, rfl⟩ | ⟨f, rfl⟩ | ⟨f, rfl⟩ | rfl | rfl | ⟨f, hf, rfl⟩ |
      ⟨on, hon, rfl⟩ | ⟨f, rfl⟩ | ⟨f, rfl⟩
    · rfl
    · rfl
    · rfl
    · rfl
    · rfl
    · exact hf
    · exact hon
    · -- with colons no entry is skipped
      show (WrappedTraining.pairsOf f.separator (o.pairsOf f)).map _ = o.keptOf f
      rw [map_entryOf_pairsOf, SubmitOptions.keptOf]
      split
      · rename_i hf
        rw [hf]
      · rename_i hf
        have hcolon : f.separator = ':' := by cases f <;> first | rfl | exact absurd rfl hf
        rw [hcolon]
        exact List.filter_eq_self.2 fun e he => by simpa using hcolons f hcolon e he
    · rfl
  text f _ := mem_settingsOf.2 (.inl ⟨f, rfl⟩)
  count f _ := mem_settingsOf.2 (.inr (.inl ⟨f, rfl⟩))
  limit f _ := mem_settingsOf.2 (.inr (.inr (.inl ⟨f, rfl⟩)))
  deadlineSeconds _ := by simp [mem_settingsOf]
  command _ := by simp [mem_settingsOf]
  switchOn f hf := by simp [mem_settingsOf, hf]
  useServicePlugin on hon := by simp [mem_settingsOf, hon]
  pairs f _ := ⟨WrappedTraining.pairsOf f.separator (o.pairsOf f), by simp [mem_settingsOf]⟩
  list f _ := by simp [mem_settingsOf]

/-! ### The same job -/

/-- A builder with the choices of the options finishes as the builder of the command line. -/
theorem finish_of_describes (h : Expressible o ns deadline ttl) {b : Builder}
    (hb : (choicesOf o ns words deadline ttl).Describes b) :
    b.finish = (o.toBuilder ns words).finish := by
  -- settings put the limits into the run policy, and the command line defers them
  have hsubmission : b.submission = (o.toSubmission ns words).withLimits deadline ttl :=
    hb.submission.trans (submission_choicesOf h.imagePullPolicy)
  have hdeadline : Submission.deadlineOf o.runningTimeout = deadline := by
    rw [h.runningTimeout, Submission.deadlineOf_ofSeconds]
  have httl : Submission.ttlOf o.ttlAfterFinished = ttl := by
    rw [h.ttlAfterFinished, Submission.ttlOf_ofSeconds]
  have hbuilder : b = ⟨(o.toSubmission ns words).withLimits deadline ttl, b.bag⟩ := by
    rw [← hsubmission]
  rw [hbuilder]
  exact Builder.finish_withLimits (alike_toBag hb.texts hb.dict?) (hb.span? _) (hb.span? _)
    o.span?_toBag_timeout o.span?_toBag_ttl hdeadline httl (o.toSubmission ns words)

/-- **Settings that say what the options say describe the same job**: both come to the same
submission, or to the same error. -/
theorem ofSettings_eq_compose (h : Expressible o ns deadline ttl)
    (hs : Spells o ns words deadline ttl settings) :
    TrainingJob.ofSettings settings = compose o ns words := by
  have hchoices : defaultChoices.makeAll settings = choicesOf o ns words deadline ttl :=
    Choices.makeAll_eq (fun x hx p hp => (hs.truthful x hx).choice hp) (hs.made h) (.inl rfl)
  have hdescribes := describes_defaultChoices.applyAll settings
  rw [hchoices] at hdescribes
  unfold TrainingJob.ofSettings compose TrainingJob.ofBuilder
  rw [finish_of_describes h hdescribes]

/-- Settings in another order than the options, one of them twice and one that repeats a default;
an entry without an equals sign has no setting. -/
theorem ofSettings_eq_compose_nightly :
    let o : SubmitOptions := { SubmitOptions.initial with
      name := "nightly"
      image := "trainer:2"
      gpus := 4
      repeated := { RepeatedOptions.none with
        env := ["MODE=fast", "skipped", "ARGS=a=b"]
        toleration := ["all"]
        data := ["claim:/data"] }
      gang := true
      runningTimeout := ⟨3600000000000⟩
      faults := { SubmitOptions.initial.faults with retryLimit := 0 }
      task := { SubmitOptions.initial.task with useServicePlugin := some false } }
    let settings : List Setting :=
      [.pairs .envs [("MODE", "fast"), ("ARGS", "a=b")], .text .image "trainer:2",
       .limit .retryLimit 0, .switchOn .coscheduling, .count .gpus 4, .text .name "nightly",
       .list .tolerations ["all"], .deadlineSeconds 3600, .useServicePlugin false,
       .command ["python", "train.py"], .pairs .dataSets [("claim", "/data")],
       .text .name "nightly", .text .shell "sh"]
    Expressible o "default" 3600 0 ∧ Spells o "default" ["python", "train.py"] 3600 0 settings ∧
      TrainingJob.ofSettings settings = compose o "default" ["python", "train.py"] := by
  intro o settings
  have h : Expressible o "default" 3600 0 := by
    constructor <;> first | decide | (rintro ⟨⟩ <;> decide)
  have hs : Spells o "default" ["python", "train.py"] 3600 0 settings :=
    { truthful := by
        intro x hx
        simp only [settings, List.mem_cons, List.not_mem_nil, or_false] at hx
        rcases hx with rfl | rfl | rfl | rfl | rfl | rfl | rfl | rfl | rfl | rfl | rfl | rfl | rfl
        all_goals rfl
      text := by rintro ⟨⟩ <;> decide
      count := by rintro ⟨⟩ <;> decide
      limit := by rintro ⟨⟩ <;> decide
      deadlineSeconds := by decide
      command := by decide
      switchOn := by rintro ⟨⟩ <;> decide
      useServicePlugin := by rintro ⟨⟩ <;> decide
      pairs := by
        intro f hf
        cases f with
        | envs => exact ⟨[("MODE", "fast"), ("ARGS", "a=b")], by decide⟩
        | dataSets => exact ⟨[("claim", "/data")], by decide⟩
        | _ => exact absurd rfl hf
      list := by rintro ⟨⟩ <;> decide }
  exact ⟨h, hs, ofSettings_eq_compose h hs⟩

end Settings

end WrappedTraining.CommandLine
