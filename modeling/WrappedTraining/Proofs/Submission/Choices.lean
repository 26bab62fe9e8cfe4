import Mathlib.Logic.Function.Basic
import WrappedTraining.Proofs.Submission.Alike
import WrappedTraining.Submission.Setting

/-!
# What settings choose

A list of settings changes an initial submission step by step. What it comes to is easier to say
slot by slot: a setting either chooses one value for one `Slot`, or nothing at all
(`Setting.choice?`), and `Choices` holds a value for every slot.

* `Choices.Describes` : a builder has the submission and the deferred options of some choices;
* `Choices.Describes.apply` : taking a setting into account is making its choice;
* `Choices.makeAll_eq` : settings that agree with some choices, and make all of them that differ
  from the start, end in these choices in any order and with any repetitions.
-/

namespace WrappedTraining

/-- Something that a setting can choose. -/
inductive Slot where
  | text (field : TextSetting)
  | count (field : CountSetting)
  | limit (field : LimitSetting)
  | deadlineSeconds
  | command
  | isOn (field : SwitchSetting)
  | useServicePlugin
  /-- The entries of a deferred option. -/
  | entries (name : String)
deriving DecidableEq

/-- What is chosen for a slot. -/
abbrev Slot.Value : Slot → Type
  | .text _ => String
  | .count _ => Int32
  | .limit _ => Int32
  | .deadlineSeconds => Int64
  | .command => String
  | .isOn _ => Bool
  | .useServicePlugin => Option Bool
  | .entries _ => List String

/-- One choice: a slot and the value that is chosen for it. -/
abbrev Choice := (i : Slot) × i.Value

/-- What a setting chooses, if it chooses anything. -/
def Setting.choice? : Setting → Option Choice
  | .text field v => if v = "" then none else some ⟨.text field, v⟩
  | .count field n => if 0 < n then some ⟨.count field, n⟩ else none
  | .limit field n => if 0 ≤ n then some ⟨.limit field, n⟩ else none
  | .deadlineSeconds n => if 0 < n then some ⟨.deadlineSeconds, n⟩ else none
  | .command words => some ⟨.command, Setting.commandText words⟩
  | .switchOn field => some ⟨.isOn field, true⟩
  | .useServicePlugin on => some ⟨.useServicePlugin, some on⟩
  | .pairs field ps =>
    if ps = [] then none
    else some ⟨.entries field.option, ps.map (Setting.entryOf field.separator)⟩
  | .list field es => some ⟨.entries field.option, es⟩

/-- A value for every slot. -/
abbrev Choices := (i : Slot) → i.Value

namespace Choices

/-- The submission with these choices. -/
def submission (c : Choices) : Submission where
  cpu := c (.text .cpu)
  memory := c (.text .memory)
  job :=
    { JobSpec.initial with
      name := c (.text .name)
      namespaceName := c (.text .namespaceName)
      image := c (.text .image)
      command := c .command
      shell := c (.text .shell)
      workingDir := c (.text .workingDir)
      gpuCount := c (.count .gpus)
      workerCount := c (.count .workers)
      priorityClass := c (.text .priorityClass)
      enableRdma := c (.isOn .rdma)
      coscheduling := c (.isOn .coscheduling)
      schedulerName := c (.text .schedulerName) }
  dashboard :=
    { Dashboard.initial with
      enabled := c (.isOn .dashboard)
      image := c (.text .dashboardImage)
      logDir := c (.text .logDir) }
  sync := ⟨c (.text .syncMode), c (.text .syncSource), c (.text .syncImage), ""⟩
  policy :=
    ⟨c (.text .cleanPods), c .deadlineSeconds, c (.count .ttlSeconds), c (.text .shareMemory),
      c (.text .procsPerNode)⟩
  queueName := c (.text .queueName)
  faults :=
    ⟨c (.limit .retryLimit), c (.text .admissionGracePeriod), c (.text .warmupGracePeriod),
      c (.text .failureGracePeriod), c (.text .retryPausePeriod), c (.text .successTtl)⟩
  innerType := c (.text .innerType)
  task :=
    ⟨c (.count .minAvailable), c (.text .taskName), c (.limit .maxRetry), c (.count .replicas),
      c (.count .masterPort), c .useServicePlugin⟩
  topology := ⟨c (.text .topologyMode), c (.count .highestTier)⟩
  totalPartitions := c (.count .totalPartitions)
  partitionSize := c (.count .partitionSize)
  partitionTopology := ⟨c (.text .partitionTopologyMode), c (.count .partitionHighestTier)⟩
  ringController := c (.text .ringController)

/-- A builder has the submission and the deferred options of the choices, and nothing else. -/
structure Describes (c : Choices) (b : Builder) : Prop where
  submission : b.submission = c.submission
  texts : ∀ k, b.bag.texts k = c (.entries k)
  span? : ∀ k, b.bag.span? k = none
  dict? : ∀ k, b.bag.dict? k = none

/-- Make a choice. The first command that is not empty stays. -/
def choose (c : Choices) (p : Choice) : Choices :=
  if p.1 = .command ∧ c .command ≠ "" then c else Function.update c p.1 p.2

/-- Make the choice of a setting. -/
def make (c : Choices) (x : Setting) : Choices :=
  match x.choice? with
  | none => c
  | some p => c.choose p

/-! ### Settings make their choices -/

variable {c : Choices}

theorem submission_text (c : Choices) (f : TextSetting) (v : String) :
    submission (Function.update c (.text f) v) = f.set v c.submission := by
  cases f <;> rfl

theorem submission_count (c : Choices) (f : CountSetting) (n : Int32) :
    submission (Function.update c (.count f) n) = f.set n c.submission := by
  cases f <;> rfl

theorem submission_limit (c : Choices) (f : LimitSetting) (n : Int32) :
    submission (Function.update c (.limit f) n) = f.set n c.submission := by
  cases f <;> rfl

theorem submission_isOn (c : Choices) (f : SwitchSetting) :
    submission (Function.update c (.isOn f) true) = f.set c.submission := by
  cases f <;> rfl

variable {b : Builder} {x : Setting} {i : Slot} {v : i.Value}

theorem make_of_none (hx : x.choice? = none) : c.make x = c := by
  unfold make
  rw [hx]

theorem make_of_some (hx : x.choice? = some ⟨i, v⟩) (hi : i ≠ .command) :
    c.make x = Function.update c i v := by
  unfold make choose
  rw [hx]
  exact if_neg fun hp => hi hp.1

theorem make_command (words : List String) :
    c.make (.command words) =
      if c .command = "" then Function.update c .command (Setting.commandText words) else c := by
  by_cases h : c .command = "" <;> simp [make, choose, Setting.choice?, h]

/-- A choice for another slot than a deferred option changes the submission alone. -/
theorem Describes.onSubmission (h : c.Describes b) {f : Submission → Submission}
    (hi : ∀ k, .entries k ≠ i)
    (hf : Choices.submission (Function.update c i v) = f c.submission) :
    Choices.Describes (Function.update c i v) (Setting.onSubmission f b) where
  submission := by
    rw [hf, ← h.submission]
    rfl
  texts k := by
    rw [Function.update_of_ne (hi k)]
    exact h.texts k
  span? := h.span?
  dict? := h.dict?

/-- A choice of entries changes the deferred options alone. -/
theorem Describes.add (h : c.Describes b) (name : String) (es : List String) :
    Choices.Describes (Function.update c (.entries name) es) (b.add name (.texts es)) where
  submission := h.submission
  texts k := by
    show (b.bag.insert name (.texts es)).texts k = _
    rw [Bag.texts_insert_texts]
    by_cases hk : k = name
    · subst hk
      rw [if_pos rfl, Function.update_self]
    · have hne : Slot.entries k ≠ Slot.entries name := by simpa using hk
      rw [if_neg hk, Function.update_of_ne hne]
      exact h.texts k
  span? k := by
    show (b.bag.insert name (.texts es)).span? k = none
    rw [Bag.span?_insert_texts, h.span?, ite_self]
  dict? k := by
    show (b.bag.insert name (.texts es)).dict? k = none
    rw [Bag.dict?_insert_texts, h.dict?, ite_self]

/-- A setting that chooses nothing changes nothing. -/
theorem Describes.skip (h : c.Describes b) (hx : x.choice? = none) (hb : x.apply b = b) :
    (c.make x).Describes (x.apply b) := by
  rw [make_of_none hx, hb]
  exact h

/-- A setting that changes the submission as its choice does. -/
theorem Describes.set (h : c.Describes b) {f : Submission → Submission}
    (hx : x.choice? = some ⟨i, v⟩) (hb : x.apply b = Setting.onSubmission f b)
    (hi : ∀ k, .entries k ≠ i) (hcommand : i ≠ .command)
    (hf : Choices.submission (Function.update c i v) = f c.submission) :
    (c.make x).Describes (x.apply b) := by
  rw [make_of_some hx hcommand, hb]
  exact h.onSubmission hi hf

/-- A setting that defers the entries that it chooses. -/
theorem Describes.defer (h : c.Describes b) {name : String} {es : List String}
    (hx : x.choice? = some ⟨.entries name, es⟩) (hb : x.apply b = b.add name (.texts es)) :
    (c.make x).Describes (x.apply b) := by
  rw [make_of_some hx nofun, hb]
  exact h.add name es

/-- **Taking a setting into account is making its choice.** -/
theorem Describes.apply (h : c.Describes b) (x : Setting) : (c.make x).Describes (x.apply b) := by
  -- a setting that leaves the default in place is one that chooses nothing
  cases x with
  | text f v =>
    by_cases hv : v = ""
    · exact h.skip (if_pos hv) (if_pos hv)
    · exact h.set (if_neg hv) (if_neg hv) nofun nofun (submission_text c f v)
  | count f n =>
    by_cases hn : 0 < n
    · exact h.set (if_pos hn) (if_pos hn) nofun nofun (submission_count c f n)
    · exact h.skip (if_neg hn) (if_neg hn)
  | limit f n =>
    by_cases hn : 0 ≤ n
    · exact h.set (if_pos hn) (if_pos hn) nofun nofun (submission_limit c f n)
    · exact h.skip (if_neg hn) (if_neg hn)
  | deadlineSeconds n =>
    by_cases hn : 0 < n
    · exact h.set (if_pos hn) (if_pos hn) nofun nofun rfl
    · exact h.skip (if_neg hn) (if_neg hn)
  | command words =>
    have hcommand : b.submission.job.command = c .command :=
      congrArg (fun s : Submission => s.job.command) h.submission
    rw [make_command, Setting.apply, hcommand]
    split
    · exact h.onSubmission nofun rfl
    · exact h
  | switchOn field =>
    exact h.set (f := fun s => field.set s) rfl rfl nofun nofun (submission_isOn c field)
  | useServicePlugin on =>
    exact h.set (f := fun s => { s with task := { s.task with useServicePlugin := some on } })
      rfl rfl nofun nofun rfl
  | pairs f ps =>
    by_cases hps : ps = []
    · exact h.skip (if_pos hps) (if_pos hps)
    · exact h.defer (if_neg hps) (if_neg hps)
  | list f es => exact h.defer rfl rfl

/-! ### Lists of settings -/

/-- Make the choices of some settings, one after the other. -/
def makeAll (c : Choices) (xs : List Setting) : Choices := xs.foldl make c

theorem Describes.applyAll {b : Builder} (h : c.Describes b) (xs : List Setting) :
    (c.makeAll xs).Describes (xs.foldl Setting.apply b) := by
  induction xs generalizing c b with
  | nil => exact h
  | cons x xs ih => exact ih (h.apply x)

/-- A choice leaves the value of a slot as it is, or makes it the chosen one. -/
theorem make_eq_or_eq {d : Choices} {x : Setting} (h : ∀ p, x.choice? = some p → p.2 = d p.1)
    (i : Slot) : c.make x i = c i ∨ c.make x i = d i := by
  unfold make
  cases hx : x.choice? with
  | none => exact .inl rfl
  | some p =>
    simp only [choose]
    split
    · exact .inl rfl
    · by_cases hi : i = p.1
      · subst hi
        rw [Function.update_self]
        exact .inr (h p hx)
      · exact .inl (Function.update_of_ne hi _ _)

/-- A choice is in place after it was made; for a command only if none other stood there. -/
theorem make_eq_of_choice? {x : Setting} {i : Slot} {v : i.Value} (hx : x.choice? = some ⟨i, v⟩)
    (h : i = .command → c .command ≠ "" → c i = v) : c.make x i = v := by
  simp only [make, hx, choose]
  split
  · rename_i hcommand
    exact h hcommand.1 hcommand.2
  · exact Function.update_self _ _ _

/-- **Settings end in the choices that they agree with**, in any order and with any repetitions, if
they make all of them that differ from the start. -/
theorem makeAll_eq {d : Choices} {xs : List Setting}
    (hagree : ∀ x ∈ xs, ∀ p, x.choice? = some p → p.2 = d p.1)
    (hmade : ∀ i, c i = d i ∨ ∃ x ∈ xs, x.choice? = some ⟨i, d i⟩)
    (hcommand : c .command = "" ∨ c .command = d .command) : c.makeAll xs = d := by
  induction xs generalizing c with
  | nil =>
    funext i
    rcases hmade i with hi | ⟨x, hx, -⟩
    · exact hi
    · cases hx
  | cons x xs ih =>
    obtain ⟨hx, hxs⟩ := List.forall_mem_cons.1 hagree
    refine ih hxs (fun i => ?_) ?_
    · -- a slot that has its value keeps it, and one that `x` is for gets it now
      rcases hmade i with hi | ⟨y, hy, hchoice⟩
      · rcases make_eq_or_eq (c := c) hx i with hkeep | hset
        · exact .inl (hkeep.trans hi)
        · exact .inl hset
      · rcases List.mem_cons.1 hy with rfl | hy
        · refine .inl (make_eq_of_choice? hchoice ?_)
          rintro rfl hne
          exact hcommand.resolve_left hne
        · exact .inr ⟨y, hy, hchoice⟩
    · rcases make_eq_or_eq (c := c) hx .command with hkeep | hset
      · rw [hkeep]
        exact hcommand
      · exact .inr hset

end Choices

end WrappedTraining
