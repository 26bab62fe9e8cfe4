import Mathlib.Data.List.Nodup
import WrappedTraining.Proofs.Submission.Completion
import WrappedTraining.Proofs.Submission.Frame
import WrappedTraining.Proofs.Text.Numeral

/-!
# Names of volumes

A build gives its volumes the numbers from zero on and puts them behind the volumes that the job
already has. Within one build no name is given twice, but every build starts over.

* `JobSpec.volumeName_injective`, `JobSpec.names_volumesOf` : the names that are given to volumes;
* `Submission.dataDirs_build` : the volumes that a build adds, wherever it stops;
* `Builder.volumeNames_step`, `Builder.volumeNames_run` : the names after one use of a builder and
  after any number of them;
* `Builder.nodup_volumeNames_iff` : when they are distinct.
-/

namespace WrappedTraining

/-! ### Names -/

namespace JobSpec

/-- The name of the volume with a number. -/
def volumeName (i : Nat) : String := "training-data-" ++ Text.ofNat i

/-- The names of the first volumes. -/
def firstNames (n : Nat) : List String := (List.range n).map volumeName

/-- The names of the volumes of a job. -/
def volumeNames (j : JobSpec) : List String := j.dataDirs.map (·.name)

theorem volumeName_injective : Function.Injective volumeName := by
  intro i k h
  have hnumber : (Text.ofNat i).toList = (Text.ofNat k).toList := by
    have hlist := congrArg String.toList h
    simp only [volumeName, String.toList_append] at hlist
    exact List.append_cancel_left hlist
  have hread := Text.natural?_repr i
  rw [show i.repr.toList = k.repr.toList from hnumber, Text.natural?_repr k] at hread
  exact (Option.some.inj hread).symm

theorem nodup_firstNames (n : Nat) : (firstNames n).Nodup :=
  (List.nodup_map_iff volumeName_injective).2 List.nodup_range

theorem mem_firstNames_iff {n : Nat} {name : String} :
    name ∈ firstNames n ↔ ∃ i < n, volumeName i = name := by
  simp [firstNames]

/-- Two builds give a common name if both of them add a volume. -/
theorem disjoint_firstNames_iff {m n : Nat} :
    (firstNames m).Disjoint (firstNames n) ↔ m = 0 ∨ n = 0 := by
  constructor
  · intro hdisjoint
    by_contra hboth
    obtain ⟨hm, hn⟩ := not_or.1 hboth
    exact hdisjoint (mem_firstNames_iff.2 ⟨0, by omega, rfl⟩)
      (mem_firstNames_iff.2 ⟨0, by omega, rfl⟩)
  · rintro (rfl | rfl)
    · exact List.disjoint_nil_left _
    · exact List.disjoint_nil_right _

/-- Volumes are named by their numbers. -/
theorem names_volumesOf (paths : List (String × String)) :
    (volumesOf paths).map (·.name) = firstNames paths.length := by
  have hname : (fun v : HostVolume => v.name) ∘ (fun p : (String × String) × Nat =>
      ⟨"training-data-" ++ Text.ofNat p.2, p.1.1, p.1.2⟩) = volumeName ∘ Prod.snd := rfl
  rw [volumesOf, List.map_map, hname, ← List.map_map, List.zipIdx_map_snd, firstNames,
    List.range_eq_range']

/-- Names that start over are distinct if they start only once, and no name from before is one of
them. -/
theorem nodup_append_iff {names : List String} {counts : List Nat} :
    (names ++ counts.flatMap firstNames).Nodup ↔ names.Nodup ∧
      counts.Pairwise (fun m n => m = 0 ∨ n = 0) ∧
      ∀ n ∈ counts, ∀ i < n, volumeName i ∉ names := by
  have hgiven : (counts.flatMap firstNames).Nodup ↔
      counts.Pairwise (fun m n => m = 0 ∨ n = 0) := by
    rw [List.nodup_flatMap, and_iff_right fun n _ => nodup_firstNames n]
    exact List.Pairwise.iff fun m n => disjoint_firstNames_iff
  have hbefore : names.Disjoint (counts.flatMap firstNames) ↔
      ∀ n ∈ counts, ∀ i < n, volumeName i ∉ names := by
    constructor
    · intro hdisjoint n hn i hi hmem
      exact hdisjoint hmem (List.mem_flatMap.2 ⟨n, hn, mem_firstNames_iff.2 ⟨i, hi, rfl⟩⟩)
    · intro hnew name hmem hname
      obtain ⟨n, hn, hgiven⟩ := List.mem_flatMap.1 hname
      obtain ⟨i, hi, rfl⟩ := mem_firstNames_iff.1 hgiven
      exact hnew n hn i hi hmem
  rw [List.nodup_append', hgiven, hbefore]

end JobSpec

open JobSpec (firstNames volumeName)

/-! ### The volumes that a build adds -/

/-- Entries that all read give a value each. -/
theorem length_readUntil {α ε : Type} {read : String → Except ε α} {entries : List String}
    (h : (readUntil read entries).2 = none) :
    (readUntil read entries).1.length = entries.length := by
  induction entries with
  | nil => rfl
  | cons entry entries ih =>
    unfold readUntil at h ⊢
    cases hread : read entry with
    | error e => simp [hread] at h
    | ok x =>
      simp only [hread] at h ⊢
      exact congrArg (· + 1) (ih h)

namespace Submission

variable (bag : Bag) (s : Submission)

/-- What a build does before it looks at volumes. -/
def beforeDirs : Outcome :=
  (Outcome.check s s.job.nameFault?)
    |>.andThen (mapJob (·.addEntries bag))
    |>.andThen (addTolerations bag)

/-- What a build does after that. -/
def afterDirs : Outcome :=
  (mapJob (·.addSecrets bag) s)
    |>.andThen (addConfigFiles bag)
    |>.andThen (derive bag)
    |>.andThen fun t =>
      (Outcome.check (t.reconcile bag) (t.reconcile bag).fault?).andThen fun t => .done t.publish

theorem build_eq_dirs : build bag s =
    (beforeDirs bag s).andThen fun t => (addDataDirs bag t).andThen (afterDirs bag) := by
  rw [build_eq, fragments_eq]
  unfold addOptions afterDirs beforeDirs
  simp only [Outcome.andThen_assoc]

/-- The paths of the volumes that a build adds, none if it stops before. -/
def addedDirs : List (String × String) :=
  if (beforeDirs bag s).error? = none then
    (readUntil (colonPair .dataDir) (bag.texts "data-dir")).1
  else []

variable {bag s}

/-- Other stages leave the volumes alone. -/
theorem beforeDirs_keeps : Outcome.Keeps (·.job.dataDirs) (beforeDirs bag) := by
  have hcheck : Outcome.Keeps (·.job.dataDirs) fun s => .check s s.job.nameFault? := fun _ => rfl
  have hentries : Outcome.Keeps (·.job.dataDirs) (mapJob (·.addEntries bag)) := fun _ => rfl
  have htols : Outcome.Keeps (·.job.dataDirs) (addTolerations bag) := fun _ => rfl
  exact (hcheck.andThen hentries).andThen htols

theorem afterDirs_keeps : Outcome.Keeps (·.job.dataDirs) (afterDirs bag) := by
  have hsecrets : Outcome.Keeps (·.job.dataDirs) (mapJob (·.addSecrets bag)) := fun _ => rfl
  have hfiles : Outcome.Keeps (·.job.dataDirs) (addConfigFiles bag) := fun _ => rfl
  have hcounts : Outcome.Keeps (·.job.dataDirs) (mapJob (·.deriveNames.deriveWorkers)) :=
    fun _ => rfl
  have hservices : Outcome.Keeps (·.job.dataDirs) (services bag) :=
    services_keeps (fun _ _ => rfl) (fun _ _ => rfl) bag
  have hcheck : Outcome.Keeps (·.job.dataDirs)
      fun s => .check (s.reconcile bag) (s.reconcile bag).fault? := by
    intro s
    show s.syncReplicas.job.dataDirs = s.job.dataDirs
    unfold syncReplicas
    split <;> rfl
  have hpublish : Outcome.Keeps (·.job.dataDirs) fun s => .done s.publish := fun _ => rfl
  exact ((hsecrets.andThen hfiles).andThen (hcounts.andThen hservices)).andThen
    (hcheck.andThen hpublish)

/-- **The volumes that a build adds**, wherever it stops. -/
theorem dataDirs_build : (build bag s).submission.job.dataDirs =
    s.job.dataDirs ++ JobSpec.volumesOf (addedDirs bag s) := by
  rw [build_eq_dirs, addedDirs]
  cases herror : (beforeDirs bag s).error? with
  | some e =>
    rw [Outcome.andThen_of_error _ herror, if_neg (by simp)]
    exact (beforeDirs_keeps s).trans (List.append_nil _).symm
  | none =>
    rw [Outcome.andThen_of_none _ herror, afterDirs_keeps.submission_andThen, if_pos rfl]
    exact congrArg (· ++ _) (beforeDirs_keeps s)

/-- A build that succeeds adds a volume for each of its entries. -/
theorem length_addedDirs (h : (build bag s).error? = none) :
    (addedDirs bag s).length = (bag.texts "data-dir").length := by
  rw [build_eq_dirs, Outcome.error?_andThen_eq_none_iff, Outcome.error?_andThen_eq_none_iff] at h
  obtain ⟨hbefore, hdirs, -⟩ := h
  rw [addedDirs, if_pos hbefore]
  exact length_readUntil hdirs

end Submission

namespace Builder

variable {b built start : Builder} {history : List Step}

/-! ### Runs of a builder -/

/-- The names of the volumes of the submission. -/
def volumeNames (b : Builder) : List String := b.submission.job.volumeNames

/-- The number of volumes that a step adds. -/
def mounted (b : Builder) : Step → Nat
  | .build => (b.submission.addedDirs b.bag).length
  | _ => 0

/-- The numbers of volumes that the steps of a run add. -/
def mountedBy (b : Builder) : List Step → List Nat
  | [] => []
  | st :: history => b.mounted st :: (b.step st).mountedBy history

theorem mounted_of_build (h : b.build = (built, none)) :
    b.mounted .build = (b.bag.texts "data-dir").length :=
  Submission.length_addedDirs (congrArg Prod.snd h)

/-- **The names after one use of a builder.** -/
theorem volumeNames_step (b : Builder) {st : Step} (h : st.IsOwn) :
    (b.step st).volumeNames = b.volumeNames ++ firstNames (b.mounted st) := by
  cases st with
  | edit f => cases h
  | add name v => exact (List.append_nil _).symm
  | preBuild =>
    have hkept : b.preBuild.1.submission.job.dataDirs = b.submission.job.dataDirs := by
      rw [submission_preBuild]
      rfl
    exact (congrArg (List.map (·.name)) hkept).trans (List.append_nil _).symm
  | build =>
    show ((b.submission.build b.bag).submission.job.dataDirs).map (·.name) = _
    rw [Submission.dataDirs_build, List.map_append, JobSpec.names_volumesOf]
    rfl
  | check => exact (List.append_nil _).symm

/-- **The names after any number of uses.** -/
theorem volumeNames_run (hown : ∀ st ∈ history, st.IsOwn) (start : Builder) :
    (start.run history).volumeNames =
      start.volumeNames ++ (start.mountedBy history).flatMap firstNames := by
  induction history generalizing start with
  | nil => exact (List.append_nil _).symm
  | cons st history ih =>
    obtain ⟨hst, hrest⟩ := List.forall_mem_cons.1 hown
    show ((start.step st).run history).volumeNames = _
    rw [ih hrest, volumeNames_step start hst, mountedBy, List.flatMap_cons, List.append_assoc]

/-- **When the names of volumes are distinct.** After a build that succeeds they are distinct
exactly if they were before and none of the names that the build gives, one for each entry, is there
already. After any number of uses they are distinct exactly if they were at the start, at most one
of the builds has added volumes, and no name that it gave was there at the start. -/
theorem nodup_volumeNames_iff (hown : ∀ st ∈ history, st.IsOwn) (start : Builder) :
    (∀ built, start.build = (built, none) →
      (built.volumeNames.Nodup ↔ start.volumeNames.Nodup ∧
        ∀ i < (start.bag.texts "data-dir").length, volumeName i ∉ start.volumeNames)) ∧
    ((start.run history).volumeNames.Nodup ↔ start.volumeNames.Nodup ∧
      (start.mountedBy history).Pairwise (fun m n => m = 0 ∨ n = 0) ∧
      ∀ n ∈ start.mountedBy history, ∀ i < n, volumeName i ∉ start.volumeNames) := by
  constructor
  · intro built hbuilt
    have hone : ∀ st ∈ [Step.build], st.IsOwn := List.forall_mem_singleton.2 trivial
    have hrun : start.run [.build] = built := congrArg Prod.fst hbuilt
    have hnames : (start.run [.build]).volumeNames =
        start.volumeNames ++ [start.mounted .build].flatMap firstNames := volumeNames_run hone start
    rw [hrun, mounted_of_build hbuilt] at hnames
    rw [hnames, JobSpec.nodup_append_iff, List.forall_mem_singleton,
      and_iff_right (List.pairwise_singleton _ _)]
  · rw [volumeNames_run hown]
    exact JobSpec.nodup_append_iff

/-- A builder whose job has a volume with the name, and that adds two more. -/
def mounting (name : String) : Builder :=
  (Builder.new { Submission.initial with
    job := { JobSpec.initial with
      name := "demo", image := "x", dataDirs := [⟨name, "/old", "/mnt/old"⟩] } }).add "data-dir"
    (.texts ["/a:/mnt/a", "/b:/mnt/b"])

/-- Of two builds the first adds volumes beside the one that the job has, and the second adds none
because its entries were taken back. -/
theorem nodup_volumeNames_iff_taken_back :
    let start := mounting "scratch"
    let history := [.build, .add "data-dir" (.texts []), .preBuild, .check, .build]
    (∀ st ∈ history, st.IsOwn) ∧
      (start.run history).volumeNames = ["scratch", "training-data-0", "training-data-1"] ∧
      (start.run history).volumeNames.Nodup := by
  intro start history
  have hown : ∀ st ∈ history, st.IsOwn := by
    simp [history, Step.IsOwn]
  refine ⟨hown, by decide +kernel, ((nodup_volumeNames_iff hown start).2).2 ?_⟩
  decide +kernel

/-- A second build gives the same names again, and so does the first if the job comes with one of
them. -/
theorem volumeNames_given_twice :
    let twice := mounting "scratch"
    let carrying := mounting "training-data-1"
    (twice.volumeNames.Nodup ∧ twice.build.2 = none ∧ twice.build.1.build.2 = none ∧
        ¬twice.build.1.build.1.volumeNames.Nodup) ∧
      carrying.volumeNames.Nodup ∧ carrying.build.2 = none ∧
        ¬carrying.build.1.volumeNames.Nodup := by
  decide +kernel

end Builder

end WrappedTraining
