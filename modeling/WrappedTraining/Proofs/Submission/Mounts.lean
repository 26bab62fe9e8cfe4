import WrappedTraining.Proofs.Path.Places
import WrappedTraining.Proofs.Submission.Logs

/-!
# Mounts that hold the logs

The dashboard keeps its logs on a data set when the components of a mount are the first of those of
the log directory. The log directory need not lead to a place below that mount: a `..` in it can
lead out again, and the empty text has no components at all, so that it stands before every path.

* `Bag.mounts` : the mounts that are published, and `Submission.eq_completed_of_buildDashboard` :
  what completing the dashboard makes of them;
* `Submission.isAbsolute_logDir` : the log directory is absolute when the dashboard is complete;
* `Submission.logs_on_mounts` : when logs are kept on a data set, and which mounts hold them.
-/

namespace WrappedTraining

/-- The mounts that are published, none if nothing is. -/
def Bag.mounts (bag : Bag) : Dict String := (bag.dict? Bag.dataSetMounts).getD .empty

namespace Submission

variable {bag : Bag} {s t : Submission}

/-- To publish nothing is to publish no mount. -/
theorem buildDashboard_of_none (h : bag.dict? Bag.dataSetMounts = none) (s : Submission) :
    buildDashboard bag s = buildDashboard (bag.insert Bag.dataSetMounts (.dict .empty)) s := by
  have hlogs : ∀ s : Submission, s.logsOnDataSet bag =
      s.logsOnDataSet (bag.insert Bag.dataSetMounts (.dict .empty)) := by
    intro s
    rw [logsOnDataSet, logsOnDataSet, h, Bag.dict?_insert_dict, if_pos rfl]
    rfl
  simp only [buildDashboard, placeLogs, hlogs]

/-- **What completing the dashboard makes of a submission**, whether or not mounts are published. -/
theorem eq_completed_of_buildDashboard (h : (buildDashboard bag s).result = .ok t) :
    t = { s with dashboard := s.dashboard.completed bag.mounts s.job.name } := by
  unfold Bag.mounts
  cases hmounts : bag.dict? Bag.dataSetMounts with
  | some mounts => exact eq_of_buildDashboard hmounts h
  | none =>
    rw [buildDashboard_of_none hmounts] at h
    exact eq_of_buildDashboard (by rw [Bag.dict?_insert_dict, if_pos rfl, Option.getD_none]) h

theorem isAbsolute_logDir (h : (buildDashboard bag s).result = .ok t)
    (hon : s.dashboard.enabled = true) : Path.isAbsolute t.dashboard.logDir := by
  have herror := (Outcome.result_eq_ok_iff.1 h).1
  rw [error?_buildDashboard, ite_eq_right_iff] at herror
  rw [eq_completed_of_buildDashboard h, Dashboard.logDir_completed hon, Path.isAbsolute,
    decide_eq_true_iff]
  by_contra hrelative
  cases herror ⟨hon, hrelative⟩

/-- **Which mounts hold the logs.** A dashboard that is off is left as it is. When it is on and
completed, logs are said to be on a data set exactly if a mount is empty, or an absolute path whose
components are the first of those of the log directory. Such a mount does hold the logs unless it is
empty or the log directory strays from it. So some mount holds them whenever they are said to be on
a data set, no mount is empty and the log directory has no `..`. -/
theorem logs_on_mounts (h : (buildDashboard bag s).result = .ok t) :
    (s.dashboard.enabled = false → t = s) ∧
    (s.dashboard.enabled = true →
      (t.dashboard.isLocal = false ↔ ∃ m ∈ bag.mounts.values, m = "" ∨
        ∃ ms ns, Path.Components m ("/" :: ms) ∧
          Path.Components t.dashboard.logDir ("/" :: (ms ++ ns))) ∧
      (∀ m, Path.Contains m t.dashboard.logDir →
        (Path.Encloses m t.dashboard.logDir ↔
          m ≠ "" ∧ ¬Path.Strays m t.dashboard.logDir)) ∧
      (t.dashboard.isLocal = false → "" ∉ bag.mounts.values →
        (∀ ns, Path.Components t.dashboard.logDir ns → ".." ∉ ns) →
        ∃ m ∈ bag.mounts.values, Path.Encloses m t.dashboard.logDir)) := by
  have hcompleted := eq_completed_of_buildDashboard h
  refine ⟨fun hoff => ?_, fun hon => ?_⟩
  · rw [hcompleted, Dashboard.completed, if_neg (by rw [hoff]; exact Bool.false_ne_true)]
  have habs := isAbsolute_logDir h hon
  have hlocal : t.dashboard.isLocal = false ↔
      ∃ m ∈ bag.mounts.values, Path.Contains m t.dashboard.logDir := by
    rw [hcompleted]
    exact Dashboard.isLocal_completed_iff hon
  refine ⟨?_, fun m hm => Path.encloses_iff habs hm, fun hshared hempty hstraight => ?_⟩
  · simp only [hlocal, Path.contains_iff habs]
  · obtain ⟨m, hmem, hcontains⟩ := hlocal.1 hshared
    have hne : m ≠ "" := ne_of_mem_of_not_mem hmem hempty
    exact ⟨m, hmem,
      (Path.encloses_iff habs hcontains).2 ⟨hne, Path.not_strays_of_notMem hstraight⟩⟩

/-- A submission that keeps its logs in a directory. -/
def loggingTo (logDir : String) : Submission :=
  { initial with dashboard := { Dashboard.initial with enabled := true, logDir := logDir } }

/-- The logs are below the mount although their directory leaves another one below it. -/
theorem logs_on_mounts_winding :
    let bag := Bag.empty.insert Bag.dataSetMounts (.dict (.ofList [("p", "/data")]))
    ∃ t, (buildDashboard bag (loggingTo "/data/old/../logs")).result = .ok t ∧
      t.dashboard.isLocal = false ∧ Path.Encloses "/data" t.dashboard.logDir := by
  intro bag
  have hsucceeds : (buildDashboard bag (loggingTo "/data/old/../logs")).error? = none := by
    decide +kernel
  obtain ⟨t, ht⟩ := Outcome.exists_result_eq_ok_iff.2 hsucceeds
  obtain ⟨hlocal, hholds, -⟩ := (logs_on_mounts ht).2 rfl
  have hdir : t.dashboard.logDir = "/data/old/../logs" := by
    rw [eq_completed_of_buildDashboard ht]
    decide +kernel
  rw [hdir] at hlocal hholds
  have hmount : Path.Components "/data" ("/" :: ["data"]) := Path.components_iff.2 (by decide)
  have hlogs : Path.Components "/data/old/../logs" ("/" :: (["data"] ++ ["old", "..", "logs"])) :=
    Path.components_iff.2 (by decide)
  have hstays : ¬Path.Strays "/data" "/data/old/../logs" := fun hstrays =>
    absurd (hstrays.not_comesBack hmount hlogs) (by decide)
  have hencloses : Path.Encloses "/data" "/data/old/../logs" :=
    (hholds "/data" ⟨_, _, hmount, hlogs⟩).2 ⟨by decide, hstays⟩
  refine ⟨t, ht, hlocal.2 ⟨"/data", by decide +kernel, .inr ⟨_, _, hmount, hlogs⟩⟩, ?_⟩
  rw [hdir]
  exact hencloses

/-- Logs are said to be on a data set, and no mount holds them: their directory strays from the only
mount, or the only mount is empty. -/
theorem logs_outside_mounts :
    let holding (mount : String) : Bag :=
      Bag.empty.insert Bag.dataSetMounts (.dict (.ofList [("p", mount)]))
    let astray (mount logDir : String) : Prop :=
      ∃ t, (buildDashboard (holding mount) (loggingTo logDir)).result = .ok t ∧
        t.dashboard.isLocal = false ∧
        ∀ m ∈ (holding mount).mounts.values, ¬Path.Encloses m t.dashboard.logDir
    astray "/data" "/data/../logs" ∧ astray "" "/training_logs" := by
  intro holding astray
  constructor
  · refine ⟨_, Outcome.result_eq_ok_iff.2 ⟨by decide +kernel, rfl⟩, by decide +kernel, ?_⟩
    intro m hm
    have hmounts : (holding "/data").mounts.values = ["/data"] := by decide +kernel
    obtain rfl := List.mem_singleton.1 (hmounts ▸ hm)
    have hmount : Path.Components "/data" ("/" :: ["data"]) := Path.components_iff.2 (by decide)
    have hlogs : Path.Components "/data/../logs" ("/" :: (["data"] ++ ["..", "logs"])) :=
      Path.components_iff.2 (by decide)
    intro hencloses
    exact absurd ((Path.encloses_iff_comesBack hmount hlogs).1 hencloses) (by decide)
  · refine ⟨_, Outcome.result_eq_ok_iff.2 ⟨by decide +kernel, rfl⟩, by decide +kernel, ?_⟩
    intro m hm
    have hmounts : (holding "").mounts.values = [""] := by decide +kernel
    obtain rfl := List.mem_singleton.1 (hmounts ▸ hm)
    exact Path.not_encloses_empty _

end Submission

end WrappedTraining
