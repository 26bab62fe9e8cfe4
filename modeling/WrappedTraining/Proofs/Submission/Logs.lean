import WrappedTraining.Proofs.Path
import WrappedTraining.Proofs.Submission.Rebuild

/-!
# Where logs are kept

The logs of the dashboard are kept on a data set if one is mounted at their directory or above it,
and on the host if none is. Which data sets there are is known after the deferred options were read,
and the dashboard is completed later.

* `Dashboard.isLocal_completed_iff` : a dashboard that is complete, for any mounts;
* `Builder.dashboard_of_finish` : the mounts are those of the finished job itself;
* `Builder.logs_of_finish` : where the logs of a finished submission are kept.
-/

namespace WrappedTraining

namespace Dashboard

variable {d : Dashboard} {mounts : Dict String} {name : String}

theorem logDir_completed (h : d.enabled = true) :
    (d.completed mounts name).logDir = d.givenLogDir := by
  rw [completed, if_pos h]
  split <;> rfl

/-- Logs are on the host unless a mount contains their directory. -/
theorem isLocal_completed_iff (h : d.enabled = true) :
    (d.completed mounts name).isLocal = false ↔
      ∃ m ∈ mounts.values, Path.Contains m (d.completed mounts name).logDir := by
  have hany : mounts.values.any (Path.isBelow d.givenLogDir) = true ↔
      ∃ m ∈ mounts.values, Path.Contains m d.givenLogDir := by
    simp only [List.any_eq_true, Path.isBelow_iff]
  rw [logDir_completed h, ← hany, completed, if_pos h]
  split
  · next hbelow => simp [hbelow]
  · next hbelow => simp [hbelow]

theorem hostLogPath_completed (h : d.enabled = true)
    (hlocal : (d.completed mounts name).isLocal = true) :
    (d.completed mounts name).hostLogPath = "/arena_logs/training-" ++ name := by
  rw [completed, if_pos h] at hlocal ⊢
  split at hlocal
  · cases hlocal
  · next hbelow => rw [if_neg hbelow]

end Dashboard

namespace Builder

variable {b : Builder} {r : Submission}

/-- The dashboard of a finished submission is complete, for the data sets of the finished job. -/
theorem dashboard_of_finish (h : b.finish = .ok r) :
    r.dashboard = b.submission.dashboard.completed r.job.dataSets r.job.name := by
  rw [eq_built_of_finish h]
  rfl

theorem isLocal_iff_of_finish (h : b.finish = .ok r) (hon : b.submission.dashboard.enabled = true) :
    r.dashboard.isLocal = false ↔
      ∃ m ∈ r.job.dataSets.values, Path.Contains m r.dashboard.logDir := by
  rw [dashboard_of_finish h]
  exact Dashboard.isLocal_completed_iff hon

/-- **Where logs are kept.** When the data sets are taken over and the build succeeds, with the
dashboard on, logs are on a data set exactly if the components of some mount of the finished job are
the first of those of the log directory. Nothing but the directory and the set of mounts matters,
and a mount that only stops short of the directory is none of these. Else the logs are on the host,
in a directory of the job. -/
theorem logs_of_finish (h : b.finish = .ok r) (hon : b.submission.dashboard.enabled = true) :
    (r.dashboard.isLocal = false ↔ ∃ m ∈ r.job.dataSets.values,
      ∃ ms ns, Path.Components m ms ∧ Path.Components r.dashboard.logDir (ms ++ ns)) ∧
    (∀ (b' : Builder) (r' : Submission), b'.finish = .ok r' →
      b'.submission.dashboard.enabled = true → r'.dashboard.logDir = r.dashboard.logDir →
      (∀ m, m ∈ r'.job.dataSets.values ↔ m ∈ r.job.dataSets.values) →
      r'.dashboard.isLocal = r.dashboard.isLocal) ∧
    (r.dashboard.isLocal = false ↔ ∃ m ∈ r.job.dataSets.values,
      ¬Path.StopsShort m r.dashboard.logDir ∧ Path.Contains m r.dashboard.logDir) ∧
    (r.dashboard.isLocal = true →
      r.dashboard.hostLogPath = "/arena_logs/training-" ++ r.job.name) := by
  have hlocal := isLocal_iff_of_finish h hon
  refine ⟨hlocal, fun b' r' h' hon' hdir hmounts => ?_, ?_, fun hhost => ?_⟩
  · have hsame : r'.dashboard.isLocal = false ↔ r.dashboard.isLocal = false := by
      simp only [isLocal_iff_of_finish h' hon', hlocal, hdir, hmounts]
    cases hcase : r.dashboard.isLocal with
    | false => exact hsame.2 hcase
    | true =>
      rw [← Bool.not_eq_false, hsame, hcase]
      exact Bool.noConfusion
  · rw [hlocal]
    constructor
    · rintro ⟨m, hm, hcontains⟩
      exact ⟨m, hm, fun hshort => hshort.not_contains hcontains, hcontains⟩
    · rintro ⟨m, hm, -, hcontains⟩
      exact ⟨m, hm, hcontains⟩
  · rw [dashboard_of_finish h] at hhost ⊢
    exact Dashboard.hostLogPath_completed hon hhost

/-- A data set at a directory above the logs, with slashes to spare, and one at a sibling of it. -/
theorem logs_of_finish_sibling :
    let demo (entry : String) := (Builder.new { Submission.initial with
      job := { JobSpec.initial with name := "demo", image := "x" }
      dashboard := { Dashboard.initial with enabled := true, logDir := "/data/runs/./a" } }).add
        "data" (.texts [entry])
    ∃ r r', (demo "p:/data//runs/").finish = .ok r ∧ (demo "p:/data/run").finish = .ok r' ∧
      r.dashboard.isLocal = false ∧ r'.dashboard.isLocal = true ∧
      r'.dashboard.hostLogPath = "/arena_logs/training-demo" := by
  intro demo
  have hsucceeds : (demo "p:/data//runs/").Succeeds ∧ (demo "p:/data/run").Succeeds := by
    decide +kernel
  obtain ⟨⟨r, hr⟩, r', hr'⟩ := hsucceeds
  obtain ⟨habove, -, -, -⟩ := logs_of_finish hr rfl
  obtain ⟨-, -, hshort, hhost⟩ := logs_of_finish hr' rfl
  have hbuilt := eq_built_of_finish hr
  have hbuilt' := eq_built_of_finish hr'
  have hmounts : r.job.dataSets.values = ["/data//runs/"] ∧
      r.dashboard.logDir = "/data/runs/./a" := by
    rw [hbuilt]
    decide +kernel
  have hmounts' : r'.job.dataSets.values = ["/data/run"] ∧
      r'.dashboard.logDir = "/data/runs/./a" ∧ r'.job.name = "demo" := by
    rw [hbuilt']
    decide +kernel
  have hlocal : r'.dashboard.isLocal = true := by
    rw [← Bool.not_eq_false, hshort, hmounts'.1, hmounts'.2.1]
    rintro ⟨m, hm, hnot, -⟩
    obtain rfl := List.mem_singleton.1 hm
    exact hnot ⟨"/data", "run", "s/./a", by decide, by decide, by decide, by decide, by decide⟩
  refine ⟨r, r', hr, hr', habove.2 ?_, hlocal, ?_⟩
  · rw [hmounts.1, hmounts.2]
    exact ⟨_, List.mem_singleton_self _, ["/", "data", "runs"], ["a"],
      Path.components_iff.2 (by decide), Path.components_iff.2 (by decide)⟩
  · rw [hhost hlocal, hmounts'.2.2]
    decide

end Builder

end WrappedTraining
