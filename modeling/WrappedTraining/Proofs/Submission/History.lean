import WrappedTraining.Proofs.Submission.Stages

/-!
# Histories of a builder

A builder can be used in any order: options are deferred, the submission is edited, and stages run,
some of which fail and leave the submission as far as they got.

* `Builder.Step`, `Builder.run` : one use of a builder, and uses one after the other;
* `Builder.result` : what a build makes of the builder (`Builder.result_eq_ok_iff`);
* `Builder.finish_eq_ok_iff` : when taking over the data sets and building succeeds.
-/

namespace WrappedTraining

namespace Builder

/-- One use of a builder. -/
inductive Step where
  /-- An option is deferred. -/
  | add (name : String) (v : OptionValue)
  /-- The submission is changed from outside. -/
  | edit (f : Submission → Submission)
  /-- The data sets are taken over. -/
  | preBuild
  /-- The submission is completed. -/
  | build
  /-- The submission is checked, which changes nothing. -/
  | check

/-- The builder after one use, which may have failed. -/
def step (b : Builder) : Step → Builder
  | .add name v => b.add name v
  | .edit f => { b with submission := f b.submission }
  | .preBuild => b.preBuild.1
  | .build => b.build.1
  | .check => b

/-- The builder after some uses. -/
def run (b : Builder) (history : List Step) : Builder := history.foldl step b

/-- The submission of a build, or the error that ended it. -/
def result (b : Builder) : Except Submission.Error Submission :=
  (b.submission.build b.bag).result

/-- A build that succeeds leaves its result in the builder. -/
theorem result_eq_ok_iff {b : Builder} {r : Submission} :
    b.result = .ok r ↔ b.build = ({ b with submission := r }, none) := by
  unfold result build
  rw [Outcome.result_eq_ok_iff]
  constructor
  · rintro ⟨herr, rfl⟩
    rw [← herr]
  · intro h
    obtain ⟨hb, herr⟩ := Prod.mk.inj h
    exact ⟨herr, congrArg Builder.submission hb⟩

/-! ### Taking over the data sets and building -/

theorem finish_eq (b : Builder) :
    b.finish = (b.submission.addDataSets b.bag).result >>= fun s =>
      result ⟨s, b.bag.insert Bag.dataSetMounts (.dict s.job.dataSets)⟩ := by
  unfold finish preBuild build result
  obtain ⟨s, e?⟩ := b.submission.addDataSets b.bag
  cases e? with
  | some e => rfl
  | none =>
    simp only [Outcome.result, bind, Except.bind]
    obtain ⟨t, e?⟩ := s.build (b.bag.insert Bag.dataSetMounts (.dict s.job.dataSets))
    cases e? <;> rfl

theorem finish_eq_ok_iff {b : Builder} {r : Submission} :
    b.finish = .ok r ↔ ∃ s, (b.submission.addDataSets b.bag).result = .ok s ∧
      result ⟨s, b.bag.insert Bag.dataSetMounts (.dict s.job.dataSets)⟩ = .ok r := by
  rw [finish_eq]
  cases (b.submission.addDataSets b.bag).result with
  | error e => simp [bind, Except.bind]
  | ok s => simp [bind, Except.bind]

end Builder

end WrappedTraining
