import WrappedTraining.CommandLine.Answer

/-!
# Tolerations at the command line and in submissions

A toleration enters in two ways: `toleration` reads a text and shows what it stands for, and
`submit` adds what the text stands for to a job. Each way goes with one reading of the text if it
shows it, adds it, or refuses with its error (`Reports`, `Adds`).

Both ways use `Toleration.parse`, but a submission takes the word `all` for itself before, so the
ways agree on every text except that one (`reports_and_adds_iff`): `toleration` takes `all` for a
key.
-/

namespace WrappedTraining.CommandLine

/-- What reading a text comes to: a toleration, or the reason why it is none. -/
abbrev Verdict := Except Toleration.Error Toleration

/-- In every form of an answer, `toleration` shows that the text comes to `v`. -/
def Reports (entry : String) (v : Verdict) : Prop :=
  ∀ o : OutputFormat, tolerationAnswer o [entry] =
    match v with
    | .ok t => .shown (o.toleration entry t)
    | .error e => ⟨1, "", entry ++ ": " ++ e.message ++ "\n" ++ Failure.rejectedTolerations.text⟩

/-- Every submission with the option `--toleration` for this text alone gets the toleration of `v`,
or ends with its error. -/
def Adds (entry : String) (v : Verdict) : Prop :=
  ∀ (bag : Bag) (s : Submission), bag.texts "toleration" = [entry] →
    s.addTolerations bag =
      match v with
      | .ok t => .done { s with job := { s.job with tolerations := s.job.tolerations ++ [t] } }
      | .error e => ⟨s, some (.toleration e)⟩

variable {entry : String} {v w : Verdict}

theorem reports_parse (entry : String) : Reports entry (Toleration.parse entry) := by
  intro o
  cases h : Toleration.parse entry with
  | ok t => simp [tolerationAnswer, acceptedText, h, Except.isOk, Except.toBool]
  | error e =>
    simp [tolerationAnswer, acceptedText, rejectedText, h, Except.isOk, Except.toBool]

theorem adds_parse (h : entry ≠ "all") : Adds entry (Toleration.parse entry) := by
  intro bag s hbag
  unfold Submission.addTolerations
  rw [hbag]
  cases hparse : Toleration.parse entry with
  | ok t => simp [readUntil, JobSpec.tolerationOf, h, hparse, Outcome.done]
  | error e => simp [readUntil, JobSpec.tolerationOf, h, hparse]

theorem adds_all : Adds "all" (.ok .all) := by
  intro bag s hbag
  unfold Submission.addTolerations
  rw [hbag]
  simp [readUntil, JobSpec.tolerationOf, Outcome.done]

/-- A submission shows which toleration was added. -/
theorem Adds.unique (h : Adds entry v) (h' : Adds entry w) : v = w := by
  -- any submission does, here the initial one with this text in its bag
  have hbag : (Bag.empty.insert "toleration" (.texts [entry])).texts "toleration" = [entry] := by
    simp [Bag.texts_insert_texts]
  have heq := (h _ Submission.initial hbag).symm.trans (h' _ Submission.initial hbag)
  cases v with
  | ok t =>
    cases w with
    | ok u => simpa [Outcome.done] using heq
    | error e => simp [Outcome.done] at heq
  | error e =>
    cases w with
    | ok t => simp [Outcome.done] at heq
    | error f => simpa using heq

theorem not_reports_all : ¬Reports "all" (.ok .all) := by
  intro h
  have := (h .human).symm.trans (reports_parse "all" .human)
  revert this
  decide +kernel

/-- **`toleration` shows what a submission adds, except for `all`**: a single verdict is shown and
added for every text but this one. -/
theorem reports_and_adds_iff (entry : String) :
    (∃ v, Reports entry v ∧ Adds entry v) ↔ entry ≠ "all" := by
  constructor
  · rintro ⟨v, hreports, hadds⟩ rfl
    rw [hadds.unique adds_all] at hreports
    exact not_reports_all hreports
  · intro h
    exact ⟨Toleration.parse entry, reports_parse entry, adds_parse h⟩

/-- `all` is shown as a key, and added as the toleration of every taint. -/
theorem all_shown_as_key :
    let bag := Bag.empty.insert "toleration" (.texts ["all"])
    tolerationAnswer .human ["all"] =
        .shown "all\t\x7b\"key\":\"all\",\"operator\":\"Exists\"\x7d\n" ∧
      (Submission.initial.addTolerations bag).submission.job.tolerations =
        [⟨"", none, none, some .exist, none⟩] := by
  decide +kernel

end WrappedTraining.CommandLine
