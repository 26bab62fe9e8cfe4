import WrappedTraining.Job

/-!
# Reports

What is shown to people about jobs: `Report.age` writes a length of time, `Report.table` lists
summaries, and `Report.details?` shows one job with its pods.

Cells are filled with blanks up to the width of their column, counted in characters. A cell that
is too long moves the rest of its line, and the cell of the status is not filled.
-/

namespace WrappedTraining.Report

/-! ### Cells -/

/-- The text with blanks behind it up to a width. -/
def cell (width : Nat) (s : String) : String :=
  s ++ String.ofList (List.replicate (width - s.length) ' ')

/-- Cells with a blank between neighbours. -/
def row (cells : List String) : String := Text.joined ' ' cells

/-- The kind of job, as listings show it. -/
def trainerName : String := "APPWRAPPERJOB"

/-! ### Lengths of time -/

/-- A length of time in its two largest units; one below zero counts as zero. -/
def age (d : Span) : String :=
  let seconds := d.seconds.toNat
  let days := seconds / 86400
  let hours := seconds % 86400 / 3600
  let minutes := seconds % 3600 / 60
  if 0 < days then Text.ofNat days ++ "d" ++ Text.ofNat hours ++ "h"
  else if 0 < hours then Text.ofNat hours ++ "h" ++ Text.ofNat minutes ++ "m"
  else if 0 < minutes then Text.ofNat minutes ++ "m"
  else Text.ofNat (seconds % 60) ++ "s"

/-! ### Listings -/

/-- The width of the namespace column. -/
def namespaceWidth : Nat := 16

/-- The first line of a listing. -/
def tableHeader (withNamespace : Bool) : String :=
  row ((if withNamespace then [cell namespaceWidth "NAMESPACE"] else [])
    ++ [cell 32 "NAME", cell 10 "STATUS", cell 14 "TRAINER", cell 10 "DURATION", cell 8 "GPU(R)",
        cell 8 "GPU(A)", cell 16 "NODE"])

/-- The line of a summary. -/
def tableRow (withNamespace : Bool) (s : JobSummary) : String :=
  row ((if withNamespace then [cell namespaceWidth s.namespaceName] else [])
    ++ [cell 32 s.name, s.status.name, cell 14 trainerName,
        cell 10 (age (.ofSeconds s.durationSeconds)), cell 8 (Text.ofInt s.requestedGpus),
        cell 8 (Text.ofInt s.allocatedGpus), cell 16 s.hostIp])

/-- Lines, each ended. -/
def lines (ls : List String) : String := ls.foldl (fun out l => out ++ l ++ "\n") ""

/-- A listing of summaries. -/
def table (withNamespace : Bool) (summaries : List JobSummary) : String :=
  lines (tableHeader withNamespace :: summaries.map (tableRow withNamespace))

/-! ### One job -/

/-- The line of a pod. -/
def podRow (p : Pod) : String :=
  row [cell 40 (p.metadata.name?.getD "-"), cell 12 (p.phase?.getD "Unknown"),
    cell 16 (p.nodeName?.getD Job.notAvailable)]

/-- What is shown of a job before its GPUs are added up. -/
def headLines (j : Job) (now : Instant) : List String :=
  ["Name:        " ++ j.envelope.name,
   "Namespace:   " ++ j.envelope.namespaceName,
   "Status:      " ++ j.status.name,
   "Trainer:     " ++ trainerName,
   "Age:         " ++ age (j.ageAt now),
   "Duration:    " ++ age (j.durationAt now),
   "Retries:     " ++ Text.ofInt j.envelope.status.resets.toInt]

/-- A job with its pods, and the page of its logs if there is one. -/
def details? (j : Job) (now : Instant) (logUrl? : Option String) : Option String := do
  let requested ← j.requestedGpus?
  let allocated ← j.allocatedGpus?
  return lines (
    headLines j now
    ++ ["GPUs:        " ++ Text.ofInt requested ++ " requested, " ++
          Text.ofInt allocated ++ " allocated",
        "Chief IP:    " ++ j.hostIp]
    ++ (match logUrl? with
      | some url => ["Dashboard:   " ++ url]
      | none => [])
    ++ ["", row [cell 40 "INSTANCE", cell 12 "STATUS", cell 16 "NODE"]]
    ++ j.pods.map podRow)

end WrappedTraining.Report
