import WrappedTraining.CommandLine.Answer

/-!
# The program

Arguments and environment are read here, and the answer is written. The program has no connection
to a cluster, so every question to one fails and no answer depends on the time.
-/

open WrappedTraining WrappedTraining.CommandLine

/-- Run the program. -/
def main (args : List String) : IO UInt32 := do
  let env : Environment := ⟨← IO.getEnv "AWJOB_NAMESPACE", ← IO.getEnv "AWJOB_ARENA_NAMESPACE"⟩
  let answer := Answer.ofArguments env .unreachable .epoch args
  IO.print answer.stdout
  IO.eprint answer.stderr
  return answer.exitCode
