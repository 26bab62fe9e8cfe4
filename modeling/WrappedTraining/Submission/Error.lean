import WrappedTraining.Submission
import WrappedTraining.Span
import WrappedTraining.Quantity

/-!
# Why a submission is refused

`Submission.Error` has one constructor for each cause, and `Submission.Error.message` the text
that is shown for it.
-/

namespace WrappedTraining.Submission

/-- Why a submission is refused. -/
inductive Error where
  | dataSet (entry : String)
  | nameMissing
  | nameInvalid (name : String)
  | toleration (cause : Toleration.Error)
  | dataDir (entry : String)
  | configFile (entry : String)
  | syncSourceMissing (mode : String)
  | syncSourceUnnamed (source : String)
  | syncModeUnsupported (mode : String)
  | logDirRelative (dir : String)
  | imageMissing
  | cleanPodsUnsupported (policy : String)
  | gpusNegative
  /-- The option is no quantity. -/
  | quantity (option : String)
  | deadlineNegative
  | ttlNegative
  | procsPerNode
  | retryLimitNegative
  /-- The option is no length of time. -/
  | period (option : String) (cause : Span.Error)
  | innerTypeUnsupported (name : String)
  | masterPort (port : Int32)
  /-- The option is no topology mode. -/
  | topologyMode (option mode : String)
  | partitionSizeMissing
  | totalPartitionsMissing
deriving DecidableEq

/-- How long a job's name may be. -/
def maxNameLength : Nat := 63

/-- The text of an error. -/
def Error.message : Error → String
  | .dataSet entry => "invalid --data " ++ entry ++ ", expected <pvc name>:<mount path>"
  | .nameMissing => "--name must be set"
  | .nameInvalid name =>
    "--name=" ++ name ++ " is invalid: must consist of lower case alphanumeric characters or '-', " ++
      "start with a letter, end with an alphanumeric character and be at most " ++
      Text.ofNat maxNameLength ++ " characters"
  | .toleration cause => cause.message
  | .dataDir entry => "invalid --data-dir " ++ entry ++ ", expected <host path>:<container path>"
  | .configFile entry =>
    "invalid --config-file " ++ entry ++ ", expected <local path>:<container path>"
  | .syncSourceMissing mode => "--sync-source must be set when --sync-mode=" ++ mode
  | .syncSourceUnnamed source => "--sync-source=" ++ source ++ " has no project name"
  | .syncModeUnsupported mode =>
    "--sync-mode=" ++ mode ++ " is unsupported, only rsync and git are supported"
  | .logDirRelative dir => "--logdir=" ++ dir ++ " must be an absolute path"
  | .imageMissing => "--image must be set"
  | .cleanPodsUnsupported policy => "unsupported cleanTaskPolicy " ++ policy
  | .gpusNegative => "--gpus is invalid"
  | .quantity option => "--" ++ option ++ " is invalid"
  | .deadlineNegative => "--running-timeout is invalid"
  | .ttlNegative => "--ttl-after-finished is invalid"
  | .procsPerNode => "--nproc-per-node is invalid"
  | .retryLimitNegative => "--retry-limit must be >= 0"
  | .period option cause => "--" ++ option ++ " is invalid: " ++ cause.message
  | .innerTypeUnsupported name => InnerType.unsupported name
  | .masterPort port =>
    "--master-port must be between 1 and 65535, got " ++ Text.ofInt port.toInt
  | .topologyMode option mode =>
    "--" ++ option ++ " must be 'hard' or 'soft', got '" ++ mode ++ "'"
  | .partitionSizeMissing => "--partition-size must be specified when --total-partitions is set"
  | .totalPartitionsMissing =>
    "--total-partitions must be specified when --partition-size is set"

end WrappedTraining.Submission
