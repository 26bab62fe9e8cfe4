/-!
# Labels and annotations

The keys by which a submission, the envelope that it runs in, and the pods of that envelope know
each other.
-/

namespace WrappedTraining.Labels

/-- What the keys of an envelope's fault tolerance annotations start with. -/
def envelopeAnnotations : String := "workload.codeflare.dev.appwrapper/"

/-- The annotation with the GPU request of the whole job. -/
def requestedGpus : String := "requestGPUsOfJobOwner"

/-- The label with the queue that admits an envelope. -/
def queueName : String := "kueue.x-k8s.io/queue-name"

/-- The label with the name of the envelope that owns a pod. -/
def envelopeName : String := "workload.codeflare.dev/appwrapper"

/-- The label with the kind of job. -/
def app : String := "app"

/-- The label with the name of the job, next to the kind. -/
def release : String := "release"

end WrappedTraining.Labels
