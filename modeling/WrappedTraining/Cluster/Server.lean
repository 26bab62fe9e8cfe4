import WrappedTraining.Cluster.Source

/-!
# Servers

A `Server` holds the objects of a cluster as records and answers requests for them, and any
request can fail. `Server.sourceWith` asks the server and reads what it answers, so that a record
that cannot be read is an error of the lookup. How metadata and pods are read is left to a
`Server.Reader`: `Server.sourceUnder` reads no more of them than jobs need, and `Server.source` does
so when the server itself refuses every request for some kinds of objects.
-/

namespace WrappedTraining

/-- The kind of the objects that a request is for. -/
def Request.kind : Request → String
  | .envelope _ _ => "appwrappers"
  | .envelopes _ _ => "appwrappers"
  | .pods _ _ => "pods"
  | .definition => "customresourcedefinitions"
  | .dashboard _ => "services"

/-- The records that a server holds. -/
structure Server where
  envelopes : List Json
  pods : List Json
  services : List Json
  /-- Envelopes are known to the server. -/
  installed : Bool
  /-- The codes with which requests for a kind of object are refused. -/
  faults : Dict Int

namespace Server

/-! ### Failures -/

/-- How a request fails. -/
inductive Failure where
  /-- The server refuses it with a code. -/
  | refused (code : Int)
  /-- No answer comes back. -/
  | unanswered
deriving DecidableEq

namespace Failure

/-- The answer that an object is not there. -/
def absent : Failure := .refused 404

/-- The error of a lookup when a request fails. -/
def error : Failure → LookupError
  | .refused _ => .service
  | .unanswered => .unreachable

end Failure

/-- The requests that fail, and how. -/
abbrev Failures := Request → Option Failure

/-! ### What the server answers -/

/-- A text in the metadata of a record. -/
def metadataText? (j : Json) (k : String) : Option String :=
  ((j.field? "metadata").bind (·.field? k)).bind Json.str?

/-- The labels of a record that are texts. -/
def labelsOf (j : Json) : Dict String :=
  match (j.field? "metadata").bind (·.field? "labels") with
  | some (.obj fields) =>
    Dict.ofList (fields.filterMap fun f => f.2.str?.map fun v => (f.1, v))
  | _ => .empty

/-- The record has a name and a namespace. -/
def isNamed (ns name : String) (j : Json) : Bool :=
  metadataText? j "namespace" = some ns && metadataText? j "name" = some name

/-- The record lies in the namespace, if one is given, and its labels meet the selector. -/
def isSelected (ns? : Option String) (selector : String) (j : Json) : Bool :=
  (ns?.isNone || metadataText? j "namespace" = ns?) && Selector.accepts selector (labelsOf j)

variable {α β : Type} (s : Server) (failures : Failures)

/-- The reply to a request, unless it fails. -/
def reply (r : Request) (answer : Except Failure α) : Except Failure α :=
  match failures r with
  | some f => .error f
  | none => answer

/-- One object by namespace and name. -/
def get (objects : List Json) (ns name : String) : Except Failure Json :=
  match objects.find? (isNamed ns name) with
  | some j => .ok j
  | none => .error .absent

/-- The reply to the request for an envelope. -/
def envelopeReply (ns name : String) : Except Failure Json :=
  reply failures (.envelope ns name) (get s.envelopes ns name)

/-- The reply to the request for the envelopes that a selector accepts. -/
def envelopesReply (ns? : Option String) (selector : String) : Except Failure (List Json) :=
  reply failures (.envelopes ns? selector) (.ok (s.envelopes.filter (isSelected ns? selector)))

/-- The reply to the request for the pods that a selector accepts. -/
def podsReply (ns? : Option String) (selector : String) : Except Failure (List Json) :=
  reply failures (.pods ns? selector) (.ok (s.pods.filter (isSelected ns? selector)))

/-! ### Reading the answers -/

/-- How the records that every cluster knows are read. -/
structure Reader where
  /-- The metadata of an object. -/
  metadata? : Json → Option Metadata
  pod? : Json → Option Pod

/-- Only what jobs need is looked at. -/
def Reader.standard : Reader where
  metadata? j := j.object?.bind Envelope.metadataOf?
  pod? := Pod.ofJson?

variable (d : Reader)

/-- An envelope in an answer: metadata that cannot be read are a fault of the answer, anything
else a fault of the envelope. Its creation time comes in whole seconds. -/
def readEnvelope (j : Json) : Except LookupError Envelope :=
  match d.metadata? j with
  | none => .error .service
  | some m =>
    match Envelope.statusOf? j with
    | none => .error .decode
    | some status => .ok ⟨m.wholeSeconds, status⟩

/-- The envelopes in an answer: first the metadata of all are read, then the envelopes one after
the other. -/
def readEnvelopes (js : List Json) : Except LookupError (List Envelope) :=
  if js.all fun j => (d.metadata? j).isSome then js.mapM (readEnvelope d)
  else .error .service

/-- The pods in an answer. -/
def readPods (js : List Json) : Except LookupError (List Pod) :=
  match js.mapM d.pod? with
  | some pods => .ok pods
  | none => .error .service

/-- What is read in a reply, or an error of the lookup. -/
def answered (answer : Except Failure α) (read : α → Except LookupError β) :
    Except LookupError β :=
  match answer with
  | .ok a => read a
  | .error f => .error f.error

/-! ### Dashboards -/

/-- How a service is reached: hosts of a load balancer, an address inside the cluster, ports. -/
structure Service where
  /-- Address and name of each host. -/
  hosts : List (Option String × Option String)
  clusterIp? : Option String
  ports : List Int32

/-- A host of a load balancer. -/
def hostOf? (j : Json) : Option (Option String × Option String) := do
  let j ← j.object?
  return (← j.nullable? "ip" Json.str?, ← j.nullable? "hostname" Json.str?)

/-- A port of a service. -/
def portOf? (j : Json) : Option Int32 := do
  let j ← j.object?
  return (← j.nullable? "port" Json.int32?).getD 0

/-- The service of a record. -/
def serviceOf? (j : Json) : Option Service := do
  let j ← j.object?
  if !(Pod.isOf j "apiVersion" "v1" && Pod.isOf j "kind" "Service") then failure
  let _ ← j.nullable? "metadata" Metadata.ofJson?
  let spec ← Pod.part? j "spec"
  let clusterIp? ← spec.nullable? "clusterIP" Json.str?
  let ports? ← spec.nullable? "ports" (Json.list? portOf?)
  let balancer ← Pod.part? (← Pod.part? j "status") "loadBalancer"
  let hosts? ← balancer.nullable? "ingress" (Json.list? hostOf?)
  return ⟨hosts?.getD [], clusterIp?, ports?.getD []⟩

/-- The address inside the cluster with the first port. -/
def Service.clusterUrl? (s : Service) : Option String := do
  let ip ← s.clusterIp?
  if ip = "" ∨ ip = "None" then failure
  let port ← s.ports.head?
  return "http://" ++ ip ++ ":" ++ Text.ofInt port.toInt

/-- The address of a service: its first host, or else the address inside the cluster. -/
def Service.url? (s : Service) : Option String :=
  match s.hosts.head?.bind fun h => h.1.or h.2 with
  | some host => some ("http://" ++ host)
  | none => s.clusterUrl?

/-- The name of the dashboard service. -/
def dashboardName : String := "kubernetes-dashboard"

/-- The address of the dashboard of a namespace; any error counts as no dashboard. -/
def dashboardUrl? (ns : String) : Option String :=
  match reply failures (.dashboard ns) (get s.services ns dashboardName) with
  | .ok j => (serviceOf? j).bind Service.url?
  | .error _ => none

/-! ### Lookups -/

/-- The lookup of an envelope. A name is needed to make a request. -/
def lookupEnvelope (ns name : String) : Lookup Envelope :=
  if name = "" then .fail .nameless
  else .send (.envelope ns name)
    (match s.envelopeReply failures ns name with
    | .ok j => readEnvelope d j
    | .error f => .error (if f = .absent then .notFound ns name else f.error))

/-- Envelopes are known: the server has their definition, and shows it. -/
def hasDefinition : Bool := s.installed && (failures .definition).isNone

/-- Answers of a server while some requests fail. -/
def sourceWith : Source where
  envelope := s.lookupEnvelope failures d
  envelopes ns? selector :=
    .send (.envelopes ns? selector)
      (answered (s.envelopesReply failures ns? selector) (readEnvelopes d))
  pods ns? selector :=
    .send (.pods ns? selector) (answered (s.podsReply failures ns? selector) (readPods d))
  installed := .send .definition (.ok (s.hasDefinition failures))
  dashboard ns :=
    (Lookup.send (.dashboard ns) (.ok (s.dashboardUrl? failures ns))).orElse none

/-- Answers of a server while some requests fail, read as far as jobs need them. -/
def sourceUnder : Source := s.sourceWith failures .standard

/-- The requests that the server itself refuses. -/
def refusals : Failures := fun r => (s.faults.get? r.kind).map .refused

/-- Answers of a server. -/
def source : Source := s.sourceUnder s.refusals

end Server

end WrappedTraining
