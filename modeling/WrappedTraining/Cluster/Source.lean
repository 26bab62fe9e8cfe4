import WrappedTraining.Job

/-!
# Asking a cluster

A `Source` answers questions about envelopes, pods and dashboards. Every question that reaches the
cluster is a `Request`; a `Lookup` is an answer, or the error that ended the work, together with
the requests that were made for it in order.
-/

namespace WrappedTraining

/-- Why a question has no answer. -/
inductive LookupError where
  /-- There is no job of this name. -/
  | notFound (namespaceName name : String)
  /-- The cluster refused, or its answer cannot be read. -/
  | service
  /-- An envelope is there but cannot be read. -/
  | decode
  /-- An object is asked for without a name. -/
  | nameless
  /-- A name or a namespace has a character that no address has. -/
  | badAddress
  /-- The cluster cannot be reached. -/
  | unreachable
deriving DecidableEq

/-- What is said about a job that is not there. -/
def LookupError.notFoundMessage (ns name : String) : String :=
  "training job " ++ ns ++ "/" ++ name ++ " not found"

/-- The text of an error, where it has one of its own. -/
def LookupError.message? : LookupError → Option String
  | .notFound ns name => some (notFoundMessage ns name)
  | _ => none

/-- A question that reaches the cluster. No namespace means all of them. -/
inductive Request where
  | envelope (namespaceName name : String)
  | envelopes (namespaceName? : Option String) (selector : String)
  | pods (namespaceName? : Option String) (selector : String)
  /-- Whether the cluster knows envelopes at all. -/
  | definition
  | dashboard (namespaceName : String)
deriving DecidableEq

namespace Request

/-- The group and version of envelopes. -/
def envelopeApi : String := "/apis/workload.codeflare.dev/v1beta2"

/-- The part of a path for a namespace. -/
def namespacePart : Option String → String
  | some ns => "/namespaces/" ++ ns
  | none => ""

/-- The path of a request. -/
def path : Request → String
  | .envelope ns name => envelopeApi ++ namespacePart (some ns) ++ "/appwrappers/" ++ name
  | .envelopes ns? _ => envelopeApi ++ namespacePart ns? ++ "/appwrappers"
  | .pods ns? _ => "/api/v1" ++ namespacePart ns? ++ "/pods"
  | .definition =>
    "/apis/apiextensions.k8s.io/v1/customresourcedefinitions/" ++
      "appwrappers.workload.codeflare.dev"
  | .dashboard ns => "/api/v1" ++ namespacePart (some ns) ++ "/services/kubernetes-dashboard"

/-- The label selector of a request, empty when it has none. -/
def selector : Request → String
  | .envelopes _ s => s
  | .pods _ s => s
  | _ => ""

/-- The character can stand in the path of an address: controls, the space and three others can
not. -/
def allowsInPath (c : Char) : Bool :=
  0x20 < c.toNat && c ≠ '<' && c ≠ '>' && c ≠ '\x60'

/-- The request has an address that it can be sent to. -/
def hasAddress (r : Request) : Bool := r.path.toList.all allowsInPath

end Request

/-! ### Lookups -/

/-- An answer or an error, with the requests that were made for it. -/
structure Lookup (α : Type) where
  requests : List Request
  result : Except LookupError α

namespace Lookup

variable {α β : Type}

/-- An answer that takes no request. -/
protected def pure (a : α) : Lookup α := ⟨[], .ok a⟩

/-- Go on with an answer; an error ends the work. -/
protected def bind (x : Lookup α) (f : α → Lookup β) : Lookup β :=
  match x.result with
  | .ok a => ⟨x.requests ++ (f a).requests, (f a).result⟩
  | .error e => ⟨x.requests, .error e⟩

instance : Monad Lookup where
  pure := Lookup.pure
  bind := Lookup.bind

@[simp] theorem result_pure (a : α) : (pure a : Lookup α).result = .ok a := rfl

@[simp] theorem requests_pure (a : α) : (pure a : Lookup α).requests = [] := rfl

theorem result_bind (x : Lookup α) (f : α → Lookup β) :
    (x >>= f).result = x.result >>= fun a => (f a).result := by
  change (Lookup.bind x f).result = _
  unfold Lookup.bind
  cases h : x.result <;> rfl

theorem requests_bind_ok {x : Lookup α} {a : α} (f : α → Lookup β) (h : x.result = .ok a) :
    (x >>= f).requests = x.requests ++ (f a).requests := by
  change (Lookup.bind x f).requests = _
  simp [Lookup.bind, h]

theorem requests_bind_error {x : Lookup α} {e : LookupError} (f : α → Lookup β)
    (h : x.result = .error e) : (x >>= f).requests = x.requests := by
  change (Lookup.bind x f).requests = _
  simp [Lookup.bind, h]

/-- An error that takes no request. -/
def fail (e : LookupError) : Lookup α := ⟨[], .error e⟩

/-- The result of one request. -/
def ask (r : Request) (result : Except LookupError α) : Lookup α := ⟨[r], result⟩

/-- The result of one request that is sent to its address. -/
def send (r : Request) (result : Except LookupError α) : Lookup α :=
  if r.hasAddress then .ask r result else .fail .badAddress

/-- The answer, or a default value after an error. -/
def orElse (x : Lookup α) (default : α) : Lookup α :=
  ⟨x.requests, .ok (match x.result with
    | .ok a => a
    | .error _ => default)⟩

/-- Whether there is an answer; an error does not end the work. -/
def succeeds (x : Lookup α) : Lookup Bool := ⟨x.requests, .ok x.result.isOk⟩

end Lookup

/-- Answers to questions about a cluster. No namespace means all of them. -/
structure Source where
  /-- The envelope of a namespace and a name. -/
  envelope : String → String → Lookup Envelope
  /-- The envelopes that a selector accepts. -/
  envelopes : Option String → String → Lookup (List Envelope)
  /-- The pods that a selector accepts. -/
  pods : Option String → String → Lookup (List Pod)
  /-- Whether the cluster knows envelopes. -/
  installed : Lookup Bool
  /-- The address of the dashboard of a namespace. -/
  dashboard : String → Lookup (Option String)

/-- A cluster that cannot be reached. An envelope without a name is not even asked for. -/
def Source.unreachable : Source where
  envelope ns name :=
    if name = "" then .fail .nameless else .send (.envelope ns name) (.error .unreachable)
  envelopes ns? selector := .send (.envelopes ns? selector) (.error .unreachable)
  pods ns? selector := .send (.pods ns? selector) (.error .unreachable)
  installed := .send .definition (.ok false)
  dashboard ns := (Lookup.send (.dashboard ns) (.ok none)).orElse none

/-- The object lies in the namespace, if one is given, and its labels meet the selector. -/
def Metadata.isSelected (m : Metadata) (namespaceName? : Option String) (selector : String) : Bool :=
  (namespaceName?.isNone || m.namespaceName? = namespaceName?) &&
    Selector.accepts selector m.labels

end WrappedTraining
