import WrappedTraining.Cluster.Source

/-!
# Snapshots

A `Snapshot` holds the envelopes, pods and dashboards of a cluster in memory. `Snapshot.source`
answers from it, and no question fails but the one for an envelope that is not there.
-/

namespace WrappedTraining

/-- The contents of a cluster. -/
structure Snapshot where
  envelopes : List Envelope
  pods : List Pod
  /-- Addresses of dashboards, by their namespace. -/
  dashboards : Dict String

namespace Snapshot

/-- The first envelope of a namespace and a name. -/
def envelope? (s : Snapshot) (ns name : String) : Option Envelope :=
  s.envelopes.find? fun e => e.name = name && e.namespaceName = ns

/-- The envelopes that a selector accepts, in order. -/
def selectEnvelopes (s : Snapshot) (ns? : Option String) (selector : String) : List Envelope :=
  s.envelopes.filter fun e => e.metadata.isSelected ns? selector

/-- The pods that a selector accepts, in order. -/
def selectPods (s : Snapshot) (ns? : Option String) (selector : String) : List Pod :=
  s.pods.filter fun p => p.metadata.isSelected ns? selector

/-- Answers from a snapshot. Envelopes are known if there are any. -/
def source (s : Snapshot) : Source where
  envelope ns name :=
    .ask (.envelope ns name)
      (match s.envelope? ns name with
      | some e => .ok e
      | none => .error (.notFound ns name))
  envelopes ns? selector := .ask (.envelopes ns? selector) (.ok (s.selectEnvelopes ns? selector))
  pods ns? selector := .ask (.pods ns? selector) (.ok (s.selectPods ns? selector))
  installed := .ask .definition (.ok (!s.envelopes.isEmpty))
  dashboard ns := .ask (.dashboard ns) (.ok (s.dashboards.get? ns))

end Snapshot

end WrappedTraining
