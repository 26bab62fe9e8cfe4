import WrappedTraining.Instant
import WrappedTraining.Json

/-!
# Metadata of cluster objects

`Metadata` is what every object of a cluster says about itself. Each part can be missing or `null`
in a record; labels and annotations count as empty then.

`Selector` chooses objects by their labels.
-/

namespace WrappedTraining

/-- What an object says about itself. -/
structure Metadata where
  name? : Option String
  namespaceName? : Option String
  uid? : Option String
  labels : Dict String
  annotations : Dict String
  /-- When the object was created. -/
  created? : Option Instant
deriving DecidableEq

namespace Metadata

/-- The metadata of an object that says nothing. -/
def empty : Metadata := ⟨none, none, none, .empty, .empty, none⟩

instance : Inhabited Metadata := ⟨empty⟩

/-- An instant in a record. -/
def instant? (j : Json) : Option Instant := j.str?.bind Instant.parse?

/-- The metadata of a record. -/
def ofJson? (j : Json) : Option Metadata := do
  let j ← j.object?
  let name? ← j.nullable? "name" Json.str?
  let namespaceName? ← j.nullable? "namespace" Json.str?
  let uid? ← j.nullable? "uid" Json.str?
  let labels? ← j.nullable? "labels" (Json.dict? Json.str?)
  let annotations? ← j.nullable? "annotations" (Json.dict? Json.str?)
  let created? ← j.nullable? "creationTimestamp" instant?
  return ⟨name?, namespaceName?, uid?, labels?.getD .empty, annotations?.getD .empty, created?⟩

/-- The creation time without its fraction of a second. -/
def wholeSeconds (m : Metadata) : Metadata :=
  { m with created? := m.created?.map Instant.wholeSecond }

/-- A label has a value. -/
def hasLabel (m : Metadata) (key value : String) : Bool := m.labels.get? key = some value

end Metadata

/-! ### Selectors -/

/-- One demand on the labels of an object. -/
inductive Selector.Term where
  /-- The label has this value. -/
  | equals (key value : String)
  /-- The label is there. -/
  | present (key : String)
deriving DecidableEq

namespace Selector

/-- The demands of a selector, written with commas between them; an empty one does not count. -/
def terms (selector : String) : List Term :=
  ((Text.pieces ',' selector).filter (· ≠ "")).map fun t =>
    match Text.cut? '=' t with
    | some (k, v) => .equals k v
    | none => .present t

/-- The labels meet a demand. -/
def Term.holds (labels : Dict String) : Term → Bool
  | .equals k v => labels.get? k = some v
  | .present k => (labels.get? k).isSome

/-- The labels meet every demand of a selector. -/
def accepts (selector : String) (labels : Dict String) : Bool :=
  (terms selector).all fun t => t.holds labels

end Selector

end WrappedTraining
