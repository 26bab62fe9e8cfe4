import WrappedTraining.Span
import WrappedTraining.Dict

/-!
# Deferred options

Options that are read only when a submission is built, because they repeat or depend on each
other, wait in a `Bag` under their names.
-/

namespace WrappedTraining

/-- The value of a deferred option. -/
inductive OptionValue where
  /-- The values of an option that repeats. -/
  | texts (values : List String)
  /-- A length of time. -/
  | span (value : Span)
  /-- Entries that one stage publishes for another. -/
  | dict (entries : Dict String)
deriving DecidableEq

/-- Deferred options by name. -/
structure Bag where
  /-- The options. -/
  options : Dict OptionValue
deriving DecidableEq

namespace Bag

/-- No option is deferred. -/
def empty : Bag := ⟨.empty⟩

instance : Inhabited Bag := ⟨empty⟩

/-- The bag with the value of an option set. -/
def insert (b : Bag) (name : String) (v : OptionValue) : Bag := ⟨b.options.insert name v⟩

/-- There is a value for the option. -/
def contains (b : Bag) (name : String) : Bool := (b.options.get? name).isSome

/-- The values of an option that repeats; none when it is missing or of another kind. -/
def texts (b : Bag) (name : String) : List String :=
  match b.options.get? name with
  | some (.texts values) => values
  | _ => []

/-- The length of time of an option. -/
def span? (b : Bag) (name : String) : Option Span :=
  match b.options.get? name with
  | some (.span s) => some s
  | _ => none

/-- The entries published under a name. -/
def dict? (b : Bag) (name : String) : Option (Dict String) :=
  match b.options.get? name with
  | some (.dict d) => some d
  | _ => none

theorem texts_insert_texts (b : Bag) (name k : String) (values : List String) :
    (b.insert name (.texts values)).texts k = if k = name then values else b.texts k := by
  by_cases h : k = name <;> simp [texts, insert, h]

theorem span?_insert_span (b : Bag) (name k : String) (s : Span) :
    (b.insert name (.span s)).span? k = if k = name then some s else b.span? k := by
  by_cases h : k = name <;> simp [span?, insert, h]

theorem dict?_insert_dict (b : Bag) (name k : String) (d : Dict String) :
    (b.insert name (.dict d)).dict? k = if k = name then some d else b.dict? k := by
  by_cases h : k = name <;> simp [dict?, insert, h]

/-- The name under which the mounts of the data sets are published. -/
def dataSetMounts : String := "share-data-dataset"

end Bag

end WrappedTraining
