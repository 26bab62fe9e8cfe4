import WrappedTraining.Dict

/-!
# JSON values

`Json` is the form in which records enter and leave the program. Fields of an object keep the
order in which they are written. A number is an integer, or a `fraction` when it is written with
a point or an exponent; no record has a fraction in it.
-/

namespace WrappedTraining

/-- A JSON value; the fields of an object are in writing order. -/
inductive Json where
  | null
  | bool (b : Bool)
  | int (n : Int)
  /-- The number `mantissa / 10 ^ places`, written with a point. -/
  | fraction (mantissa : Int) (places : Nat)
  | str (s : String)
  | arr (items : List Json)
  | obj (fields : List (String × Json))
deriving Inhabited

namespace Json

/-- The field `k` of an object. -/
def field? (j : Json) (k : String) : Option Json :=
  match j with
  | .obj fields => Dict.lookup? k fields
  | _ => none

/-- The value is `null`. -/
def isNull : Json → Bool
  | .null => true
  | _ => false

/-- An optional field of an object, left out when there is no value. -/
def optional (k : String) (v : Option Json) : List (String × Json) :=
  match v with
  | some j => [(k, j)]
  | none => []

/-! ### Reading typed values -/

/-- The text of a JSON string. -/
def str? : Json → Option String
  | .str s => some s
  | _ => none

/-- The value of `true` and `false`. -/
def bool? : Json → Option Bool
  | .bool b => some b
  | _ => none

/-- An integer between `lo` and `hi`. -/
def intIn? (lo hi : Int) : Json → Option Int
  | .int n => if lo ≤ n ∧ n ≤ hi then some n else none
  | _ => none

/-- A 32-bit integer. -/
def int32? (j : Json) : Option Int32 := (j.intIn? (-0x80000000) 0x7FFFFFFF).map Int32.ofInt

/-- A 64-bit integer. -/
def int64? (j : Json) : Option Int64 := (j.intIn? (-0x8000000000000000) 0x7FFFFFFFFFFFFFFF).map Int64.ofInt

/-- An array whose items all read. -/
def list? {α : Type} (read : Json → Option α) : Json → Option (List α)
  | .arr items => items.mapM read
  | _ => none

/-- The entries of an object whose values all read. -/
def entries? {α : Type} (read : Json → Option α) : List (String × Json) → Option (List (String × α))
  | [] => some []
  | e :: es =>
    match read e.2, entries? read es with
    | some v, some vs => some ((e.1, v) :: vs)
    | _, _ => none

/-- An object whose values all read, as a dictionary. -/
def dict? {α : Type} (read : Json → Option α) : Json → Option (Dict α)
  | .obj fields => (entries? read fields).map Dict.ofList
  | _ => none

/-- A field that can be missing or `null`. -/
def nullable? {α : Type} (j : Json) (k : String) (read : Json → Option α) : Option (Option α) :=
  match j.field? k with
  | none => some none
  | some .null => some none
  | some v => (read v).map some

/-- A field that can be missing, with its `default` value. -/
def fieldOr? {α : Type} (j : Json) (k : String) (default : α) (read : Json → Option α) : Option α :=
  match j.field? k with
  | none => some default
  | some v => read v

/-- The value, if it is an object. -/
def object? : Json → Option Json
  | .obj fields => some (.obj fields)
  | _ => none

/-- The value as an object with the fields `keys`: an array gives their values in the order of the
keys, and may end before the last of them. -/
def record? (keys : List String) : Json → Option Json
  | .obj fields => some (.obj fields)
  | .arr items => if items.length ≤ keys.length then some (.obj (keys.zip items)) else none
  | _ => none

/-- The value is `null` or an object without fields. -/
def isNothing : Json → Bool
  | .null => true
  | .obj fields => fields.isEmpty
  | _ => false

/-- The name of one of several alternatives: a text, or an object whose only field has that name
and a value that holds `nothing`. -/
def choice? (nothing : Json → Bool) : Json → Option String
  | .str s => some s
  | .obj [(s, v)] => if nothing v then some s else none
  | _ => none

/-! ### Writing typed values -/

/-- A 32-bit integer as a number. -/
def ofInt32 (n : Int32) : Json := .int n.toInt

/-- A 64-bit integer as a number. -/
def ofInt64 (n : Int64) : Json := .int n.toInt

/-- A dictionary as an object with its keys in order. -/
def ofDict {α : Type} (write : α → Json) (d : Dict α) : Json :=
  .obj (d.entries.map fun e => (e.1, write e.2))

/-- A dictionary of texts as an object. -/
def ofTexts (d : Dict String) : Json := ofDict .str d

end Json

end WrappedTraining
