import WrappedTraining.Json

/-!
# Tables of record fields

A record type is written as a JSON object by a table of fields. `writeAll` puts the fields in the
order of the table, and `readAll?` looks each of them up by its key, so that unknown keys and the
order of the object do not matter. `readRecord?` also reads an array of the values alone.
-/

namespace WrappedTraining.Json

/-- One field of the record type `R`. -/
structure Field (R : Type) where
  /-- The key of the field. -/
  key : String
  /-- The value that is written; `none` leaves the field out. -/
  write : R → Option Json
  /-- Store the value of an object, `none` when it is missing. -/
  read : Option Json → R → Option R

namespace Field

variable {R α : Type}

/-- A field that is always written and has to be present. -/
def required (key : String) (get : R → α) (set : R → α → R) (encode : α → Json)
    (decode : Json → Option α) : Field R where
  key := key
  write r := some (encode (get r))
  read j r := (j.bind decode).map (set r)

/-- A field that is left out when it has its `default` value. -/
def omitted [DecidableEq α] (key : String) (default : α) (get : R → α) (set : R → α → R)
    (encode : α → Json) (decode : Json → Option α) : Field R where
  key := key
  write r := if get r = default then none else some (encode (get r))
  read j r := match j with
    | none => some (set r default)
    | some j => (decode j).map (set r)

/-- A text that has to be present. -/
def text (key : String) (get : R → String) (set : R → String → R) : Field R :=
  required key get set .str str?

/-- A text that is left out when it is empty. -/
def textOrEmpty (key : String) (get : R → String) (set : R → String → R) : Field R :=
  omitted key "" get set .str str?

/-- A 32-bit integer. -/
def number (key : String) (get : R → Int32) (set : R → Int32 → R) : Field R :=
  required key get set ofInt32 int32?

/-- A truth value. -/
def flag (key : String) (get : R → Bool) (set : R → Bool → R) : Field R :=
  required key get set .bool bool?

/-- A dictionary of texts that has to be present. -/
def texts (key : String) (get : R → Dict String) (set : R → Dict String → R) : Field R :=
  required key get set ofTexts (dict? str?)

/-- A dictionary of texts that is left out when it has no entries. -/
def textsOrEmpty (key : String) (get : R → Dict String) (set : R → Dict String → R) : Field R :=
  omitted key Dict.empty get set ofTexts (dict? str?)

/-- A list that has to be present. -/
def list (key : String) (get : R → List α) (set : R → List α → R) (encode : α → Json)
    (decode : Json → Option α) : Field R :=
  required key get set (fun xs => .arr (xs.map encode)) (list? decode)

end Field

/-- The fields that are written, in the order of the table. -/
def writeFields {R : Type} (table : List (Field R)) (r : R) : List (String × Json) :=
  table.filterMap fun f => (f.write r).map fun j => (f.key, j)

/-- The record as an object. -/
def writeAll {R : Type} (table : List (Field R)) (r : R) : Json := .obj (writeFields table r)

/-- Store the fields of an object into `r`, one after the other. -/
def readFields? {R : Type} (table : List (Field R)) (j : Json) (r : R) : Option R :=
  match table with
  | [] => some r
  | f :: fs => (f.read (j.field? f.key) r).bind (readFields? fs j)

/-- The record of an object, all of whose fields the table sets. -/
def readAll? {R : Type} (table : List (Field R)) (initial : R) : Json → Option R
  | .obj fields => readFields? table (.obj fields) initial
  | _ => none

/-- The record of an object, or of an array with the values of the table in order. -/
def readRecord? {R : Type} (table : List (Field R)) (initial : R) (j : Json) : Option R :=
  (j.record? (table.map (·.key))).bind (readAll? table initial)

end WrappedTraining.Json
