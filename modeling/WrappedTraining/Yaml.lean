import WrappedTraining.Json.Printer
import WrappedTraining.Yaml.Scalar

/-!
# YAML documents

`Yaml.document` writes a JSON value as a YAML document with one item or field to a line. Fields of
a field stand two columns further in, items of a field in the same column as its key, and an array
or object without items stays on the line, as `[]` or `{}`.
-/

namespace WrappedTraining.Yaml

/-- The text with an end of line, if it has none yet. -/
def ended (s : String) : String :=
  if s.toList.getLast?.any isBreak then s else s ++ "\n"

/-- The longest key, in bytes, that is written before its colon on one line. -/
def maxKeySize : Nat := 128

/-- The key stands on one line with its value or the start of it. -/
def isSimpleKey (k : String) : Bool := !k.toList.any isBreak && k.utf8ByteSize ≤ maxKeySize

/-- A value without items on the line it starts on, with its end of line. -/
def leaf (indent : Nat) : Json → String
  | .null => "null\n"
  | .bool b => if b then "true\n" else "false\n"
  | .int n => Text.ofInt n ++ "\n"
  | .fraction m p => Json.fractionText m p ++ "\n"
  | .str s => ended (scalar indent s)
  | .arr _ => "[]\n"
  | .obj _ => "\x7b\x7d\n"

/-- A key with its colon. One that is no simple key has a mark in front, and its colon starts a
line. -/
def keyText (column : Nat) (k : String) : String :=
  if isSimpleKey k then scalar (column + 2) k ++ ":"
  else "? " ++ ended (scalar (column + 2) k) ++ blanks column ++ ":"

mutual

/-- The value behind a mark or a key in column `column`. Items and fields behind a mark start on
its line. -/
def behind (isMark : Bool) (column : Nat) : Json → String
  | .arr (j :: js) =>
    if isMark then " " ++ items (column + 2) (j :: js)
    else "\n" ++ blanks column ++ items column (j :: js)
  | .obj (f :: fs) =>
    (if isMark then " " else "\n" ++ blanks (column + 2)) ++ fields (column + 2) (f :: fs)
  | .null => " " ++ leaf (column + 2) .null
  | .bool b => " " ++ leaf (column + 2) (.bool b)
  | .int n => " " ++ leaf (column + 2) (.int n)
  | .fraction m p => " " ++ leaf (column + 2) (.fraction m p)
  | .str s => " " ++ leaf (column + 2) (.str s)
  | .arr [] => " " ++ leaf (column + 2) (.arr [])
  | .obj [] => " " ++ leaf (column + 2) (.obj [])

/-- Items in a column; the place of the first is already reached. -/
def items (column : Nat) : List Json → String
  | [] => ""
  | [j] => "-" ++ behind true column j
  | j :: k :: js => "-" ++ behind true column j ++ blanks column ++ items column (k :: js)

/-- Fields in a column; the place of the first is already reached. -/
def fields (column : Nat) : List (String × Json) → String
  | [] => ""
  | [(k, j)] => keyText column k ++ behind (!isSimpleKey k) column j
  | (k, j) :: f :: fs =>
    keyText column k ++ behind (!isSimpleKey k) column j ++ blanks column ++
      fields column (f :: fs)

end

/-- The value as a document. -/
def document : Json → String
  | .arr (j :: js) => items 0 (j :: js)
  | .obj (f :: fs) => fields 0 (f :: fs)
  | j => leaf 2 j

end WrappedTraining.Yaml
