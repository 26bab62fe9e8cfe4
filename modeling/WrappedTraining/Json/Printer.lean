import WrappedTraining.Json
import WrappedTraining.Text.Numeral
import WrappedTraining.Text.Quoted

/-!
# Printing JSON

* `Json.compact` writes a value on one line without blanks;
* `Json.pretty` writes one item or field to a line, two columns deeper than its parent; an array
  or object without items stays on its line.
-/

namespace WrappedTraining.Json

/-! ### Strings and numbers -/

/-- How one character is written inside a JSON string. -/
def escapedChar (c : Char) : String :=
  match c with
  | '"' => "\\\""
  | '\\' => "\\\\"
  | '\x08' => "\\b"
  | '\x0c' => "\\f"
  | '\n' => "\\n"
  | '\r' => "\\r"
  | '\t' => "\\t"
  | c =>
    if c.toNat < 16 then "\\u000" ++ Text.hex c.toNat
    else if c.toNat < 32 then "\\u00" ++ Text.hex c.toNat
    else c.toString

/-- The text as a JSON string. -/
def quotedText (s : String) : String :=
  s.toList.foldl (fun out c => out ++ escapedChar c) "\"" ++ "\""

/-- The number `mantissa / 10 ^ places` with its point. -/
def fractionText (mantissa : Int) (places : Nat) : String :=
  let scale := Nat.pow 10 places
  let whole := mantissa.natAbs / scale
  let rest := mantissa.natAbs % scale
  (if mantissa < 0 then "-" else "") ++ Text.ofNat whole ++ "." ++ Text.padded places rest

/-! ### On one line -/

mutual

/-- The value on one line. -/
def compact : Json → String
  | .null => "null"
  | .bool b => if b then "true" else "false"
  | .int n => Text.ofInt n
  | .fraction m p => fractionText m p
  | .str s => quotedText s
  | .arr items => "[" ++ compactItems items ++ "]"
  | .obj fields => "\x7b" ++ compactFields fields ++ "\x7d"

/-- Items separated by commas. -/
def compactItems : List Json → String
  | [] => ""
  | [j] => compact j
  | j :: k :: js => compact j ++ "," ++ compactItems (k :: js)

/-- Fields separated by commas. -/
def compactFields : List (String × Json) → String
  | [] => ""
  | [(k, j)] => quotedText k ++ ":" ++ compact j
  | (k, j) :: f :: fs => quotedText k ++ ":" ++ compact j ++ "," ++ compactFields (f :: fs)

end

/-! ### On several lines -/

/-- A new line that starts `depth` levels deep. -/
def newline (depth : Nat) : String := "\n" ++ String.ofList (List.replicate (2 * depth) ' ')

mutual

/-- The value on several lines, its children one level below `depth`. -/
def prettyAt (depth : Nat) : Json → String
  | .arr (j :: js) => "[" ++ prettyItems (depth + 1) (j :: js) ++ newline depth ++ "]"
  | .obj (f :: fs) => "\x7b" ++ prettyFields (depth + 1) (f :: fs) ++ newline depth ++ "\x7d"
  | .arr [] => "[]"
  | .obj [] => "\x7b\x7d"
  | .null => "null"
  | .bool b => if b then "true" else "false"
  | .int n => Text.ofInt n
  | .fraction m p => fractionText m p
  | .str s => quotedText s

/-- Items, each on a line of its own. -/
def prettyItems (depth : Nat) : List Json → String
  | [] => ""
  | [j] => newline depth ++ prettyAt depth j
  | j :: k :: js => newline depth ++ prettyAt depth j ++ "," ++ prettyItems depth (k :: js)

/-- Fields, each on a line of its own. -/
def prettyFields (depth : Nat) : List (String × Json) → String
  | [] => ""
  | [(k, j)] => newline depth ++ quotedText k ++ ": " ++ prettyAt depth j
  | (k, j) :: f :: fs =>
    newline depth ++ quotedText k ++ ": " ++ prettyAt depth j ++ "," ++ prettyFields depth (f :: fs)

end

/-- The value on several lines, two columns to a level. -/
def pretty (j : Json) : String := prettyAt 0 j

end WrappedTraining.Json
