import WrappedTraining.Text.Blank
import WrappedTraining.Text.Numeral
import WrappedTraining.Text.Quoted

/-!
# Quantities

A quantity is a decimal number with a unit suffix: `500m`, `2Gi`, `0.5`, `1e3`. It has an optional
sign, digits with at most one point, and then either a suffix for a power of ten or of two or a
decimal exponent.

* `Quantity.parse` reads a quantity, white space around it aside;
* `Quantity.value` is the nearest double of the number times the double of its unit;
* `Quantity.count` is the whole number of units that a quantity stands for;
* `Quantity.total?` adds counts up in 64 bits, as long as the sums stay there.
-/

namespace WrappedTraining

/-- How the unit of a quantity is written. -/
inductive Quantity.Format where
  /-- A power of two, as in `Ki`. -/
  | binary
  /-- A power of ten with a letter, or none. -/
  | decimal
  /-- A power of ten in figures, as in `e3`. -/
  | exponent
deriving DecidableEq

/-- A quantity that was read. -/
structure Quantity where
  /-- The text without white space around it. -/
  raw : String
  /-- The value in units, rounded to a double. -/
  value : Float
  /-- How the unit is written. -/
  format : Quantity.Format

namespace Quantity

/-- The text is no quantity. -/
structure Error where
  /-- The text, white space included. -/
  input : String
deriving DecidableEq

/-- The text of an error. -/
def Error.message (e : Error) : String :=
  "quantities must match the regular expression " ++
    "'^([+-]?[0-9.]+)([eEinumkKMGTP]*[-+]?[0-9]*)$': " ++ Text.quoted e.input

/-! ### Units -/

/-- The units with letters. -/
def suffixes : List (String × Float × Format) :=
  [("Ki", 1024.0, .binary), ("Mi", 1048576.0, .binary), ("Gi", 1073741824.0, .binary),
   ("Ti", 1099511627776.0, .binary), ("Pi", 1125899906842624.0, .binary),
   ("Ei", 1152921504606846976.0, .binary),
   ("n", 1e-9, .decimal), ("u", 1e-6, .decimal), ("m", 1e-3, .decimal), ("", 1.0, .decimal),
   ("k", 1e3, .decimal), ("M", 1e6, .decimal), ("G", 1e9, .decimal), ("T", 1e12, .decimal),
   ("P", 1e15, .decimal), ("E", 1e18, .decimal)]

/-- Multiply `m` by `a ^ b`, squaring `a` once for each binary digit of `b`. -/
def timesPower (m a : Float) (b : Nat) : (digits : Nat) → Float
  | 0 => m
  | digits + 1 =>
    let m := if b % 2 = 1 then m * a else m
    if b / 2 = 0 then m else timesPower m (a * a) (b / 2) digits

/-- The double of `10 ^ e`, by repeated squaring; the inverse is taken last. -/
def tenToThe (e : Int) : Float :=
  let m := timesPower 1.0 10.0 e.natAbs (e.natAbs.log2 + 1)
  if e < 0 then 1.0 / m else m

/-- The exponent after `e` or `E`: an optional sign and digits, in 32 bits. -/
def exponent? : List Char → Option Int
  | 'e' :: cs => Text.integerIn? (-0x80000000) 0x7FFFFFFF (String.ofList cs)
  | 'E' :: cs => Text.integerIn? (-0x80000000) 0x7FFFFFFF (String.ofList cs)
  | _ => none

/-- The size of a unit and how it is written. -/
def unit? (suffix : List Char) : Option (Float × Format) :=
  match suffixes.find? fun u => u.1 = String.ofList suffix with
  | some u => some u.2
  | none => (exponent? suffix).map fun e => (tenToThe e, .exponent)

/-! ### Numbers -/

/-- A character of a decimal number. -/
def isNumeral (c : Char) : Bool := c.isDigit || c = '.'

/-- The nearest double of digits with at most one point among them. -/
def magnitude? (number : List Char) : Option Float :=
  let whole := number.takeWhile (· ≠ '.')
  let places := (number.dropWhile (· ≠ '.')).drop 1
  if (whole ++ places) = [] ∨ places.contains '.' then none
  else some (Float.ofScientific (Text.digitsValue (whole ++ places)) true places.length)

/-- The sign of a number and what follows it. -/
def signed : List Char → Float × List Char
  | '-' :: cs => (-1.0, cs)
  | '+' :: cs => (1.0, cs)
  | cs => (1.0, cs)

/-! ### Reading -/

/-- Value and format of a text without white space around it. -/
def parts? (cs : List Char) : Option (Float × Format) := do
  let (sign, body) := signed cs
  let magnitude ← magnitude? (body.takeWhile isNumeral)
  let (unit, format) ← unit? (body.dropWhile isNumeral)
  return (sign * magnitude * unit, format)

/-- Read a quantity. -/
def parse (input : String) : Except Error Quantity :=
  let raw := Text.trimBlank input
  match parts? raw.toList with
  | some (value, format) => .ok ⟨raw, value, format⟩
  | none => .error ⟨input⟩

/-- The text is a quantity. -/
def isValid (input : String) : Bool := (parse input).isOk

/-- The whole units of a quantity, truncated toward zero into 64 bits. A value that is no number has
none. -/
def wholeUnits (q : Quantity) : Int :=
  if q.value < 0.0 then -((min (-q.value).toUInt64.toNat 0x8000000000000000 : Nat) : Int)
  else ((min q.value.toUInt64.toNat 0x7FFFFFFFFFFFFFFF : Nat) : Int)

/-- The whole units a text stands for; no quantity counts as zero. -/
def count (input : String) : Int :=
  match parse input with
  | .ok q => q.wholeUnits
  | .error _ => 0

/-- The sum of two counts, if it is an integer of 64 bits. -/
def add? (m n : Int) : Option Int :=
  if -0x8000000000000000 ≤ m + n ∧ m + n ≤ 0x7FFFFFFFFFFFFFFF then some (m + n) else none

/-- Counts added up from left to right in 64 bits. There is no total if a sum on the way leaves
them. -/
def total? (counts : List Int) : Option Int := counts.foldlM add? 0

end Quantity

end WrappedTraining
