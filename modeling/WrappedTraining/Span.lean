import WrappedTraining.Text.Numeral

/-!
# Spans of time

`Span` is a signed number of nanoseconds. `Span.parse` reads the notation of the submission
options, `1m30s`, `90s` or `-1.5h`: an optional sign, and then either `0` alone or terms, each a
decimal number with a unit. The value of a term is the whole part of its nanoseconds, of which the
first 20 digits after the point are taken.
-/

namespace WrappedTraining

/-- A signed length of time. -/
structure Span where
  /-- The length in nanoseconds. -/
  nanos : Int
deriving DecidableEq, Inhabited

namespace Span

/-- The span of no length. -/
def zero : Span := ⟨0⟩

/-- Nanoseconds in a second. -/
def nanosPerSecond : Nat := 1000000000

/-- Whole seconds, truncated toward zero. -/
def seconds (s : Span) : Int := s.nanos.tdiv nanosPerSecond

/-- The nanoseconds that whole seconds leave over, with the sign of the span. -/
def subsecond (s : Span) : Int := s.nanos.tmod nanosPerSecond

/-- The span is below zero. -/
def isNegative (s : Span) : Bool := s.nanos < 0

/-- The span of a number of seconds. -/
def ofSeconds (n : Int) : Span := ⟨n * nanosPerSecond⟩

/-! ### Errors -/

/-- Why a text is no span. -/
inductive Error where
  | invalid (input : String)
  | missingUnit (input : String)
  | unknownUnit (unit input : String)
  | overflow (input : String)
deriving DecidableEq

/-- The text of an error. -/
def Error.message : Error → String
  | .invalid input => "invalid duration \"" ++ input ++ "\""
  | .missingUnit input => "missing unit in duration \"" ++ input ++ "\""
  | .unknownUnit unit input => "unknown unit \"" ++ unit ++ "\" in duration \"" ++ input ++ "\""
  | .overflow input => "duration \"" ++ input ++ "\" out of range"

/-! ### Terms -/

/-- The units of a term with their nanoseconds; a micro sign is either of two characters. -/
def units : List (String × Nat) :=
  [("ns", 1), ("us", 1000), ("\u00b5s", 1000), ("\u03bcs", 1000), ("ms", 1000000),
   ("s", nanosPerSecond), ("m", 60 * nanosPerSecond), ("h", 3600 * nanosPerSecond)]

/-- The nanoseconds of a unit. -/
def unitNanos? (unit : List Char) : Option Nat :=
  (units.find? fun u => u.1 = String.ofList unit).map (·.2)

/-- A decimal number with a unit, as written. -/
structure Term where
  /-- Digits before the point. -/
  whole : List Char
  /-- Digits after the point. -/
  places : List Char
  /-- The unit. -/
  unit : List Char
deriving DecidableEq

/-- A character that ends a unit. -/
def endsUnit (c : Char) : Bool := c = '.' || c.isDigit

/-- The digits after a point, if there is a point, and the rest of the text. -/
def placesOf : List Char → List Char × List Char
  | '.' :: cs => (cs.takeWhile Char.isDigit, cs.dropWhile Char.isDigit)
  | cs => ([], cs)

/-- The first term of a text and the rest of the text. -/
def firstTerm (cs : List Char) : Term × List Char :=
  let (places, rest) := placesOf (cs.dropWhile Char.isDigit)
  (⟨cs.takeWhile Char.isDigit, places, rest.takeWhile fun c => !endsUnit c⟩,
    rest.dropWhile fun c => !endsUnit c)

theorem length_placesOf (cs : List Char) : (placesOf cs).2.length ≤ cs.length := by
  unfold placesOf
  split
  · next cs =>
    have := (List.dropWhile_sublist (l := cs) Char.isDigit).length_le
    simp only [List.length_cons]
    omega
  · exact Nat.le_refl _

/-- A term with a unit takes something from the text. -/
theorem length_firstTerm {cs : List Char} (h : (firstTerm cs).1.unit ≠ []) :
    (firstTerm cs).2.length < cs.length := by
  simp only [firstTerm] at h ⊢
  have h₁ := (List.dropWhile_sublist (l := cs) Char.isDigit).length_le
  have h₂ := length_placesOf (cs.dropWhile Char.isDigit)
  have h₃ : (placesOf (cs.dropWhile Char.isDigit)).2.length =
      ((placesOf (cs.dropWhile Char.isDigit)).2.takeWhile fun c => !endsUnit c).length +
        ((placesOf (cs.dropWhile Char.isDigit)).2.dropWhile fun c => !endsUnit c).length := by
    rw [← List.length_append, List.takeWhile_append_dropWhile]
  have h₄ := List.length_pos_iff.2 h
  omega

/-- How many digits after the point count. -/
def maxPlaces : Nat := 20

/-- The nanoseconds of a number with `scale` nanoseconds to the unit, rounded down. -/
def Term.nanos (t : Term) (scale : Nat) : Nat :=
  let places := t.places.take maxPlaces
  Text.digitsValue t.whole * scale +
    Text.digitsValue places * scale / Nat.pow 10 places.length

/-- The nanoseconds of a term, or what is wrong with it. -/
def Term.value (input : String) (t : Term) : Except Error Nat :=
  if t.whole = [] ∧ t.places = [] then .error (.invalid input)
  else if t.unit = [] then .error (.missingUnit input)
  else match unitNanos? t.unit with
    | none => .error (.unknownUnit (String.ofList t.unit) input)
    | some scale => .ok (t.nanos scale)

theorem Term.unit_ne_nil {input : String} {t : Term} {n : Nat} (h : t.value input = .ok n) :
    t.unit ≠ [] := by
  unfold Term.value at h
  split at h
  · simp at h
  · split at h
    · simp at h
    · assumption

/-! ### Reading -/

/-- The running total stays below this bound while terms are added. -/
def totalBound : Nat := Nat.pow 2 128

/-- Add the terms of a text to `total`; the first fault ends the sum. -/
def sumTerms (input : String) (total : Nat) (cs : List Char) : Except Error Nat :=
  if cs = [] then .ok total
  else match _h : (firstTerm cs).1.value input with
    | .error e => .error e
    | .ok n =>
      if totalBound ≤ total + n then .error (.overflow input)
      else sumTerms input (total + n) (firstTerm cs).2
termination_by cs.length
decreasing_by exact length_firstTerm (Term.unit_ne_nil _h)

/-- The nanoseconds of a text without its sign, in 64 bits. -/
def magnitude (input : String) (cs : List Char) : Except Error Nat :=
  if cs = ['0'] then .ok 0
  else if cs = [] then .error (.invalid input)
  else match sumTerms input 0 cs with
    | .error e => .error e
    | .ok total => if total ≤ 0x7FFFFFFFFFFFFFFF then .ok total else .error (.overflow input)

/-- Read a span of time. -/
def parse (input : String) : Except Error Span :=
  match input.toList with
  | '-' :: cs => (magnitude input cs).map fun n => ⟨-(n : Int)⟩
  | '+' :: cs => (magnitude input cs).map fun n => ⟨n⟩
  | cs => (magnitude input cs).map fun n => ⟨n⟩

end Span

end WrappedTraining
