/-!
# Decimal integers in text

* `integer?` reads an optional sign followed by ASCII digits alone, so `+5`, `007` and `-0` are
  integers and `1_000` is not;
* `integerIn?` reads only the integers of a range;
* `ofInt` writes an integer without leading zeros.
-/

namespace WrappedTraining.Text

/-- The number a run of digits stands for, most significant digit first. -/
def digitsValue (ds : List Char) : Nat :=
  ds.foldl (fun n d => 10 * n + (d.toNat - '0'.toNat)) 0

/-- The value of a non-empty run of ASCII digits. -/
def natural? (cs : List Char) : Option Nat :=
  if cs ≠ [] ∧ cs.all Char.isDigit then some (digitsValue cs) else none

/-- The value of a natural number with an optional sign. -/
def integer? : List Char → Option Int
  | '-' :: cs => (natural? cs).map fun n => -(n : Int)
  | '+' :: cs => (natural? cs).map fun n => (n : Int)
  | cs => (natural? cs).map fun n => (n : Int)

/-- The integer a text stands for, when it lies between `lo` and `hi`. -/
def integerIn? (lo hi : Int) (s : String) : Option Int :=
  match integer? s.toList with
  | some n => if lo ≤ n ∧ n ≤ hi then some n else none
  | none => none

theorem integerIn?_bounds {lo hi n : Int} {s : String} (h : integerIn? lo hi s = some n) :
    lo ≤ n ∧ n ≤ hi := by
  unfold integerIn? at h
  split at h
  · split at h
    · next hb => simp only [Option.some.injEq] at h; exact h ▸ hb
    · simp at h
  · simp at h

/-- The 32-bit integer a text stands for. -/
def int32? (s : String) : Option Int32 :=
  (integerIn? (-0x80000000) 0x7FFFFFFF s).map Int32.ofInt

/-- The 64-bit integer a text stands for. -/
def int64? (s : String) : Option Int64 :=
  (integerIn? (-0x8000000000000000) 0x7FFFFFFFFFFFFFFF s).map Int64.ofInt

/-- The decimal text of a natural number. -/
def ofNat (n : Nat) : String := Nat.repr n

/-- The decimal text of an integer. -/
def ofInt (n : Int) : String :=
  if n < 0 then "-" ++ ofNat n.natAbs else ofNat n.natAbs

/-- The decimal text of a natural number with zeros in front up to `width` digits. -/
def padded (width n : Nat) : String :=
  String.ofList (List.replicate (width - (ofNat n).length) '0') ++ ofNat n

end WrappedTraining.Text
