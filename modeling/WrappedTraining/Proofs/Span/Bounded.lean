import WrappedTraining.Proofs.Span.Notation
import WrappedTraining.Proofs.Text.Numeral

/-!
# Spans on numbers of bounded size

`Span.Bounded.parse` reads a span one operation at a time on numbers of 128 bits, and on 64 bits
where the sign is put to it. An operation with a check ends in an error of the span if its result
is too large; one without a check leaves no result then.

* `Span.Bounded.fraction_eq` : the digits after the point, of which at most 20 count;
* `Span.Bounded.nanos_eq`, `Span.Bounded.sum_eq` : terms and their sum, where several checks stand
  for the one of `Span.sumTerms`;
* `Span.Bounded.parse_eq` : no operation without a check leaves its bounds, and the text is read as
  `Span.parse` reads it.
-/

namespace WrappedTraining

namespace Span

namespace Bounded

/-! ### Operations -/

/-- A computation that ends in a result or an error of the span, or in neither when an operation
without a check left its bounds. -/
abbrev Computation := ExceptT Error Option

/-- The computation with this end. -/
def ended {α : Type} (x : Except Error α) : Computation α := ExceptT.mk (some x)

/-- An operation left its bounds unseen. -/
def failed {α : Type} : Computation α := ExceptT.mk none

/-- The result of an operation on 128 bits without a check. -/
def unchecked (n : Nat) : Computation Nat := if n < totalBound then pure n else failed

/-- The result of an operation on 128 bits with a check. -/
def checked (input : String) (n : Nat) : Computation Nat :=
  if n < totalBound then pure n else throw (.overflow input)

/-- The number a digit stands for, a difference without a check. -/
def digit (d : Char) : Computation Nat :=
  if '0'.toNat ≤ d.toNat then pure (d.toNat - '0'.toNat) else failed

/-- The negative of a number in 64 bits, without a check. -/
def negative (n : Nat) : Computation Int :=
  if n ≤ 0x8000000000000000 then pure (-(n : Int)) else failed

/-! ### Reading -/

/-- The digits after the point as a number, and the power of ten that it is divided by. -/
structure Fraction where
  /-- The number. -/
  digits : Nat
  /-- The power of ten. -/
  power : Nat

/-- One more digit after the point. -/
def Fraction.push (f : Fraction) (d : Char) : Computation Fraction := do
  let shifted ← unchecked (f.digits * 10)
  let digits ← unchecked (shifted + (← digit d))
  let power ← unchecked (f.power * 10)
  return ⟨digits, power⟩

/-- The digits after the point. -/
def fraction (places : List Char) : Computation Fraction := places.foldlM Fraction.push ⟨0, 1⟩

/-- The nanoseconds of a number with `scale` nanoseconds to the unit. -/
def nanos (input : String) (t : Term) (scale : Nat) : Computation Nat := do
  let whole ← checked input (Text.digitsValue t.whole)
  let amount ← checked input (whole * scale)
  let f ← fraction (t.places.take maxPlaces)
  let part ← unchecked (f.digits * scale)
  checked input (amount + part / f.power)

/-- The nanoseconds of a term, or what is wrong with it. -/
def value (input : String) (t : Term) : Computation Nat :=
  if t.whole = [] ∧ t.places = [] then throw (.invalid input)
  else if t.unit = [] then throw (.missingUnit input)
  else match unitNanos? t.unit with
    | none => throw (.unknownUnit (String.ofList t.unit) input)
    | some scale => nanos input t scale

/-- Add the terms of a text to `total`. A term without a unit, which has no value, ends the sum. -/
def sum (input : String) (total : Nat) (cs : List Char) : Computation Nat :=
  if cs = [] then pure total
  else if _h : (firstTerm cs).1.unit = [] then value input (firstTerm cs).1
  else do
    let n ← value input (firstTerm cs).1
    let total ← checked input (total + n)
    sum input total (firstTerm cs).2
termination_by cs.length
decreasing_by exact length_firstTerm _h

/-- The nanoseconds of a text without its sign, in 64 bits. -/
def magnitude (input : String) (cs : List Char) : Computation Nat :=
  if cs = ['0'] then pure 0
  else if cs = [] then throw (.invalid input)
  else do
    let total ← sum input 0 cs
    if total ≤ 0x7FFFFFFFFFFFFFFF then pure total else throw (.overflow input)

/-- Read a span of time. -/
def parse (input : String) : Computation Span :=
  match input.toList with
  | '-' :: cs => do
    let n ← magnitude input cs
    return ⟨← negative n⟩
  | '+' :: cs => do return ⟨← magnitude input cs⟩
  | cs => do return ⟨← magnitude input cs⟩

/-! ### Operations that stay in their bounds -/

variable {α β : Type}

@[simp] theorem ended_ok_bind (a : α) (f : α → Computation β) :
    (ended (.ok a) >>= f) = f a := rfl

@[simp] theorem ended_error_bind (e : Error) (f : α → Computation β) :
    (ended (.error e) >>= f) = ended (.error e) := rfl

theorem pure_eq_ended (a : α) : (pure a : Computation α) = ended (.ok a) := rfl

theorem unchecked_eq {n : Nat} (h : n < totalBound) : unchecked n = ended (.ok n) := if_pos h

theorem checked_eq (input : String) (n : Nat) :
    checked input n = ended (if n < totalBound then .ok n else .error (.overflow input)) := by
  unfold checked
  split <;> rfl

theorem digit_eq {d : Char} (h : d.isDigit) : digit d = ended (.ok (d.toNat - '0'.toNat)) :=
  if_pos (Char.isDigit_iff_toNat.1 h).1

theorem negative_eq {n : Nat} (h : n ≤ 0x7FFFFFFFFFFFFFFF) :
    negative n = ended (.ok (-(n : Int))) :=
  if_pos (by omega)

/-! ### The digits after the point -/

/-- Up to 20 digits and a unit fit into 128 bits. -/
theorem pow_mul_lt {k scale : Nat} (hk : k ≤ maxPlaces) (hscale : scale ≤ 3600 * nanosPerSecond) :
    10 ^ k * scale < totalBound := by
  calc 10 ^ k * scale ≤ 10 ^ maxPlaces * (3600 * nanosPerSecond) :=
        Nat.mul_le_mul (Nat.pow_le_pow_right (by decide) hk) hscale
    _ < totalBound := by decide

/-- The digits that were read so far. -/
def Fraction.ofPlaces (places : List Char) : Fraction :=
  ⟨Text.digitsValue places, 10 ^ places.length⟩

theorem push_ofPlaces {places : List Char} {d : Char} (hplaces : ∀ c ∈ places ++ [d], c.isDigit)
    (hlen : (places ++ [d]).length ≤ maxPlaces) :
    (Fraction.ofPlaces places).push d = ended (.ok (.ofPlaces (places ++ [d]))) := by
  have hpower : 10 ^ (places ++ [d]).length < totalBound := by
    simpa using pow_mul_lt hlen (by decide : 1 ≤ 3600 * nanosPerSecond)
  have hdigits := Nat.lt_trans (Text.digitsValue_lt hplaces) hpower
  have hd : d.isDigit := hplaces d (by simp)
  rw [Text.digitsValue_concat, Nat.mul_comm] at hdigits
  rw [List.length_append, List.length_singleton, Nat.pow_succ] at hpower
  have hshifted : Text.digitsValue places * 10 < totalBound := by omega
  simp only [Fraction.push, Fraction.ofPlaces, unchecked_eq hshifted, digit_eq hd, ended_ok_bind,
    unchecked_eq hdigits, unchecked_eq hpower, pure_eq_ended, Text.digitsValue_concat,
    List.length_append, List.length_singleton, Nat.pow_succ, Nat.mul_comm 10]

/-- The digits already read stand in front of those still to be read. -/
theorem foldlM_push {places front : List Char} (hplaces : ∀ c ∈ front ++ places, c.isDigit)
    (hlen : (front ++ places).length ≤ maxPlaces) :
    places.foldlM Fraction.push (.ofPlaces front) = ended (.ok (.ofPlaces (front ++ places))) := by
  induction places generalizing front with
  | nil =>
    rw [List.append_nil]
    rfl
  | cons d places ih =>
    have hcons : front ++ d :: places = front ++ [d] ++ places := by simp
    rw [hcons] at hplaces hlen ⊢
    have hpush : (Fraction.ofPlaces front).push d = ended (.ok (.ofPlaces (front ++ [d]))) :=
      push_ofPlaces (fun c hc => hplaces c (List.mem_append_left _ hc))
        (by rw [List.length_append] at hlen; omega)
    rw [List.foldlM_cons, hpush, ended_ok_bind]
    exact ih hplaces hlen

/-- **No step of the digits after the point leaves 128 bits.** -/
theorem fraction_eq {places : List Char} (hplaces : ∀ c ∈ places, c.isDigit)
    (hlen : places.length ≤ maxPlaces) : fraction places = ended (.ok (.ofPlaces places)) :=
  @foldlM_push places [] hplaces hlen

/-! ### Terms -/

theorem scale_bounds {unit : List Char} {scale : Nat} (h : unitNanos? unit = some scale) :
    0 < scale ∧ scale ≤ 3600 * nanosPerSecond := by
  have hunits : ∀ u ∈ units, 0 < u.2 ∧ u.2 ≤ 3600 * nanosPerSecond := by decide
  obtain ⟨u, hu, rfl⟩ := Option.map_eq_some_iff.1 h
  exact hunits u (List.mem_of_find?_eq_some hu)

/-- The checks of a term are one check of its nanoseconds. -/
theorem nanos_eq {t : Term} {scale : Nat} (hplaces : ∀ c ∈ t.places, c.isDigit)
    (hunit : unitNanos? t.unit = some scale) (input : String) :
    nanos input t scale = checked input (t.nanos scale) := by
  obtain ⟨hpos, hscale⟩ := scale_bounds hunit
  have hlen : (t.places.take maxPlaces).length ≤ maxPlaces := List.length_take_le _ _
  have hdigits : ∀ c ∈ t.places.take maxPlaces, c.isDigit :=
    fun c hc => hplaces c (List.mem_of_mem_take hc)
  have hpart : (Fraction.ofPlaces (t.places.take maxPlaces)).digits * scale < totalBound :=
    Nat.lt_of_le_of_lt (Nat.mul_le_mul_right scale (Nat.le_of_lt (Text.digitsValue_lt hdigits)))
      (pow_mul_lt hlen hscale)
  have hwhole : Text.digitsValue t.whole ≤ Text.digitsValue t.whole * scale :=
    Nat.le_mul_of_pos_right _ hpos
  have hnanos : Text.digitsValue t.whole * scale ≤ t.nanos scale := Nat.le_add_right _ _
  simp only [nanos, checked_eq, fraction_eq hdigits hlen, ended_ok_bind, unchecked_eq hpart]
  -- each check looks at a number that is no larger than the next, so the last one stands for all
  by_cases hw : Text.digitsValue t.whole < totalBound
  · by_cases hs : Text.digitsValue t.whole * scale < totalBound
    · simp only [hw, hs, if_true, ended_ok_bind]
      rfl
    · have hn : ¬t.nanos scale < totalBound := by omega
      simp only [hw, hs, hn, if_true, if_false, ended_ok_bind, ended_error_bind]
  · have hn : ¬t.nanos scale < totalBound := by omega
    simp only [hw, hn, if_false, ended_error_bind]

theorem value_eq {t : Term} (hplaces : ∀ c ∈ t.places, c.isDigit) (input : String) :
    value input t = ended (t.value input) >>= checked input := by
  unfold value Term.value
  split
  · rfl
  · split
    · rfl
    · cases hunit : unitNanos? t.unit with
      | none => rfl
      | some scale => exact nanos_eq hplaces hunit input

/-! ### Sums -/

theorem value_firstTerm (input : String) (cs : List Char) :
    value input (firstTerm cs).1 = ended ((firstTerm cs).1.value input) >>= checked input :=
  value_eq (fun c hc => digits_firstTerm cs c (List.mem_append_right _ hc)) input

/-- The term that is added is the first one, also when its fault is to have no unit. -/
theorem sum_of_ne_nil (input : String) (total : Nat) {cs : List Char} (hcs : cs ≠ []) :
    sum input total cs = value input (firstTerm cs).1 >>= fun n =>
      checked input (total + n) >>= fun total => sum input total (firstTerm cs).2 := by
  rw [sum, if_neg hcs]
  split
  · rename_i hunit
    have hfault : ∃ e, value input (firstTerm cs).1 = ended (.error e) := by
      unfold value
      split
      · exact ⟨_, rfl⟩
      · exact ⟨.missingUnit input, rfl⟩
    obtain ⟨e, he⟩ := hfault
    rw [he, ended_error_bind]
  · rfl

/-- **The checks of a sum are one check for each term.** -/
theorem sum_eq (input : String) (total : Nat) (cs : List Char) :
    sum input total cs = ended (sumTerms input total cs) := by
  fun_induction sumTerms input total cs with
  | case1 total =>
    rw [sum, if_pos rfl]
    rfl
  | case2 total cs hcs e he =>
    rw [sum_of_ne_nil input total hcs, value_firstTerm, he]
    rfl
  | case3 total cs hcs n hn hbound =>
    have htotal : ¬total + n < totalBound := Nat.not_lt.2 hbound
    rw [sum_of_ne_nil input total hcs, value_firstTerm, hn]
    by_cases hnanos : n < totalBound
    · simp only [ended_ok_bind, ended_error_bind, checked_eq, hnanos, htotal, if_true, if_false]
    · simp only [ended_ok_bind, ended_error_bind, checked_eq, hnanos, if_false]
  | case4 total cs hcs n hn hbound ih =>
    have htotal : total + n < totalBound := Nat.not_le.1 hbound
    have hnanos : n < totalBound := Nat.lt_of_le_of_lt (Nat.le_add_left n total) htotal
    rw [sum_of_ne_nil input total hcs, value_firstTerm, hn]
    simp only [ended_ok_bind, checked_eq, htotal, hnanos, if_true, ih]

theorem magnitude_eq (input : String) (cs : List Char) :
    magnitude input cs = ended (Span.magnitude input cs) := by
  unfold magnitude Span.magnitude
  split
  · rfl
  · split
    · rfl
    · rw [sum_eq]
      split
      · rename_i e he
        rw [he]
        rfl
      · rename_i total htotal
        rw [htotal, ended_ok_bind]
        split <;> rfl

theorem magnitude_le {input : String} {cs : List Char} {n : Nat}
    (h : Span.magnitude input cs = .ok n) : n ≤ 0x7FFFFFFFFFFFFFFF := by
  unfold Span.magnitude at h
  split at h
  · cases h
    decide
  · split at h
    · cases h
    · split at h
      · cases h
      · split at h
        · cases h
          assumption
        · cases h

/-- **No operation without a check leaves its bounds**, and a text is read as a span as it is on
numbers without bounds. -/
theorem parse_eq (input : String) : parse input = ended (Span.parse input) := by
  rw [Span.parse_eq]
  unfold parse
  split
  · rename_i cs hcs
    rw [hcs, magnitude_eq]
    cases h : Span.magnitude input cs with
    | error e => simp only [cutSign, h]; rfl
    | ok n =>
      simp only [ended_ok_bind, negative_eq (magnitude_le h), cutSign, h, Int.neg_one_mul]
      rfl
  · rename_i cs hcs
    rw [hcs, magnitude_eq]
    cases h : Span.magnitude input cs with
    | error e => simp only [cutSign, h]; rfl
    | ok n => simp only [cutSign, h, Int.one_mul]; rfl
  · rename_i hminus hplus
    rw [cutSign.eq_3 _ hminus hplus, magnitude_eq]
    cases Span.magnitude input input.toList with
    | error e => rfl
    | ok n => simp only [Int.one_mul]; rfl

end Bounded

end Span

end WrappedTraining
