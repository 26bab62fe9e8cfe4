import Mathlib.Algebra.Order.Ring.Nat
import Mathlib.Data.Nat.ModEq
import WrappedTraining.Proofs.Span.Reading

/-!
# What a term is worth, and what is read of it

A term is worth the whole nanoseconds of its full number (`Span.Term.worth`). Reading it takes the
first 20 digits after the point and then the whole nanoseconds, and so can come out short: the
digits that were cut off can complete a nanosecond that the others have begun
(`Span.Term.IsShort`).

* `Span.Term.worth_eq` : a short term is read as one nanosecond less than it is worth, and every
  other one as what it is worth;
* `Span.Term.not_isShort_of_dvd` : a term cannot come out short if its unit divides 10^20
  nanoseconds, so that short terms are in minutes or hours;
* `Span.parse_eq_ok_iff_worth` : what a text is read as, in terms of what its terms are worth.
-/

namespace WrappedTraining

namespace Span

/-! ### Worth -/

/-- A quotient of digits in two parts: the second part carries into the first if it completes what
that leaves over. -/
theorem digits_div_eq {kept rest : List Char} {scale n : Nat} (hkept : kept.length = n)
    (hrest : Text.digitsValue rest * scale / 10 ^ rest.length < 10 ^ n) :
    Text.digitsValue (kept ++ rest) * scale / 10 ^ (kept ++ rest).length =
      Text.digitsValue kept * scale / 10 ^ n +
        if 10 ^ n ≤ Text.digitsValue kept * scale % 10 ^ n +
            Text.digitsValue rest * scale / 10 ^ rest.length then 1 else 0 := by
  calc Text.digitsValue (kept ++ rest) * scale / 10 ^ (kept ++ rest).length
      = (10 ^ rest.length * (Text.digitsValue kept * scale) + Text.digitsValue rest * scale) /
          10 ^ rest.length / 10 ^ n := by
        rw [Text.digitsValue_append, List.length_append, hkept, Nat.add_comm n, Nat.pow_add,
          Nat.div_div_eq_div_mul, Nat.add_mul, Nat.mul_right_comm, Nat.mul_comm (_ * scale)]
    _ = (Text.digitsValue kept * scale + Text.digitsValue rest * scale / 10 ^ rest.length) /
          10 ^ n := by
        rw [Nat.mul_add_div (by positivity)]
    _ = _ := by
        rw [Nat.add_div (by positivity), Nat.div_eq_of_lt hrest, Nat.mod_eq_of_lt hrest,
          Nat.add_zero]

namespace Term

/-- The number in front of the unit, with all its digits. -/
def number (t : Term) : ℚ :=
  Text.digitsValue t.whole + Text.digitsValue t.places / 10 ^ t.places.length

/-- The whole nanoseconds of the number. -/
def worth (t : Term) (scale : Nat) : Nat := ⌊t.number * scale⌋₊

/-- The digits that do not count complete a nanosecond with what the others leave over; both sides
are in parts of 10^20 to the nanosecond. -/
def IsShort (t : Term) (scale : Nat) : Prop :=
  10 ^ maxPlaces ≤ Text.digitsValue (t.places.take maxPlaces) * scale % 10 ^ maxPlaces +
    Text.digitsValue (t.places.drop maxPlaces) * scale / 10 ^ (t.places.drop maxPlaces).length

instance (t : Term) (scale : Nat) : Decidable (t.IsShort scale) :=
  inferInstanceAs (Decidable (_ ≤ _))

/-- One if the term comes out short, and zero otherwise. -/
def shortage (t : Term) (scale : Nat) : Nat := if t.IsShort scale then 1 else 0

theorem worth_eq_div (t : Term) (scale : Nat) : t.worth scale =
    Text.digitsValue t.whole * scale +
      Text.digitsValue t.places * scale / 10 ^ t.places.length := by
  have hnumber : t.number * scale =
      ((Text.digitsValue t.places * scale : Nat) : ℚ) / ((10 ^ t.places.length : Nat) : ℚ) +
        ((Text.digitsValue t.whole * scale : Nat) : ℚ) := by
    rw [number, add_mul, add_comm, div_mul_eq_mul_div]
    push_cast
    rfl
  rw [worth, hnumber, Nat.floor_add_natCast (by positivity), Nat.floor_div_eq_div, Nat.add_comm]

/-! ### Short terms -/

variable {t : Term} {scale : Nat} {cs : List Char}

/-- If no digit is cut off, the term is not short. -/
theorem not_isShort_of_length_le (h : t.places.length ≤ maxPlaces) : ¬t.IsShort scale := by
  have hpos : 0 < 10 ^ maxPlaces := by decide
  have hmod := Nat.mod_lt (Text.digitsValue (t.places.take maxPlaces) * scale) hpos
  rw [IsShort, List.drop_eq_nil_iff.2 h]
  simpa [Text.digitsValue] using hmod

/-- What the digits that are cut off add is less than one unit. -/
theorem dropped_lt (ht : t.Spells scale cs) :
    Text.digitsValue (t.places.drop maxPlaces) * scale /
      10 ^ (t.places.drop maxPlaces).length < scale := by
  have hdigits : ∀ c ∈ t.places.drop maxPlaces, c.isDigit := fun c hc =>
    ht.digits c (List.mem_append_right _ (List.mem_of_mem_drop hc))
  have hscale : 0 < scale := (Bounded.scale_bounds (unitNanos?_eq_some_iff.2 ht.unit)).1
  rw [Nat.div_lt_iff_lt_mul (by positivity), Nat.mul_comm scale]
  exact Nat.mul_lt_mul_of_pos_right (Text.digitsValue_lt hdigits) hscale

/-- The digits that are cut off lead at most to the next whole nanosecond. -/
theorem places_div_eq (ht : t.Spells scale cs) (hlen : maxPlaces ≤ t.places.length) :
    Text.digitsValue t.places * scale / 10 ^ t.places.length =
      Text.digitsValue (t.places.take maxPlaces) * scale / 10 ^ maxPlaces + t.shortage scale := by
  have hscale : scale ≤ 10 ^ maxPlaces :=
    Nat.le_trans (Bounded.scale_bounds (unitNanos?_eq_some_iff.2 ht.unit)).2 (by decide)
  conv_lhs => rw [← List.take_append_drop maxPlaces t.places]
  exact digits_div_eq (List.length_take_of_le hlen) (Nat.lt_of_lt_of_le (dropped_lt ht) hscale)

/-- **A short term is worth one nanosecond more than is read of it**, and every other term is worth
what is read. -/
theorem worth_eq (ht : t.Spells scale cs) :
    t.worth scale = t.amount scale + t.shortage scale := by
  rw [worth_eq_div, ← nanos_eq_amount, nanos]
  rcases Nat.le_total t.places.length maxPlaces with hlen | hlen
  · rw [shortage, if_neg (not_isShort_of_length_le hlen), List.take_of_length_le hlen]
    rfl
  · rw [places_div_eq ht hlen, List.length_take_of_le hlen, Nat.add_assoc]
    rfl

/-- Multiples of a unit that leave less than a nanosecond over leave a whole unit to the next one,
and the digits that are cut off are worth less than that. -/
theorem not_isShort_of_dvd (ht : t.Spells scale cs) (hdvd : scale ∣ 10 ^ maxPlaces) :
    ¬t.IsShort scale := by
  have hmod := Nat.mod_lt (Text.digitsValue (t.places.take maxPlaces) * scale)
    (by decide : 0 < 10 ^ maxPlaces)
  have hrest := dropped_lt ht
  obtain ⟨k, hk⟩ := hdvd
  obtain ⟨j, hj⟩ : scale ∣ Text.digitsValue (t.places.take maxPlaces) * scale % 10 ^ maxPlaces :=
    (Nat.dvd_mod_iff ⟨k, hk⟩).2 ⟨_, Nat.mul_comm _ _⟩
  rw [IsShort, hj, hk, Nat.not_le]
  rw [hj, hk] at hmod
  have hjk : j + 1 ≤ k := Nat.lt_of_mul_lt_mul_left hmod
  calc _ < scale * j + scale := Nat.add_lt_add_left hrest _
    _ = scale * (j + 1) := (Nat.mul_succ _ _).symm
    _ ≤ scale * k := Nat.mul_le_mul_left _ hjk

/-- Only minutes and hours come out short, and only with more digits than count. -/
theorem unit_of_isShort (ht : t.Spells scale cs) (h : t.IsShort scale) :
    maxPlaces < t.places.length ∧ (t.unit = ['m'] ∨ t.unit = ['h']) := by
  refine ⟨Nat.lt_of_not_le fun hlen => not_isShort_of_length_le hlen h, ?_⟩
  have hunits : ∀ u ∈ units, u.2 ∣ 10 ^ maxPlaces ∨ u.1.toList = ['m'] ∨ u.1.toList = ['h'] := by
    decide
  have hunit := (hunits _ ht.unit).resolve_left fun hdvd => not_isShort_of_dvd ht hdvd h
  simpa using hunit

end Term

/-! ### Texts -/

/-- Terms one after another, what they are worth together, and how many of them come out short. -/
inductive Worth : List Char → Nat → Nat → Prop
  | nil : Worth [] 0 0
  | cons {t : Term} {scale : Nat} {cs rest : List Char} {worth short : Nat}
      (head : t.Spells scale cs) (tail : Worth rest worth short) :
      Worth (cs ++ rest) (t.worth scale + worth) (t.shortage scale + short)

/-- The text is written with this sign, its terms are worth `worth` nanoseconds together, and
`short` of them come out short. -/
def Means (s : String) (sign : Int) (worth short : Nat) : Prop :=
  ∃ front cs, (front, sign) ∈ signs ∧ s.toList = front ++ cs ∧
    (cs = ['0'] ∧ worth = 0 ∧ short = 0 ∨ cs ≠ [] ∧ Worth cs worth short)

variable {cs : List Char} {s : String} {sign : Int}

theorem Worth.exists_terms {worth short : Nat} (h : Worth cs worth short) :
    ∃ total, Terms cs total ∧ worth = total + short := by
  induction h with
  | nil => exact ⟨0, .nil, rfl⟩
  | @cons t scale cs rest worth short head tail ih =>
    obtain ⟨total, hterms, hworth⟩ := ih
    refine ⟨t.amount scale + total, .cons head hterms, ?_⟩
    rw [Term.worth_eq head]
    omega

theorem Terms.exists_worth {total : Nat} (h : Terms cs total) :
    ∃ worth short, Worth cs worth short ∧ worth = total + short := by
  induction h with
  | nil => exact ⟨0, 0, .nil, rfl⟩
  | @cons t scale cs rest total head tail ih =>
    obtain ⟨worth, short, hworth, htotal⟩ := ih
    refine ⟨_, _, .cons head hworth, ?_⟩
    rw [Term.worth_eq head]
    omega

theorem Means.exists_denotes {worth short : Nat} (h : Means s sign worth short) :
    ∃ total, Denotes s sign total ∧ worth = total + short := by
  obtain ⟨front, cs, hsign, hs, ⟨hcs, rfl, rfl⟩ | ⟨hcs, hworth⟩⟩ := h
  · exact ⟨0, ⟨front, cs, hsign, hs, .inl ⟨hcs, rfl⟩⟩, rfl⟩
  · obtain ⟨total, hterms, htotal⟩ := hworth.exists_terms
    exact ⟨total, ⟨front, cs, hsign, hs, .inr ⟨hcs, hterms⟩⟩, htotal⟩

theorem Denotes.exists_means {total : Nat} (h : Denotes s sign total) :
    ∃ worth short, Means s sign worth short ∧ worth = total + short := by
  obtain ⟨front, cs, hsign, hs, ⟨hcs, rfl⟩ | ⟨hcs, hterms⟩⟩ := h
  · exact ⟨0, 0, ⟨front, cs, hsign, hs, .inl ⟨hcs, rfl, rfl⟩⟩, rfl⟩
  · obtain ⟨worth, short, hworth, htotal⟩ := hterms.exists_worth
    exact ⟨worth, short, ⟨front, cs, hsign, hs, .inr ⟨hcs, hworth⟩⟩, htotal⟩

theorem Means.sign_ne_zero {worth short : Nat} (h : Means s sign worth short) : sign ≠ 0 := by
  obtain ⟨front, cs, hsign, -⟩ := h
  have hsigns : ∀ p ∈ signs, p.2 ≠ 0 := by decide
  exact hsigns _ hsign

theorem parse_of_denotes {total : Nat} (h : Denotes s sign total) (hmax : total ≤ maxNanos) :
    parse s = .ok ⟨sign * total⟩ := by
  obtain ⟨rfl, hunsigned⟩ := denotes_iff.1 h
  rw [parse_eq, magnitude_eq_ok_iff.2 ⟨hunsigned, hmax⟩]
  rfl

theorem exists_denotes_of_parse {d : Span} (h : parse s = .ok d) :
    ∃ sign total, Denotes s sign total ∧ total ≤ maxNanos ∧ d = ⟨sign * total⟩ := by
  rw [parse_eq] at h
  cases hn : magnitude s (cutSign s.toList).2 with
  | error e => simp [hn, Except.map] at h
  | ok n =>
    obtain ⟨hunsigned, hmax⟩ := magnitude_eq_ok_iff.1 hn
    rw [hn] at h
    exact ⟨_, n, denotes_iff.2 ⟨rfl, hunsigned⟩, hmax, (Except.ok.inj h).symm⟩

/-- **What a span is read as, by what its terms are worth.** The terms of a text are worth the whole
nanoseconds of their full numbers, and the text is read as the sum of that, less one nanosecond for
each term that comes out short. It is read as the sum itself exactly if no term does; only minutes
and hours with more than 20 digits after the point can. -/
theorem parse_eq_ok_iff_worth (s : String) :
    (∀ d, parse s = .ok d ↔ ∃ sign worth short, Means s sign worth short ∧
      worth ≤ maxNanos + short ∧ d = ⟨sign * ((worth : Int) - short)⟩) ∧
    (∀ sign worth short, Means s sign worth short → worth ≤ maxNanos →
      (parse s = .ok ⟨sign * worth⟩ ↔ short = 0)) ∧
    ∀ (t : Term) scale cs, t.Spells scale cs →
      t.value s = .ok (t.worth scale - t.shortage scale) ∧
      (t.IsShort scale → maxPlaces < t.places.length ∧ (t.unit = ['m'] ∨ t.unit = ['h'])) := by
  refine ⟨fun d => ⟨fun h => ?_, ?_⟩, fun sign worth short h hmax => ?_, fun t scale cs ht => ⟨?_,
    Term.unit_of_isShort ht⟩⟩
  · obtain ⟨sign, total, hdenotes, hmax, rfl⟩ := exists_denotes_of_parse h
    obtain ⟨worth, short, hmeans, rfl⟩ := hdenotes.exists_means
    refine ⟨sign, total + short, short, hmeans, by omega, ?_⟩
    push_cast
    rw [Int.add_sub_cancel]
  · rintro ⟨sign, worth, short, hmeans, hmax, rfl⟩
    obtain ⟨total, hdenotes, rfl⟩ := hmeans.exists_denotes
    rw [parse_of_denotes hdenotes (by omega)]
    push_cast
    rw [Int.add_sub_cancel]
  · obtain ⟨total, hdenotes, rfl⟩ := h.exists_denotes
    rw [parse_of_denotes hdenotes (by omega)]
    simp [h.sign_ne_zero]
  · rw [ht.value, Term.worth_eq ht, Nat.add_sub_cancel]

/-- An hour fraction that is worth a nanosecond, and is read as nothing. -/
theorem parse_short_hour :
    let t : Term := ⟨['0'], "00000000000027777777777777777778".toList, ['h']⟩
    t.Spells (3600 * nanosPerSecond) "0.00000000000027777777777777777778h".toList ∧
      t.worth (3600 * nanosPerSecond) = 1 ∧
      parse "0.00000000000027777777777777777778h" = .ok ⟨0⟩ := by
  intro t
  have hdigits : (t.whole ++ t.places).all Char.isDigit = true := by decide
  have hspells : t.Spells (3600 * nanosPerSecond) "0.00000000000027777777777777777778h".toList :=
    ⟨.inr (by decide), List.all_eq_true.1 hdigits, by decide, by decide⟩
  have hworth : t.worth (3600 * nanosPerSecond) = 1 := by
    rw [Term.worth_eq_div]
    decide +kernel
  exact ⟨hspells, hworth, by decide +kernel⟩

end Span

end WrappedTraining
