import Mathlib.Algebra.Order.Floor.Semifield
import Mathlib.Data.List.TakeWhile
import Mathlib.Data.Rat.Floor
import WrappedTraining.Span

/-!
# The notation of a span

`Span.Denotes` is the notation of a span as a relation between a text, its sign and the nanoseconds
that its terms add up to. A term is worth its whole units and the floor of its fraction of one
(`Span.Term.amount`). The sign is cut off before anything else is read (`Span.parse_eq`).

Nothing stands between two terms. Where one ends is nevertheless fixed, since no unit holds a digit
or a point and every term starts with one:

* `Span.firstTerm_append` : the first term of a text is the one that its notation starts with;
* `Span.exists_spells_of_value` : a first term that has a value is written as the notation says;
* `Span.Terms.unique` : the terms of a text have one sum.
-/

namespace WrappedTraining

namespace Span

/-! ### Terms -/

/-- The digits after the point that count, as a part of one. -/
def Term.fraction (t : Term) : ℚ :=
  Text.digitsValue (t.places.take maxPlaces) / 10 ^ (t.places.take maxPlaces).length

/-- The nanoseconds of a term with `scale` nanoseconds to the unit. -/
def Term.amount (t : Term) (scale : Nat) : Nat :=
  Text.digitsValue t.whole * scale + ⌊t.fraction * scale⌋₊

/-- The term is written so: a number of digits with or without a point, and a unit of `scale`
nanoseconds. -/
structure Term.Spells (t : Term) (scale : Nat) (cs : List Char) : Prop where
  text : t.places = [] ∧ cs = t.whole ++ t.unit ∨ cs = t.whole ++ '.' :: (t.places ++ t.unit)
  digits : ∀ c ∈ t.whole ++ t.places, c.isDigit
  digits_ne_nil : t.whole ++ t.places ≠ []
  unit : (String.ofList t.unit, scale) ∈ units

/-- Terms one after another, and the sum of their nanoseconds. -/
inductive Terms : List Char → Nat → Prop
  | nil : Terms [] 0
  | cons {t : Term} {scale : Nat} {cs rest : List Char} {total : Nat} (head : t.Spells scale cs)
      (tail : Terms rest total) : Terms (cs ++ rest) (t.amount scale + total)

/-- A text without its sign, and its nanoseconds. -/
def Unsigned (cs : List Char) (total : Nat) : Prop :=
  cs = ['0'] ∧ total = 0 ∨ cs ≠ [] ∧ Terms cs total

/-- The signs of a span. -/
def signs : List (List Char × Int) := [([], 1), (['+'], 1), (['-'], -1)]

/-- **The notation of a span**: the text is written with this sign, and its terms add up to `total`
nanoseconds. -/
def Denotes (s : String) (sign : Int) (total : Nat) : Prop :=
  ∃ front cs, (front, sign) ∈ signs ∧ s.toList = front ++ cs ∧ Unsigned cs total

/-- What a term is worth is found without fractions. -/
theorem Term.nanos_eq_amount (t : Term) (scale : Nat) : t.nanos scale = t.amount scale := by
  have hfloor : t.fraction * scale =
      ((Text.digitsValue (t.places.take maxPlaces) * scale : Nat) : ℚ) /
        ((10 ^ (t.places.take maxPlaces).length : Nat) : ℚ) := by
    rw [Term.fraction, Nat.cast_mul, Nat.cast_pow, div_mul_eq_mul_div]
    rfl
  rw [Term.amount, hfloor, Nat.floor_div_eq_div]
  rfl

/-! ### Signs -/

/-- The sign of a text and the text after it. -/
def cutSign : List Char → Int × List Char
  | '-' :: cs => (-1, cs)
  | '+' :: cs => (1, cs)
  | cs => (1, cs)

theorem parse_eq (s : String) : parse s =
    (magnitude s (cutSign s.toList).2).map fun n => ⟨(cutSign s.toList).1 * (n : Int)⟩ := by
  unfold parse
  split
  · rename_i cs hcs
    rw [hcs]
    cases hn : magnitude s cs with
    | error e => simp only [cutSign, hn]; rfl
    | ok n => simp only [cutSign, hn, Int.neg_one_mul]; rfl
  · rename_i cs hcs
    rw [hcs]
    cases hn : magnitude s cs with
    | error e => simp only [cutSign, hn]; rfl
    | ok n => simp only [cutSign, hn, Int.one_mul]; rfl
  · rename_i hminus hplus
    rw [cutSign.eq_3 _ hminus hplus]
    cases magnitude s s.toList with
    | error e => rfl
    | ok n => simp only [Int.one_mul]; rfl

/-! ### Where a run of characters ends -/

/-- The text is empty or starts with a character outside of the class. -/
def Stops (p : Char → Bool) (cs : List Char) : Prop := ∀ c ∈ cs.head?, p c = false

section Stops

variable {p : Char → Bool} {run rest : List Char}

theorem takeWhile_eq_nil (h : Stops p rest) : rest.takeWhile p = [] := by
  cases rest with
  | nil => rfl
  | cons c cs => rw [List.takeWhile_cons_of_neg (by simp [h c rfl])]

theorem dropWhile_eq_self (h : Stops p rest) : rest.dropWhile p = rest := by
  cases rest with
  | nil => rfl
  | cons c cs => rw [List.dropWhile_cons_of_neg (by simp [h c rfl])]

theorem takeWhile_append_of_stops (hrun : ∀ c ∈ run, p c) (h : Stops p rest) :
    (run ++ rest).takeWhile p = run := by
  rw [List.takeWhile_append_of_pos hrun, takeWhile_eq_nil h, List.append_nil]

theorem dropWhile_append_of_stops (hrun : ∀ c ∈ run, p c) (h : Stops p rest) :
    (run ++ rest).dropWhile p = rest := by
  rw [List.dropWhile_append_of_pos hrun, dropWhile_eq_self h]

end Stops

/-- The name of a unit is not empty and holds neither digits nor a point. -/
theorem unit_chars {u : String × Nat} (h : u ∈ units) :
    u.1.toList ≠ [] ∧ ∀ c ∈ u.1.toList, endsUnit c = false := by
  have hunits : units.all (fun u => u.1.toList ≠ [] ∧ u.1.toList.all (!endsUnit ·)) := by decide
  simpa using List.all_eq_true.1 hunits u h

theorem unitNanos?_eq_some_iff {unit : List Char} {scale : Nat} :
    unitNanos? unit = some scale ↔ (String.ofList unit, scale) ∈ units := by
  constructor
  · intro h
    obtain ⟨u, hu, rfl⟩ := Option.map_eq_some_iff.1 h
    have hname : u.1 = String.ofList unit := by simpa using List.find?_some hu
    exact hname ▸ List.mem_of_find?_eq_some hu
  · -- no name stands twice in the table
    have hfind : ∀ u ∈ units, (units.find? fun v => v.1 = u.1) = some u := by decide
    intro h
    rw [unitNanos?, hfind _ h]
    rfl

namespace Term.Spells

variable {t : Term} {scale : Nat} {cs rest : List Char}

theorem unit_ne_nil (h : t.Spells scale cs) : t.unit ≠ [] := by
  simpa using (unit_chars h.unit).1

theorem unit_inside (h : t.Spells scale cs) : ∀ c ∈ t.unit, endsUnit c = false := by
  simpa using (unit_chars h.unit).2

/-- A term starts with a digit or a point. -/
theorem starts (h : t.Spells scale cs) : ∃ c cs', cs = c :: cs' ∧ endsUnit c = true := by
  have hdigits := h.digits
  rcases hwhole : t.whole with _ | ⟨c, whole⟩
  · rcases h.text with ⟨hplaces, -⟩ | htext
    · exact absurd (by rw [hwhole, hplaces]; rfl) h.digits_ne_nil
    · exact ⟨'.', t.places ++ t.unit, by rw [htext, hwhole]; rfl, rfl⟩
  · have hc : endsUnit c = true := by
      have : c.isDigit := hdigits c (by simp [hwhole])
      simp [endsUnit, this]
    rcases h.text with ⟨-, htext⟩ | htext
    · exact ⟨c, whole ++ t.unit, by rw [htext, hwhole]; rfl, hc⟩
    · exact ⟨c, whole ++ '.' :: (t.places ++ t.unit), by rw [htext, hwhole]; rfl, hc⟩

theorem ne_nil (h : t.Spells scale cs) : cs ≠ [] := by
  obtain ⟨c, cs', rfl, -⟩ := h.starts
  exact List.cons_ne_nil c cs'

end Term.Spells

theorem Terms.stops {cs : List Char} {total : Nat} (h : Terms cs total) :
    Stops (fun c => !endsUnit c) cs := by
  cases h with
  | nil => simp [Stops]
  | cons head tail =>
    obtain ⟨c, cs', rfl, hc⟩ := head.starts
    simpa [Stops] using hc

/-! ### The first term -/

section FirstTerm

variable {t : Term} {scale : Nat} {cs rest : List Char}

/-- The unit stops the digits of its term. -/
theorem stops_unit_append {p : Char → Bool} (h : t.Spells scale cs)
    (hp : ∀ c, endsUnit c = false → p c = false) : Stops p (t.unit ++ rest) := by
  obtain ⟨c, unit, hunit⟩ := List.exists_cons_of_ne_nil h.unit_ne_nil
  have hc := h.unit_inside c (by simp [hunit])
  simpa [Stops, hunit] using hp c hc

theorem placesOf_of_stops (h : Stops (fun c => c = '.') cs) : placesOf cs = ([], cs) := by
  unfold placesOf
  split
  · exact absurd (h '.' rfl) (by decide)
  · rfl

/-- **Where the first term ends.** If a text starts with a term and goes on with another one, or
not at all, that term is the first one that is read. -/
theorem firstTerm_append (h : t.Spells scale cs) (hrest : Stops (fun c => !endsUnit c) rest) :
    firstTerm (cs ++ rest) = (t, rest) := by
  have hwhole : ∀ c ∈ t.whole, c.isDigit := fun c hc => h.digits c (List.mem_append_left _ hc)
  have hplaces : ∀ c ∈ t.places, c.isDigit := fun c hc => h.digits c (List.mem_append_right _ hc)
  have hunit : ∀ c ∈ t.unit, (!endsUnit c) = true := by simpa using h.unit_inside
  have hdigit : ∀ c, endsUnit c = false → c.isDigit = false := by simp +contextual [endsUnit]
  have hpoint : ∀ c, endsUnit c = false → decide (c = '.') = false := by
    simp +contextual [endsUnit]
  -- what is left when the whole digits are read, and what its places are
  obtain ⟨tail, htail, hstop, hplacesOf⟩ : ∃ tail, cs ++ rest = t.whole ++ tail ∧
      Stops Char.isDigit tail ∧ placesOf tail = (t.places, t.unit ++ rest) := by
    rcases h.text with ⟨hnil, htext⟩ | htext
    · refine ⟨t.unit ++ rest, by rw [htext, List.append_assoc], stops_unit_append h hdigit, ?_⟩
      rw [placesOf_of_stops (stops_unit_append h hpoint), hnil]
    · refine ⟨'.' :: (t.places ++ (t.unit ++ rest)), by simp [htext], by simp [Stops], ?_⟩
      have hstops : Stops Char.isDigit (t.unit ++ rest) := stops_unit_append h hdigit
      simp only [placesOf]
      rw [takeWhile_append_of_stops hplaces hstops, dropWhile_append_of_stops hplaces hstops]
  simp only [firstTerm]
  rw [htail, takeWhile_append_of_stops hwhole hstop, dropWhile_append_of_stops hwhole hstop,
    hplacesOf, takeWhile_append_of_stops hunit hrest, dropWhile_append_of_stops hunit hrest]

/-- A term that is written in some way has the value of its notation. -/
theorem Term.Spells.value (h : t.Spells scale cs) (input : String) :
    t.value input = .ok (t.amount scale) := by
  have hdigits : ¬(t.whole = [] ∧ t.places = []) := by
    rw [← List.append_eq_nil_iff]
    exact h.digits_ne_nil
  rw [Term.value, if_neg hdigits, if_neg h.unit_ne_nil, unitNanos?_eq_some_iff.2 h.unit]
  exact congrArg Except.ok (t.nanos_eq_amount scale)

theorem digits_firstTerm (cs : List Char) :
    ∀ c ∈ (firstTerm cs).1.whole ++ (firstTerm cs).1.places, c.isDigit := by
  intro c hc
  rcases List.mem_append.1 hc with hc | hc
  · exact List.mem_takeWhile_imp hc
  · simp only [firstTerm, placesOf] at hc
    split at hc
    · exact List.mem_takeWhile_imp hc
    · cases hc

/-- The characters of the first term stand in front of the others. -/
theorem exists_firstTerm_text (cs : List Char) : ∃ head, cs = head ++ (firstTerm cs).2 ∧
    ((firstTerm cs).1.places = [] ∧ head = (firstTerm cs).1.whole ++ (firstTerm cs).1.unit ∨
      head = (firstTerm cs).1.whole ++
        '.' :: ((firstTerm cs).1.places ++ (firstTerm cs).1.unit)) := by
  have hcs : cs.takeWhile Char.isDigit ++ cs.dropWhile Char.isDigit = cs :=
    List.takeWhile_append_dropWhile
  have hunit : ∀ tail : List Char, tail.takeWhile (fun c => !endsUnit c) ++
      tail.dropWhile (fun c => !endsUnit c) = tail := fun _ => List.takeWhile_append_dropWhile
  simp only [firstTerm, placesOf]
  split
  · rename_i tail htail
    refine ⟨_, ?_, .inr rfl⟩
    rw [List.append_assoc, List.cons_append, List.append_assoc, hunit,
      List.takeWhile_append_dropWhile, ← htail, hcs]
  · refine ⟨_, ?_, .inl ⟨rfl, rfl⟩⟩
    rw [List.append_assoc, hunit, hcs]

/-- If the first term of a text has a value, it is written as the notation says. -/
theorem exists_spells_of_value {input : String} {n : Nat}
    (h : (firstTerm cs).1.value input = .ok n) :
    ∃ head scale, (firstTerm cs).1.Spells scale head ∧ cs = head ++ (firstTerm cs).2 ∧
      n = (firstTerm cs).1.amount scale := by
  obtain ⟨head, hcs, htext⟩ := exists_firstTerm_text cs
  unfold Term.value at h
  split at h
  · cases h
  · rename_i hdigits
    split at h
    · cases h
    · split at h
      · cases h
      · rename_i scale hscale
        refine ⟨head, scale, ⟨htext, digits_firstTerm cs, ?_, unitNanos?_eq_some_iff.1 hscale⟩,
          hcs, ?_⟩
        · rwa [ne_eq, List.append_eq_nil_iff]
        · rw [← Term.nanos_eq_amount]
          exact (Except.ok.inj h).symm

end FirstTerm

/-- **The terms of a text have one sum.** -/
theorem Terms.unique {cs : List Char} {total total' : Nat} (h : Terms cs total)
    (h' : Terms cs total') : total = total' := by
  -- what the first sum starts with is the first term, and so the second one starts with it too
  induction h generalizing total' with
  | nil =>
    generalize hcs : ([] : List Char) = cs at h'
    cases h' with
    | nil => rfl
    | cons head tail => exact absurd (List.append_eq_nil_iff.1 hcs.symm).1 head.ne_nil
  | @cons t scale cs rest total head tail ih =>
    generalize hcs : cs ++ rest = text at h'
    cases h' with
    | nil => exact absurd (List.append_eq_nil_iff.1 hcs).1 head.ne_nil
    | @cons t' scale' cs' rest' total' head' tail' =>
      have hfirst := firstTerm_append head tail.stops
      rw [hcs, firstTerm_append head' tail'.stops] at hfirst
      obtain ⟨rfl, rfl⟩ := Prod.mk.inj hfirst
      -- no unit has two scales, since both are the value of one term
      have hamount := (head.value "").symm.trans (head'.value "")
      rw [Except.ok.inj hamount, ih tail']

end Span

end WrappedTraining
