import WrappedTraining.Proofs.Quantity.Notation

/-!
# Quantities read by their bytes

`Quantity.Sliced.parse` reads a quantity as text is kept: its sign is told from the first byte, and
the sign, the number and the suffix are cut out at positions that count bytes. A cut inside a
character, a look at a byte that is not there, and a number that does not convert leave no result.

* `Quantity.Sliced.firstByte_eq_iff` : only a sign starts with the byte of a sign;
* `Quantity.Sliced.cutAt_size` : a cut behind whole characters separates them from the others;
* `Quantity.Sliced.double_eq` : numerals that hold a digit and at most one point convert;
* `Quantity.Sliced.parse_eq` : no cut and no conversion is left without a result, and the text is
  read as `Quantity.parse` reads it.
-/

namespace WrappedTraining

namespace Quantity

namespace Sliced

/-! ### Operations -/

/-- A computation that ends in a result or an error of the quantity, or in neither when an operation
has no result. -/
abbrev Computation := ExceptT Error Option

/-- The computation with this end. -/
def ended {α : Type} (x : Except Error α) : Computation α := ExceptT.mk (some x)

/-- The result of an operation that should have one. -/
def expected {α : Type} : Option α → Computation α
  | some a => pure a
  | none => ExceptT.mk none

/-- The first byte of a text. -/
def firstByte? (cs : List Char) : Option UInt8 := (cs.flatMap String.utf8EncodeChar).head?

/-- The number of bytes of a text. -/
def size : List Char → Nat
  | [] => 0
  | c :: cs => c.utf8Size + size cs

/-- The text before and after `n` bytes. There is none if the text has fewer bytes or the cut is
inside a character. -/
def cutAt? : Nat → List Char → Option (List Char × List Char)
  | 0, cs => some ([], cs)
  | _ + 1, [] => none
  | n + 1, c :: cs =>
    if c.utf8Size ≤ n + 1 then (cutAt? (n + 1 - c.utf8Size) cs).map fun p => (c :: p.1, p.2)
    else none

/-- The double nearest to a number without a sign and without an exponent. There has to be a digit,
before the point or after it. -/
def double? (cs : List Char) : Option Float :=
  let whole := cs.takeWhile Char.isDigit
  match cs.dropWhile Char.isDigit with
  | [] =>
    if whole = [] then none else some (Float.ofScientific (Text.digitsValue whole) true 0)
  | '.' :: places =>
    if places.all Char.isDigit ∧ whole ++ places ≠ [] then
      some (Float.ofScientific (Text.digitsValue (whole ++ places)) true places.length)
    else none
  | _ => none

/-! ### Reading -/

/-- The sign of a number and what follows it. -/
def signed (cs : List Char) : Computation (Float × List Char) := do
  let b ← expected (firstByte? cs)
  if b = 0x2D then return (-1.0, (← expected (cutAt? 1 cs)).2)
  else if b = 0x2B then return (1.0, (← expected (cutAt? 1 cs)).2)
  else return (1.0, cs)

/-- Read a quantity. -/
def parse (input : String) : Computation Quantity := do
  let raw := Text.trimBlank input
  if raw = "" then throw ⟨input⟩
  let (sign, body) ← signed raw.toList
  let (number, suffix) ← expected (cutAt? (size (body.takeWhile isNumeral)) body)
  if number = [] ∨ number = ['.'] ∨ 1 < number.count '.' then throw ⟨input⟩
  let magnitude ← expected (double? number)
  match unit? suffix with
  | some (unit, format) => return ⟨raw, sign * magnitude * unit, format⟩
  | none => throw ⟨input⟩

/-! ### First bytes -/

theorem le_or_toNat {lead : UInt8} (h : 128 ≤ lead.toNat) (x : UInt8) :
    128 ≤ (x ||| lead).toNat := by
  rw [UInt8.toNat_or]
  exact Nat.le_trans h Nat.right_le_or

/-- A character of one byte is that byte, and the first byte of all others lies above 127. -/
theorem firstByte_char (c : Char) : ∃ b bs, String.utf8EncodeChar c = b :: bs ∧
    (b.toNat = c.toNat ∨ 128 ≤ b.toNat ∧ 128 ≤ c.toNat) := by
  have hlarge : c.utf8Size ≠ 1 → 128 ≤ c.toNat := by
    rw [ne_eq, Char.utf8Size_eq_one_iff, UInt32.le_iff_toNat_le, Char.toNat_val]
    exact fun h => Nat.not_le.1 h
  obtain h | h | h | h := c.utf8Size_eq
  · refine ⟨_, _, String.utf8EncodeChar_eq_singleton h, .inl ?_⟩
    rw [Char.utf8Size_eq_one_iff, UInt32.le_iff_toNat_le, Char.toNat_val] at h
    have hsmall : c.toNat < 2 ^ 8 := Nat.lt_of_le_of_lt h (by decide)
    rw [UInt32.toNat_toUInt8, Char.toNat_val, Nat.mod_eq_of_lt hsmall]
  · exact ⟨_, _, String.utf8EncodeChar_eq_cons_cons h,
      .inr ⟨le_or_toNat (by decide) _, hlarge (by omega)⟩⟩
  · exact ⟨_, _, String.utf8EncodeChar_eq_cons_cons_cons h,
      .inr ⟨le_or_toNat (by decide) _, hlarge (by omega)⟩⟩
  · exact ⟨_, _, String.utf8EncodeChar_eq_cons_cons_cons_cons h,
      .inr ⟨le_or_toNat (by decide) _, hlarge (by omega)⟩⟩

theorem toNat_inj_of_firstByte {b : UInt8} {c a : Char}
    (h : b.toNat = c.toNat ∨ 128 ≤ b.toNat ∧ 128 ≤ c.toNat) (ha : a.toNat < 128) :
    b.toNat = a.toNat ↔ c = a := by
  rw [← Char.toNat_inj]
  omega

/-- A text starts with the byte of an ASCII character only if it starts with that character. -/
theorem firstByte_eq_iff (c : Char) (cs : List Char) : ∃ b, firstByte? (c :: cs) = some b ∧
    ∀ a : Char, a.toNat < 128 → (b.toNat = a.toNat ↔ c = a) := by
  obtain ⟨b, bs, hbytes, hb⟩ := firstByte_char c
  refine ⟨b, ?_, fun a ha => toNat_inj_of_firstByte hb ha⟩
  rw [firstByte?, List.flatMap_cons, hbytes]
  rfl

/-! ### Cuts -/

theorem cutAt?_cons (n : Nat) (c : Char) (cs : List Char) :
    cutAt? (c.utf8Size + n) (c :: cs) = (cutAt? n cs).map fun p => (c :: p.1, p.2) := by
  obtain ⟨k, hk⟩ := Nat.exists_eq_succ_of_ne_zero c.utf8Size_pos.ne'
  rw [show c.utf8Size + n = k + n + 1 by omega, cutAt?, if_pos (by omega),
    show k + n + 1 - c.utf8Size = n by omega]

/-- **A cut behind whole characters is between characters.** -/
theorem cutAt_size (front back : List Char) :
    cutAt? (size front) (front ++ back) = some (front, back) := by
  induction front with
  | nil => rw [size, List.nil_append, cutAt?]
  | cons c front ih =>
    rw [size, List.cons_append, cutAt?_cons, ih]
    rfl

@[simp] theorem expected_some_bind {α β : Type} (a : α) (f : α → Computation β) :
    (expected (some a) >>= f) = f a := rfl

@[simp] theorem ended_ok_bind {α β : Type} (a : α) (f : α → Computation β) :
    (ended (.ok a) >>= f) = f a := rfl

theorem signed_eq {cs : List Char} (h : cs ≠ []) :
    signed cs = ended (.ok (Quantity.signed cs)) := by
  obtain ⟨c, cs, rfl⟩ := List.exists_cons_of_ne_nil h
  obtain ⟨b, hb, hbyte⟩ := firstByte_eq_iff c cs
  have hminus : b = 0x2D ↔ c = '-' := UInt8.toNat_inj.symm.trans (hbyte '-' (by decide))
  have hplus : b = 0x2B ↔ c = '+' := UInt8.toNat_inj.symm.trans (hbyte '+' (by decide))
  simp only [signed, hb, expected_some_bind, hminus, hplus]
  by_cases hm : c = '-'
  · subst hm
    rw [if_pos rfl, show cutAt? 1 ('-' :: cs) = _ from cutAt_size ['-'] cs]
    rfl
  · by_cases hp : c = '+'
    · subst hp
      rw [if_neg hm, if_pos rfl, show cutAt? 1 ('+' :: cs) = _ from cutAt_size ['+'] cs]
      rfl
    · rw [if_neg hm, if_neg hp, Quantity.signed.eq_3 _ (by simp [hm]) (by simp [hp])]
      rfl

/-! ### Numbers -/

/-- **Legal figures convert**, and to the double that is nearest to them. -/
theorem double_eq {f : Figures} (h : f.Legal) : double? f.text = some f.value := by
  obtain ⟨whole, places?⟩ := f
  have hwhole := h.isDigit_whole
  cases places? with
  | none =>
    have hne : whole ≠ [] := by simpa [Figures.digits] using h.ne_nil
    have htake : whole.takeWhile Char.isDigit = whole := List.takeWhile_eq_self_iff.2 hwhole
    have hdrop : whole.dropWhile Char.isDigit = [] := List.dropWhile_eq_nil_iff.2 hwhole
    simp [double?, Figures.text, Figures.value, Figures.digits, htake, hdrop, hne]
  | some places =>
    have hplaces : ∀ c ∈ places, c.isDigit :=
      fun c hc => h.isDigit c (List.mem_append_right _ hc)
    have hne : whole ++ places ≠ [] := h.ne_nil
    have htake : (whole ++ '.' :: places).takeWhile Char.isDigit = whole := by
      rw [List.takeWhile_append_of_pos hwhole, List.takeWhile_cons_of_neg (by decide),
        List.append_nil]
    have hdrop : (whole ++ '.' :: places).dropWhile Char.isDigit = '.' :: places := by
      rw [List.dropWhile_append_of_pos hwhole, List.dropWhile_cons_of_neg (by decide)]
    have hall : places.all Char.isDigit ∧ whole ++ places ≠ [] :=
      ⟨List.all_eq_true.2 hplaces, hne⟩
    simp only [double?, Figures.text, Option.map_some, Option.getD_some, htake, hdrop]
    rw [if_pos hall]
    rfl

/-- What is looked at before a number is converted is whether its figures are legal. -/
theorem guard_iff {f : Figures} (hwhole : ∀ c ∈ f.whole, c.isDigit) :
    (f.text = [] ∨ f.text = ['.'] ∨ 1 < f.text.count '.') ↔
      (f.digits = [] ∨ '.' ∈ f.places?.getD []) := by
  obtain ⟨whole, places?⟩ := f
  have hcount : whole.count '.' = 0 :=
    List.count_eq_zero.2 fun hc => ne_point_of_isDigit (hwhole '.' hc) rfl
  cases places? with
  | none =>
    have hpoint : whole ≠ ['.'] := by
      rintro rfl
      exact absurd hcount (by decide)
    simp [Figures.text, Figures.digits, hcount, hpoint]
  | some places =>
    have hpoints : 1 < (whole ++ '.' :: places).count '.' ↔ '.' ∈ places := by
      rw [List.count_append, List.count_cons_self, hcount, ← List.count_pos_iff]
      omega
    have hbare : whole ++ '.' :: places = ['.'] ↔ whole ++ places = [] := by
      cases whole <;> simp
    simp only [Figures.text, Figures.digits, Option.map_some, Option.getD_some, hpoints, hbare]
    simp

/-! ### Whole quantities -/

/-- **No operation is without a result**, and a text is read as a quantity as it is by its
characters. -/
theorem parse_eq (input : String) : parse input = ended (Quantity.parse input) := by
  unfold parse Quantity.parse
  by_cases hraw : Text.trimBlank input = ""
  · rw [hraw]
    rfl
  · have hne : (Text.trimBlank input).toList ≠ [] := by simpa using hraw
    simp only [if_neg hraw, signed_eq hne, parts?]
    generalize Quantity.signed (Text.trimBlank input).toList = signed
    obtain ⟨sign, body⟩ := signed
    have hcut := cutAt_size (body.takeWhile isNumeral) (body.dropWhile isNumeral)
    rw [List.takeWhile_append_dropWhile] at hcut
    obtain ⟨f, hf, hwhole, hplaces⟩ :=
      Figures.exists_text_eq fun c (hc : c ∈ body.takeWhile isNumeral) => List.mem_takeWhile_imp hc
    have hmagnitude := Figures.magnitude?_text hwhole
    have hguard := guard_iff hwhole
    rw [hf] at hmagnitude hguard
    simp only [ended_ok_bind, hcut, expected_some_bind, hguard, hmagnitude]
    by_cases hbad : f.digits = [] ∨ '.' ∈ f.places?.getD []
    · simp only [if_pos hbad]
      rfl
    · have hdouble := double_eq ((Figures.legal_iff hwhole hplaces).2 hbad)
      rw [hf] at hdouble
      simp only [if_neg hbad, hdouble, expected_some_bind]
      cases unit? (body.dropWhile isNumeral) <;> rfl

end Sliced

end Quantity

end WrappedTraining
