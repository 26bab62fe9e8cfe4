import Mathlib.Algebra.Group.Nat.Defs
import Mathlib.Data.List.Induction
import WrappedTraining.Text.Numeral

/-!
# What numerals are made of

* `Text.isNumeral_of_int64?` : a text that reads as an integer has digits and signs alone, so it
  holds none of the separators of the small notations;
* `Text.digitsValue_lt` : a run of digits stands for a number below the power of ten of its length;
* `Text.integer?_eq_some_iff` : an integer is written with an optional sign and in digits;
* `Text.integer?_ofInt` : an integer is read from the text that it is written as.
-/

namespace WrappedTraining

namespace Text

/-- A character that an integer can be written with. -/
def IsNumeral (c : Char) : Prop := c.isDigit ∨ c = '+' ∨ c = '-'

theorem isDigit_of_natural? {cs : List Char} {n : Nat} (h : natural? cs = some n) :
    ∀ c ∈ cs, c.isDigit := by
  unfold natural? at h
  split at h
  · rename_i hcs
    exact List.all_eq_true.1 hcs.2
  · cases h

theorem isNumeral_of_integer? {cs : List Char} {n : Int} (h : integer? cs = some n) :
    ∀ c ∈ cs, IsNumeral c := by
  unfold integer? at h
  -- the sign, if there is one, stands before the digits
  split at h
  · obtain ⟨k, hk, -⟩ := Option.map_eq_some_iff.1 h
    obtain ⟨m, hm, -⟩ := Option.bind_eq_some_iff.1 hk
    exact List.forall_mem_cons.2 ⟨.inr (.inr rfl), fun c hc => .inl (isDigit_of_natural? hm c hc)⟩
  · obtain ⟨k, hk, -⟩ := Option.map_eq_some_iff.1 h
    obtain ⟨m, hm, -⟩ := Option.bind_eq_some_iff.1 hk
    exact List.forall_mem_cons.2 ⟨.inr (.inl rfl), fun c hc => .inl (isDigit_of_natural? hm c hc)⟩
  · obtain ⟨k, hk, -⟩ := Option.map_eq_some_iff.1 h
    obtain ⟨m, hm, -⟩ := Option.bind_eq_some_iff.1 hk
    exact fun c hc => .inl (isDigit_of_natural? hm c hc)

theorem isNumeral_of_int64? {s : String} {n : Int64} (h : int64? s = some n) :
    ∀ c ∈ s.toList, IsNumeral c := by
  obtain ⟨m, hm, -⟩ := Option.map_eq_some_iff.1 h
  unfold integerIn? at hm
  split at hm
  · rename_i k hk
    exact isNumeral_of_integer? hk
  · cases hm

/-! ### The value of a run of digits -/

theorem digitsValue_concat (ds : List Char) (d : Char) :
    digitsValue (ds ++ [d]) = 10 * digitsValue ds + (d.toNat - '0'.toNat) := by
  simp [digitsValue]

theorem digitsValue_append (ds es : List Char) :
    digitsValue (ds ++ es) = digitsValue ds * 10 ^ es.length + digitsValue es := by
  induction es using List.reverseRecOn with
  | nil => simp [digitsValue]
  | append_singleton es d ih =>
    rw [← List.append_assoc, digitsValue_concat, ih, digitsValue_concat, List.length_append,
      List.length_singleton, Nat.pow_succ, ← Nat.mul_assoc]
    omega

theorem digitsValue_lt {ds : List Char} (h : ∀ d ∈ ds, d.isDigit) :
    digitsValue ds < 10 ^ ds.length := by
  induction ds using List.reverseRecOn with
  | nil => exact Nat.one_pos
  | append_singleton ds d ih =>
    have hd : d.toNat ≤ '9'.toNat := (Char.isDigit_iff_toNat.1 (h d (by simp))).2
    have hnine : '9'.toNat = '0'.toNat + 9 := rfl
    have hds := ih fun c hc => h c (List.mem_append_left _ hc)
    rw [digitsValue_concat, List.length_append, List.length_singleton, Nat.pow_succ]
    omega

/-! ### Signs -/

/-- A sign, which can be left out. -/
inductive Sign where
  | none
  | plus
  | minus
deriving DecidableEq

namespace Sign

/-- How the sign is written. -/
def text : Sign → List Char
  | .none => []
  | .plus => ['+']
  | .minus => ['-']

/-- The number with the sign. -/
def apply : Sign → Nat → Int
  | .minus, n => -n
  | _, n => n

end Sign

/-- The sign of a text and the text after it. -/
def cutSign : List Char → Sign × List Char
  | '-' :: cs => (.minus, cs)
  | '+' :: cs => (.plus, cs)
  | cs => (.none, cs)

theorem text_cutSign (cs : List Char) : (cutSign cs).1.text ++ (cutSign cs).2 = cs := by
  unfold cutSign
  split <;> rfl

/-- A sign can be told from what follows it. -/
theorem cutSign_text_append {cs : List Char} (h : ∀ c ∈ cs.head?, c ≠ '+' ∧ c ≠ '-')
    (sign : Sign) : cutSign (sign.text ++ cs) = (sign, cs) := by
  cases sign with
  | none =>
    refine cutSign.eq_3 cs ?_ ?_
    · rintro tail rfl
      exact (h '-' rfl).2 rfl
    · rintro tail rfl
      exact (h '+' rfl).1 rfl
  | plus => rfl
  | minus => rfl

theorem integer?_eq (cs : List Char) :
    integer? cs = (natural? (cutSign cs).2).map (cutSign cs).1.apply := by
  fun_cases cutSign cs with
  | case1 cs => cases h : natural? cs <;> simp [integer?, h, Sign.apply]
  | case2 cs => cases h : natural? cs <;> simp [integer?, h, Sign.apply]
  | case3 cs hminus hplus =>
    rw [integer?.eq_3 cs hminus hplus]
    cases natural? cs <;> rfl

theorem natural?_eq_some_iff {cs : List Char} {n : Nat} :
    natural? cs = some n ↔ cs ≠ [] ∧ (∀ c ∈ cs, c.isDigit) ∧ n = digitsValue cs := by
  unfold natural?
  rw [Option.ite_none_right_eq_some, List.all_eq_true, and_assoc, Option.some.injEq,
    eq_comm (a := n)]

theorem ne_sign_of_isDigit {c : Char} (h : c.isDigit) : c ≠ '+' ∧ c ≠ '-' := by
  constructor <;> (rintro rfl; revert h; decide)

/-- **How an integer is written**: with a sign or without, and in digits. -/
theorem integer?_eq_some_iff {cs : List Char} {n : Int} :
    integer? cs = some n ↔ ∃ sign ds, cs = Sign.text sign ++ ds ∧ ds ≠ [] ∧
      (∀ c ∈ ds, c.isDigit) ∧ n = sign.apply (digitsValue ds) := by
  rw [integer?_eq, Option.map_eq_some_iff]
  constructor
  · rintro ⟨k, hk, rfl⟩
    obtain ⟨hne, hdigits, rfl⟩ := natural?_eq_some_iff.1 hk
    exact ⟨_, _, (text_cutSign cs).symm, hne, hdigits, rfl⟩
  · rintro ⟨sign, ds, rfl, hne, hdigits, rfl⟩
    have hhead : ∀ c ∈ ds.head?, c ≠ '+' ∧ c ≠ '-' :=
      fun c hc => ne_sign_of_isDigit (hdigits c (List.mem_of_head? hc))
    rw [cutSign_text_append hhead]
    exact ⟨_, natural?_eq_some_iff.2 ⟨hne, hdigits, rfl⟩, rfl⟩

theorem integerIn?_eq_some_iff {lo hi n : Int} {s : String} :
    integerIn? lo hi s = some n ↔ integer? s.toList = some n ∧ lo ≤ n ∧ n ≤ hi := by
  unfold integerIn?
  cases integer? s.toList with
  | none => simp
  | some k =>
    rw [Option.ite_none_right_eq_some, Option.some.injEq]
    constructor
    · rintro ⟨hbounds, rfl⟩
      exact ⟨rfl, hbounds⟩
    · rintro ⟨rfl, hbounds⟩
      exact ⟨hbounds, rfl⟩

/-! ### Writing and reading -/

theorem natural?_repr (n : Nat) : natural? n.repr.toList = some n := by
  rw [Nat.toList_repr]
  refine natural?_eq_some_iff.2 ⟨Nat.toDigits_ne_nil, fun c hc => ?_, ?_⟩
  · exact Nat.isDigit_of_mem_toDigits (by decide) (Nat.le_refl _) hc
  · exact (Nat.ofDigitChars_toDigits (by decide) (Nat.le_refl _)).symm

/-- An integer is read from the text that it is written as. -/
theorem integer?_ofInt (n : Int) : integer? (ofInt n).toList = some n := by
  obtain ⟨hne, hdigits, hvalue⟩ := natural?_eq_some_iff.1 (natural?_repr n.natAbs)
  refine integer?_eq_some_iff.2 ?_
  by_cases hn : n < 0
  · refine ⟨.minus, _, ?_, hne, hdigits, ?_⟩
    · rw [ofInt, if_pos hn, String.toList_append]
      rfl
    · rw [← hvalue, Sign.apply]
      omega
  · refine ⟨.none, _, ?_, hne, hdigits, ?_⟩
    · rw [ofInt, if_neg hn]
      rfl
    · rw [← hvalue, Sign.apply]
      · omega
      · exact Sign.noConfusion

theorem int32?_ofInt (n : Int32) : int32? (ofInt n.toInt) = some n := by
  have hlo := n.le_toInt
  have hhi := n.toInt_lt
  rw [int32?, integerIn?_eq_some_iff.2 ⟨integer?_ofInt n.toInt, by omega, by omega⟩,
    Option.map_some, Int32.ofInt_toInt]

theorem int64?_ofInt {n : Int} (hlo : -0x8000000000000000 ≤ n) (hhi : n ≤ 0x7FFFFFFFFFFFFFFF) :
    int64? (ofInt n) = some (Int64.ofInt n) := by
  rw [int64?, integerIn?_eq_some_iff.2 ⟨integer?_ofInt n, hlo, hhi⟩, Option.map_some]

end Text

end WrappedTraining
