import WrappedTraining.Proofs.Quantity.Reading
import WrappedTraining.Proofs.Text.Pattern

/-!
# The pattern of quantities

The error for a text that is no quantity shows a pattern. What is read as a quantity does match it,
though not everything that matches is a quantity.

* `Quantity.message_eq` : the pattern of the error is `Quantity.pattern`;
* `Quantity.Reading.Legal.matches` : a quantity in the notation matches it;
* `Quantity.matches_raw` : so does the text that is kept of a quantity, without white space around
  it, and `Quantity.matches_iff` : the text that was read matches if there was none;
* `Quantity.isValid_congr` : white space does not count.
-/

namespace WrappedTraining.Quantity

open Text (Pattern Range Sign)

/-! ### Pattern and error -/

/-- The letters of a suffix. -/
def letters : Pattern := .run ("eEinumkKMGTP".toList.map .one) .any

/-- A sign of an exponent. -/
def exponentSign : Pattern := .run [.one '-', .one '+'] .optional

/-- The digits of an exponent. -/
def exponentDigits : Pattern := .run [⟨'0', '9'⟩] .any

/-- What may stand after the figures. -/
def suffixPattern : Pattern := .andThen letters (.andThen exponentSign exponentDigits)

/-- The sign and the figures. -/
def numberPattern : Pattern :=
  .andThen (.run [.one '+', .one '-'] .optional) (.run [⟨'0', '9'⟩, .one '.'] .some)

/-- **The pattern of quantities.** -/
def pattern : Pattern := .andThen (.group numberPattern) (.group suffixPattern)

/-- The error for a text that is no quantity shows the pattern. -/
theorem message_eq (e : Error) : e.message =
    "quantities must match the regular expression '" ++ pattern.wholeText ++ "': " ++
      Text.quoted e.input := by
  have hpattern : "quantities must match the regular expression " ++
      "'^([+-]?[0-9.]+)([eEinumkKMGTP]*[-+]?[0-9]*)$': " =
        "quantities must match the regular expression '" ++ pattern.wholeText ++ "': " := by
    decide
  rw [← hpattern]
  rfl

/-- The pattern has no white space in it. -/
theorem visible_pattern : ∀ r ∈ pattern.ranges, r.Visible := by decide

/-! ### Quantities match -/

/-- A sign may be left out, and otherwise it is one of two characters. -/
theorem matches_sign {ranges : List Range} (hplus : ∃ r ∈ ranges, r.Has '+')
    (hminus : ∃ r ∈ ranges, r.Has '-') (sign : Sign) :
    (Pattern.run ranges .optional).Matches sign.text := by
  cases sign with
  | none => exact ⟨List.forall_mem_nil _, Nat.zero_le 1⟩
  | plus => exact ⟨List.forall_mem_singleton.2 hplus, Nat.le_refl 1⟩
  | minus => exact ⟨List.forall_mem_singleton.2 hminus, Nat.le_refl 1⟩

/-- The digits of a number are the characters from `0` to `9`. -/
theorem has_of_isDigit {c : Char} (h : c.isDigit) : Range.Has ⟨'0', '9'⟩ c := by
  rw [Char.isDigit, Bool.and_eq_true, decide_eq_true_iff, decide_eq_true_iff] at h
  exact h

theorem exponentDigits_matches {digits : List Char} (h : ∀ c ∈ digits, c.isDigit) :
    exponentDigits.Matches digits :=
  ⟨fun c hc => ⟨_, List.mem_singleton_self _, has_of_isDigit (h c hc)⟩, trivial⟩

theorem Figures.Legal.matches {f : Figures} (h : f.Legal) :
    (Pattern.run [⟨'0', '9'⟩, .one '.'] .some).Matches f.text := by
  refine ⟨fun c hc => ?_, List.length_pos_iff.2 h.text_ne_nil⟩
  have hnumeral := h.numerals c hc
  rw [isNumeral, Bool.or_eq_true, decide_eq_true_iff] at hnumeral
  rcases hnumeral with hdigit | rfl
  · exact ⟨_, List.mem_cons_self, has_of_isDigit hdigit⟩
  · exact ⟨.one '.', by simp, by decide⟩

theorem Suffix.Legal.matches {u : Suffix} (h : u.Legal) : suffixPattern.Matches u.text := by
  have hnames : ∀ name ∈ decimalNames ++ binaryNames, suffixPattern.Matches name.toList := by
    decide
  cases u with
  | decimal name => exact hnames name (List.mem_append_left _ h)
  | binary name => exact hnames name (List.mem_append_right _ h)
  | exponent letter sign digits =>
    obtain ⟨hletter, -, hdigits, -⟩ := h
    have hletters : letters.Matches [letter] := by
      rcases hletter with rfl | rfl <;> decide
    have hsign : exponentSign.Matches sign.text := matches_sign (by decide) (by decide) sign
    exact hletters.andThen (hsign.andThen (exponentDigits_matches hdigits))

/-- **What is written in the notation of quantities matches.** -/
theorem Reading.Legal.matches {r : Reading} (h : r.Legal) : pattern.Matches r.text := by
  have hnumber : numberPattern.Matches (r.sign.text ++ r.figures.text) :=
    (matches_sign (by decide) (by decide) r.sign).andThen h.figures.matches
  have hwhole : pattern.Matches (r.sign.text ++ r.figures.text ++ r.suffix.text) :=
    Pattern.Matches.andThen (p := .group numberPattern) (q := .group suffixPattern) hnumber
      h.suffix.matches
  rwa [List.append_assoc] at hwhole

variable {s : String} {q : Quantity}

/-- **The text that is kept of a quantity matches.** -/
theorem matches_raw (h : parse s = .ok q) : pattern.Matches q.raw.toList := by
  obtain ⟨-, hparts⟩ := parse_eq_ok_iff_parts?.1 h
  obtain ⟨r, hr, htext, -⟩ := parts?_eq_some_iff.1 hparts
  rw [← htext]
  exact hr.matches

/-- A text with two points matches, but it is not a quantity. -/
example : pattern.Matches "1.2.3ki-".toList ∧ ¬isValid "1.2.3ki-" := by decide +kernel

/-- **A text that is read as a quantity matches if it has no white space around it.** -/
theorem matches_iff (h : parse s = .ok q) : pattern.Matches s.toList ↔ Text.trimBlank s = s := by
  obtain ⟨hraw, -⟩ := parse_eq_ok_iff_parts?.1 h
  constructor
  · exact fun hmatches => hmatches.trimBlank_eq visible_pattern
  · intro htrim
    rw [← htrim, ← hraw]
    exact matches_raw h

/-! ### Validity -/

theorem isValid_iff : isValid s ↔ ∃ q, parse s = .ok q := by
  unfold isValid
  cases parse s with
  | ok q => exact iff_of_true rfl ⟨q, rfl⟩
  | error e => exact iff_of_false Bool.false_ne_true fun ⟨q, hq⟩ => by cases hq

/-- **White space around a text makes no difference** to whether it is a quantity. -/
theorem isValid_congr {t : String} (h : Text.trimBlank s = Text.trimBlank t) :
    isValid s ↔ isValid t := by
  simp only [isValid_iff, parse_eq_ok_iff_parts?, h]

end WrappedTraining.Quantity
