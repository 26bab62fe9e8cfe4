import WrappedTraining.Proofs.Text.Trimmed

/-!
# Patterns

A `Text.Pattern` is a regular expression that is made of classes of characters, each repeated, which
stand one after the other. `Pattern.text` is how the expression is written, and `Pattern.Matches`
says which texts it matches as a whole; that can be decided.

* `Pattern.Matches.exists_range` : every character of a text that matches is in one of the classes;
* `Pattern.Matches.trimBlank_eq` : a text that matches a pattern of visible characters has no white
  space around it.
-/

namespace WrappedTraining.Text

/-! ### Visible characters -/

/-- A visible character is not white space. -/
theorem isBlank_of_visible {c : Char} (hlo : 33 ≤ c.toNat) (hhi : c.toNat ≤ 126) :
    isBlank c = false := by
  have hspace : c ≠ ' ' := by
    rintro rfl
    exact absurd hlo (by decide)
  have hcontrol : ¬c.toNat ≤ 13 := by omega
  have hother : ∀ r ∈ blankRanges, 126 < r.1 := by decide
  simp only [isBlank, hspace, hcontrol, decide_false, Bool.and_false, Bool.or_false,
    Bool.false_or, List.any_eq_false]
  intro r hr hin
  have hbelow := hother r hr
  simp only [Bool.and_eq_true, decide_eq_true_eq] at hin
  omega

/-! ### Expressions -/

/-- The characters from `lo` to `hi`. -/
structure Range where
  lo : Char
  hi : Char

namespace Range

/-- The range of one character. -/
def one (c : Char) : Range := ⟨c, c⟩

/-- How the range is written between brackets. -/
def text (r : Range) : List Char := if r.lo = r.hi then [r.lo] else [r.lo, '-', r.hi]

/-- The character is in the range. -/
def Has (r : Range) (c : Char) : Prop := r.lo.toNat ≤ c.toNat ∧ c.toNat ≤ r.hi.toNat

instance (r : Range) (c : Char) : Decidable (r.Has c) := inferInstanceAs (Decidable (_ ∧ _))

/-- The range has visible ASCII characters alone. -/
def Visible (r : Range) : Prop := 33 ≤ r.lo.toNat ∧ r.hi.toNat ≤ 126

instance (r : Range) : Decidable r.Visible := inferInstanceAs (Decidable (_ ∧ _))

end Range

/-- How often a character of a class stands. -/
inductive Repetition where
  | optional
  | any
  | some

namespace Repetition

/-- The mark of the repetition. -/
def mark : Repetition → Char
  | .optional => '?'
  | .any => '*'
  | .some => '+'

/-- The number of characters that the repetition asks for. -/
def Allows : Repetition → Nat → Prop
  | .optional, n => n ≤ 1
  | .any, _ => True
  | .some, n => 1 ≤ n

instance (times : Repetition) (n : Nat) : Decidable (times.Allows n) :=
  match times with
  | .optional => inferInstanceAs (Decidable (n ≤ 1))
  | .any => inferInstanceAs (Decidable True)
  | .some => inferInstanceAs (Decidable (1 ≤ n))

end Repetition

/-- A regular expression of repeated classes. -/
inductive Pattern where
  /-- Characters of some ranges. -/
  | run (ranges : List Range) (times : Repetition)
  /-- One pattern after the other. -/
  | andThen (first second : Pattern)
  /-- A pattern in parentheses. -/
  | group (inner : Pattern)

namespace Pattern

/-- How the pattern is written. -/
def text : Pattern → List Char
  | .run ranges times => '[' :: ranges.flatMap Range.text ++ [']', times.mark]
  | .andThen first second => first.text ++ second.text
  | .group inner => '(' :: inner.text ++ [')']

/-- How the pattern is written when it has to match a text from start to end. -/
def wholeText (p : Pattern) : String := String.ofList ('^' :: p.text ++ ['$'])

/-- The ranges of all classes. -/
def ranges : Pattern → List Range
  | .run ranges _ => ranges
  | .andThen first second => first.ranges ++ second.ranges
  | .group inner => inner.ranges

/-! ### Matches -/

/-- **The characters match the pattern**, all of them together. -/
def Matches : Pattern → List Char → Prop
  | .run ranges times, cs => (∀ c ∈ cs, ∃ r ∈ ranges, r.Has c) ∧ times.Allows cs.length
  | .andThen first second, cs => ∃ as bs, as ++ bs = cs ∧ first.Matches as ∧ second.Matches bs
  | .group inner, cs => inner.Matches cs

variable {p q : Pattern} {as bs cs : List Char} {s : String}

theorem Matches.andThen (hp : p.Matches as) (hq : q.Matches bs) :
    (p.andThen q).Matches (as ++ bs) := ⟨as, bs, rfl, hp, hq⟩

/-- It is enough to look at every place where the first pattern can end. -/
theorem matches_andThen_iff : (p.andThen q).Matches cs ↔
    ∃ n ∈ List.range (cs.length + 1), p.Matches (cs.take n) ∧ q.Matches (cs.drop n) := by
  constructor
  · rintro ⟨as, bs, rfl, hp, hq⟩
    refine ⟨as.length, ?_, ?_, ?_⟩
    · rw [List.mem_range, List.length_append]
      omega
    · rwa [List.take_left]
    · rwa [List.drop_left]
  · rintro ⟨n, -, hp, hq⟩
    exact ⟨_, _, List.take_append_drop n cs, hp, hq⟩

/-- Whether a pattern matches is found by trying. -/
instance decidableMatches : (p : Pattern) → DecidablePred p.Matches
  | .run ranges times => fun cs =>
    -- the characters of the text are looked at, not all characters that there are
    haveI : Decidable (∀ c ∈ cs, ∃ r ∈ ranges, r.Has c) := List.decidableBAll _ cs
    inferInstanceAs (Decidable (_ ∧ times.Allows cs.length))
  | .andThen first second => fun _ =>
    haveI := decidableMatches first
    haveI := decidableMatches second
    decidable_of_iff _ matches_andThen_iff.symm
  | .group inner => decidableMatches inner

/-- Every character of a text that matches is in one of the classes. -/
theorem Matches.exists_range (h : p.Matches cs) : ∀ c ∈ cs, ∃ r ∈ p.ranges, r.Has c := by
  induction p generalizing cs with
  | run ranges times => exact h.1
  | andThen first second ihFirst ihSecond =>
    obtain ⟨as, bs, rfl, hfirst, hsecond⟩ := h
    intro c hc
    rcases List.mem_append.1 hc with hc | hc
    · obtain ⟨r, hr, hin⟩ := ihFirst hfirst c hc
      exact ⟨r, List.mem_append_left _ hr, hin⟩
    · obtain ⟨r, hr, hin⟩ := ihSecond hsecond c hc
      exact ⟨r, List.mem_append_right _ hr, hin⟩
  | group inner ih => exact ih h

/-- **A text that matches a pattern of visible characters has no white space around it.** -/
theorem Matches.trimBlank_eq (hvisible : ∀ r ∈ p.ranges, r.Visible) (h : p.Matches s.toList) :
    trimBlank s = s := by
  have hnot : ∀ c ∈ s.toList, ¬isBlank c := by
    intro c hc
    obtain ⟨r, hr, hlo, hhi⟩ := h.exists_range c hc
    obtain ⟨hlo', hhi'⟩ := hvisible r hr
    rw [isBlank_of_visible (hlo'.trans hlo) (hhi.trans hhi')]
    exact Bool.false_ne_true
  exact trim_eq_iff.2 {
    around := ⟨[], [], by simp, by simp, by simp⟩
    start := fun c hc => hnot c (List.mem_of_head? hc)
    ending := fun c hc => hnot c (List.mem_of_getLast? hc) }

end Pattern

end WrappedTraining.Text
