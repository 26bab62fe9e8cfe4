import WrappedTraining.Proofs.Text.Numeral
import WrappedTraining.Report

/-!
# Lengths of time that people read

A report shows a length of time in one or two units, and what is left below the smaller one is
dropped. To say how much that can be, the text is read back.

* `Report.written`, `Report.partsOf?` : counts of units as a text, and the counts of a text;
  `Report.partsOf?_written` : what is written is read;
* `Report.Shows` : the four forms in which a number of seconds is shown, and
  `Report.exists_shows` : one of them is written;
* `Report.age_rounds_down` : how far the text is from the length of time, and that a longer one is
  never shown as less.
-/

namespace WrappedTraining.Report

/-! ### Units -/

/-- A unit in which lengths of time are shown. -/
inductive AgeUnit where
  | day
  | hour
  | minute
  | second
deriving DecidableEq

namespace AgeUnit

/-- The letter of the unit. -/
def letter : AgeUnit → Char
  | .day => 'd'
  | .hour => 'h'
  | .minute => 'm'
  | .second => 's'

/-- The seconds in the unit. -/
def seconds : AgeUnit → Nat
  | .day => 86400
  | .hour => 3600
  | .minute => 60
  | .second => 1

/-- The unit of a letter. -/
def ofLetter? : Char → Option AgeUnit
  | 'd' => some .day
  | 'h' => some .hour
  | 'm' => some .minute
  | 's' => some .second
  | _ => none

theorem ofLetter?_letter (u : AgeUnit) : ofLetter? u.letter = some u := by
  cases u <;> rfl

theorem isDigit_letter (u : AgeUnit) : u.letter.isDigit = false := by
  cases u <;> rfl

end AgeUnit

/-! ### Writing and reading -/

/-- Counts of units, each with the letter of its unit. -/
def written : List (Nat × AgeUnit) → String
  | [] => ""
  | (n, u) :: ps => Text.ofNat n ++ u.letter.toString ++ written ps

/-- The seconds that counts of units make together. -/
def worth : List (Nat × AgeUnit) → Nat
  | [] => 0
  | (n, u) :: ps => n * u.seconds + worth ps

/-- Read numbers that are each followed by a unit; `digits` are those of the number that is being
read. -/
def readParts (digits : List Char) : List Char → Option (List (Nat × AgeUnit))
  | [] => if digits = [] then some [] else none
  | c :: cs =>
    if c.isDigit then readParts (digits ++ [c]) cs
    else match Text.natural? digits, AgeUnit.ofLetter? c with
      | some n, some u => (readParts [] cs).map ((n, u) :: ·)
      | _, _ => none

/-- The counts of units that a text shows. -/
def partsOf? (s : String) : Option (List (Nat × AgeUnit)) := readParts [] s.toList

theorem readParts_digits {es : List Char} (h : ∀ c ∈ es, c.isDigit) (digits cs : List Char) :
    readParts digits (es ++ cs) = readParts (digits ++ es) cs := by
  induction es generalizing digits with
  | nil => rw [List.nil_append, List.append_nil]
  | cons e es ih =>
    obtain ⟨he, hes⟩ := List.forall_mem_cons.1 h
    rw [List.cons_append, readParts, if_pos he, ih hes, List.append_assoc]
    rfl

theorem readParts_part (n : Nat) (u : AgeUnit) (cs : List Char) :
    readParts [] ((Text.ofNat n).toList ++ u.letter :: cs) =
      (readParts [] cs).map ((n, u) :: ·) := by
  have hread : Text.natural? (Text.ofNat n).toList = some n := Text.natural?_repr n
  rw [readParts_digits (Text.isDigit_of_natural? hread), List.nil_append, readParts,
    AgeUnit.isDigit_letter, hread, AgeUnit.ofLetter?_letter]
  rfl

/-- **Counts of units are read from the text that they are written as.** -/
theorem partsOf?_written (ps : List (Nat × AgeUnit)) : partsOf? (written ps) = some ps := by
  induction ps with
  | nil => rfl
  | cons p ps ih =>
    obtain ⟨n, u⟩ := p
    have htoList : (written ((n, u) :: ps)).toList =
        (Text.ofNat n).toList ++ u.letter :: (written ps).toList := by simp [written]
    have hrest : readParts [] (written ps).toList = some ps := ih
    rw [partsOf?, htoList, readParts_part, hrest]
    rfl

/-! ### The four forms -/

/-- How a number of seconds is shown: in its two largest units if these are days or hours, and else
in the largest. -/
inductive Shows : Nat → List (Nat × AgeUnit) → Prop
  | days {s : Nat} (h : 86400 ≤ s) : Shows s [(s / 86400, .day), (s % 86400 / 3600, .hour)]
  | hours {s : Nat} (hlo : 3600 ≤ s) (hhi : s < 86400) :
    Shows s [(s / 3600, .hour), (s % 3600 / 60, .minute)]
  | minutes {s : Nat} (hlo : 60 ≤ s) (hhi : s < 3600) : Shows s [(s / 60, .minute)]
  | seconds {s : Nat} (h : s < 60) : Shows s [(s, .second)]

theorem written_pair (n m : Nat) (u v : AgeUnit) : written [(n, u), (m, v)] =
    Text.ofNat n ++ u.letter.toString ++ Text.ofNat m ++ v.letter.toString := by
  simp only [written, String.append_empty, String.append_assoc]

theorem written_single (n : Nat) (u : AgeUnit) :
    written [(n, u)] = Text.ofNat n ++ u.letter.toString := String.append_empty

/-- The form is chosen by the first count that is not zero. -/
theorem exists_shows (d : Span) : ∃ ps, age d = written ps ∧ Shows d.seconds.toNat ps := by
  unfold age
  generalize d.seconds.toNat = s
  dsimp only
  split
  · exact ⟨_, (written_pair _ _ .day .hour).symm, .days (by omega)⟩
  · split
    · have hs : s % 86400 = s := by omega
      rw [hs]
      exact ⟨_, (written_pair _ _ .hour .minute).symm, .hours (by omega) (by omega)⟩
    · split
      · have hs : s % 3600 = s := by omega
        rw [hs]
        exact ⟨_, (written_single _ .minute).symm, .minutes (by omega) (by omega)⟩
      · have hs : s % 60 = s := by omega
        rw [hs]
        exact ⟨_, (written_single _ .second).symm, .seconds (by omega)⟩

/-- What a text shows of a number of seconds: never more, and only so much less as the smaller unit
hides. A count beside a larger unit does not make another one of these. -/
structure RoundsDown (s : Int) (ps : List (Nat × AgeUnit)) : Prop where
  le : worth ps ≤ s
  with_days : 86400 ≤ s → s - worth ps < 3600
  below_day : 60 ≤ s → s < 86400 → s - worth ps < 60
  below_minute : s < 60 → worth ps = s
  hours_lt : ∀ n, (n, .hour) ∈ ps → (∃ m, (m, .day) ∈ ps) → n < 24
  minutes_lt : ∀ n, (n, .minute) ∈ ps → (∃ m, (m, .hour) ∈ ps) → n < 60

variable {s t : Nat} {ps qs : List (Nat × AgeUnit)}

theorem Shows.roundsDown (h : Shows s ps) : RoundsDown s ps := by
  cases h with
  | days h | hours hlo hhi | minutes hlo hhi | seconds h =>
    constructor <;> simp [worth, AgeUnit.seconds] <;> omega

/-- **More seconds are never shown as less**, whatever the forms in which they are shown. -/
theorem Shows.worth_mono (h : Shows s ps) (h' : Shows t qs) (hle : s ≤ t) :
    worth ps ≤ worth qs := by
  cases h <;> cases h' <;> simp only [worth, AgeUnit.seconds] <;> omega

/-! ### Every length of time -/

theorem seconds_mono {d e : Span} (h : d.nanos ≤ e.nanos) : d.seconds ≤ e.seconds :=
  Int.tdiv_le_tdiv (by decide) h

/-- **How a length of time is shown.** What the text says is never more than the whole seconds of
the length, where one below zero counts as zero; it is less by under an hour from a day on, by under
a minute from a minute on, and is exact below that. A longer time is never shown as less. -/
theorem age_rounds_down :
    (∀ d : Span, ∃ ps, partsOf? (age d) = some ps ∧ RoundsDown (max 0 d.seconds) ps) ∧
    ∀ d e : Span, d.nanos ≤ e.nanos → ∀ ps qs, partsOf? (age d) = some ps →
      partsOf? (age e) = some qs → worth ps ≤ worth qs := by
  constructor
  · intro d
    obtain ⟨ps, htext, hshows⟩ := exists_shows d
    have hseconds : (d.seconds.toNat : Int) = max 0 d.seconds := by omega
    exact ⟨ps, by rw [htext, partsOf?_written], hseconds ▸ hshows.roundsDown⟩
  · intro d e hle ps qs hps hqs
    obtain ⟨ps', htext, hshows⟩ := exists_shows d
    obtain ⟨qs', htext', hshows'⟩ := exists_shows e
    rw [htext, partsOf?_written, Option.some.injEq] at hps
    rw [htext', partsOf?_written, Option.some.injEq] at hqs
    subst hps hqs
    exact hshows.worth_mono hshows' (Int.toNat_le_toNat (seconds_mono hle))

/-- The last length of time without days, and the first with one. -/
example : age (.ofSeconds 86399) = "23h59m" ∧ age (.ofSeconds 86400) = "1d0h" := by
  decide +kernel

end WrappedTraining.Report
