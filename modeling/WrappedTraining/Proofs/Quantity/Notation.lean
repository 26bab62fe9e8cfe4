import Mathlib.Data.List.TakeWhile
import WrappedTraining.Proofs.Text.Numeral
import WrappedTraining.Quantity

/-!
# The notation of a quantity

`Quantity.Reading` lists the parts of a quantity as it is written: a sign, figures with at most one
point, and a suffix. It says how they are written (`Reading.text`), which parts can be written
(`Reading.Legal`), and the format and the value of the quantity.

Suffixes and exponents both start with letters, so that `1E` ends with a suffix and `1E3` with an
exponent. The parts of a text are fixed all the same:

* `Quantity.Figures.cut_text` : figures come apart at their first point, and
  `Quantity.Figures.legal_iff`, `Quantity.Figures.magnitude?_text` : every run of numerals comes
  apart like this, and its number is found unless it has no digits or a second point;
* `Quantity.Suffix.text_injective` : no two suffixes are written alike, as all exponents hold a
  figure and no other suffix does;
* `Quantity.Reading.text_injective` : the parts of every quantity.
-/

namespace WrappedTraining

namespace Quantity

open Text (Sign cutSign)

/-! ### Parts -/

/-- Figures, with a point among them or without one. -/
structure Figures where
  /-- The digits before the point. -/
  whole : List Char
  /-- The digits after the point, if there is a point. -/
  places? : Option (List Char)
deriving DecidableEq

namespace Figures

/-- How figures are written. -/
def text (f : Figures) : List Char := f.whole ++ (f.places?.map ('.' :: ·)).getD []

/-- The digits on both sides of the point. -/
def digits (f : Figures) : List Char := f.whole ++ f.places?.getD []

/-- There are digits, at least on one side of the point. -/
structure Legal (f : Figures) : Prop where
  isDigit : ∀ c ∈ f.digits, c.isDigit
  ne_nil : f.digits ≠ []

/-- The double that is nearest to the number. -/
def value (f : Figures) : Float :=
  Float.ofScientific (Text.digitsValue f.digits) true (f.places?.getD []).length

end Figures

/-- What stands after the figures. -/
inductive Suffix where
  /-- A power of ten by its letter, or one by no letter. -/
  | decimal (name : String)
  /-- A power of two by its letters. -/
  | binary (name : String)
  /-- A power of ten in figures. -/
  | exponent (letter : Char) (sign : Sign) (digits : List Char)

namespace Suffix

/-- The names of powers of ten. -/
def decimalNames : List String := ["", "n", "u", "m", "k", "M", "G", "T", "P", "E"]

/-- The names of powers of two. -/
def binaryNames : List String := ["Ki", "Mi", "Gi", "Ti", "Pi", "Ei"]

/-- How the suffix is written. -/
def text : Suffix → List Char
  | .decimal name => name.toList
  | .binary name => name.toList
  | .exponent letter sign digits => letter :: (sign.text ++ digits)

/-- Names are those of units, and exponents are 32-bit integers. -/
def Legal : Suffix → Prop
  | .decimal name => name ∈ decimalNames
  | .binary name => name ∈ binaryNames
  | .exponent letter sign digits =>
    (letter = 'e' ∨ letter = 'E') ∧ digits ≠ [] ∧ (∀ c ∈ digits, c.isDigit) ∧
      -0x80000000 ≤ sign.apply (Text.digitsValue digits) ∧
      sign.apply (Text.digitsValue digits) ≤ 0x7FFFFFFF

/-- The format of the suffix. -/
def format : Suffix → Format
  | .decimal _ => .decimal
  | .binary _ => .binary
  | .exponent _ _ _ => .exponent

/-- The double of a named unit. -/
def factorOf (name : String) : Float :=
  ((suffixes.find? fun u => u.1 = name).map (·.2.1)).getD 1.0

/-- The double that the suffix stands for. -/
def factor : Suffix → Float
  | .decimal name => factorOf name
  | .binary name => factorOf name
  | .exponent _ sign digits => tenToThe (sign.apply (Text.digitsValue digits))

end Suffix

/-- A quantity with its parts. -/
@[ext]
structure Reading where
  sign : Sign
  figures : Figures
  suffix : Suffix

namespace Reading

/-- How the quantity is written. -/
def text (r : Reading) : List Char := r.sign.text ++ (r.figures.text ++ r.suffix.text)

/-- **The parts that a quantity can be written with.** -/
structure Legal (r : Reading) : Prop where
  figures : r.figures.Legal
  suffix : r.suffix.Legal

/-- The double of the sign. -/
def direction : Sign → Float
  | .minus => -1.0
  | _ => 1.0

/-- The value of the quantity, rounded after each product. -/
def value (r : Reading) : Float := direction r.sign * r.figures.value * r.suffix.factor

/-- The quantity of the reading. -/
def quantity (r : Reading) : Quantity := ⟨String.ofList r.text, r.value, r.suffix.format⟩

end Reading

/-! ### Characters of the parts -/

theorem ne_point_of_isDigit {c : Char} (h : c.isDigit) : c ≠ '.' := by
  rintro rfl
  cases h

namespace Figures

variable {f f' : Figures}

theorem Legal.numerals (h : f.Legal) : ∀ c ∈ f.text, isNumeral c := by
  have hdigit : ∀ c ∈ f.digits, isNumeral c := fun c hc => by simp [isNumeral, h.isDigit c hc]
  obtain ⟨whole, places?⟩ := f
  cases places? with
  | none => simpa [text, digits] using hdigit
  | some places =>
    intro c hc
    have hmem : c = '.' ∨ c ∈ whole ++ places := by
      simp only [text, Option.map_some, Option.getD_some, List.mem_append, List.mem_cons] at hc ⊢
      tauto
    rcases hmem with rfl | hmem
    · rfl
    · exact hdigit c hmem

theorem Legal.text_ne_nil (h : f.Legal) : f.text ≠ [] := by
  have hne := h.ne_nil
  obtain ⟨whole, places?⟩ := f
  cases places? <;> simp_all [text, digits]

/-- Figures come apart at their first point. -/
theorem cut_text (hwhole : ∀ c ∈ f.whole, c.isDigit) :
    f.text.takeWhile (· ≠ '.') = f.whole ∧
      f.text.dropWhile (· ≠ '.') = (f.places?.map ('.' :: ·)).getD [] := by
  obtain ⟨whole, places?⟩ := f
  have hpoint : ∀ c ∈ whole, decide (c ≠ '.') := fun c hc =>
    decide_eq_true (ne_point_of_isDigit (hwhole c hc))
  rw [text, List.takeWhile_append_of_pos hpoint, List.dropWhile_append_of_pos hpoint]
  cases places? with
  | none => exact ⟨List.append_nil _, rfl⟩
  | some places => exact ⟨List.append_nil _, rfl⟩

theorem Legal.isDigit_whole (h : f.Legal) : ∀ c ∈ f.whole, c.isDigit :=
  fun c hc => h.isDigit c (List.mem_append_left _ hc)

theorem text_injective (h : f.Legal) (h' : f'.Legal) (htext : f.text = f'.text) : f = f' := by
  obtain ⟨whole, places?⟩ := f
  obtain ⟨whole', places?'⟩ := f'
  obtain ⟨hwhole, hplaces⟩ := cut_text h.isDigit_whole
  obtain ⟨hwhole', hplaces'⟩ := cut_text h'.isDigit_whole
  rw [htext] at hwhole hplaces
  obtain rfl : whole = whole' := hwhole.symm.trans hwhole'
  have hsame := hplaces.symm.trans hplaces'
  cases places? <;> cases places?' <;> simp_all

/-! #### Runs of numerals -/

/-- Every run of numerals comes apart at its first point, if it has one. -/
theorem exists_text_eq {cs : List Char} (h : ∀ c ∈ cs, isNumeral c) :
    ∃ f : Figures, f.text = cs ∧ (∀ c ∈ f.whole, c.isDigit) ∧
      ∀ c ∈ f.places?.getD [], isNumeral c := by
  have hdigit : ∀ c ∈ cs.takeWhile (· ≠ '.'), c.isDigit := by
    intro c hc
    have hnumeral := h c ((List.takeWhile_prefix _).subset hc)
    have hpoint := List.mem_takeWhile_imp hc
    simpa [isNumeral, of_decide_eq_true hpoint] using hnumeral
  have hsplit := List.takeWhile_append_dropWhile (p := (· ≠ '.')) (l := cs)
  cases hrest : cs.dropWhile (· ≠ '.') with
  | nil =>
    refine ⟨⟨cs.takeWhile (· ≠ '.'), none⟩, ?_, hdigit, by simp⟩
    rw [hrest] at hsplit
    exact hsplit
  | cons c places =>
    have hc : c = '.' := by
      have hhead := List.head?_dropWhile_not (· ≠ '.') cs
      rw [hrest] at hhead
      simpa using hhead
    rw [hrest, hc] at hsplit
    refine ⟨⟨cs.takeWhile (· ≠ '.'), some places⟩, hsplit, hdigit, fun d hd => h d ?_⟩
    rw [← hsplit]
    exact List.mem_append_right _ (List.mem_cons_of_mem _ hd)

variable (hwhole : ∀ c ∈ f.whole, c.isDigit)
include hwhole

/-- A run of numerals can be written unless it has no digits or a second point. -/
theorem legal_iff (hplaces : ∀ c ∈ f.places?.getD [], isNumeral c) :
    f.Legal ↔ ¬(f.digits = [] ∨ '.' ∈ f.places?.getD []) := by
  rw [not_or]
  constructor
  · exact fun h => ⟨h.ne_nil, fun hc =>
      ne_point_of_isDigit (h.isDigit '.' (List.mem_append_right _ hc)) rfl⟩
  · rintro ⟨hne, hpoint⟩
    refine ⟨fun c hc => (List.mem_append.1 hc).elim (hwhole c) fun hc => ?_, hne⟩
    have hnumeral := hplaces c hc
    have hc' : c ≠ '.' := ne_of_mem_of_not_mem hc hpoint
    simpa [isNumeral, hc'] using hnumeral

/-- What comes of a run of numerals. -/
theorem magnitude?_text : magnitude? f.text =
    if f.digits = [] ∨ '.' ∈ f.places?.getD [] then none else some f.value := by
  obtain ⟨htake, hdrop⟩ := cut_text hwhole
  have hplaces : (f.text.dropWhile (· ≠ '.')).drop 1 = f.places?.getD [] := by
    rw [hdrop]
    cases f.places? <;> rfl
  simp only [magnitude?, htake, hplaces, List.contains_iff_mem]
  rfl

end Figures

/-! ### Suffixes -/

namespace Suffix

variable {u u' : Suffix}

/-- The names of units start with a letter, if they start at all, and have no figures. -/
theorem notMem_names {name : String} (h : name ∈ decimalNames ++ binaryNames) :
    ∀ c ∈ name.toList, isNumeral c = false := by
  have hnames : (decimalNames ++ binaryNames).all fun name =>
      name.toList.all fun c => !isNumeral c := by decide
  intro c hc
  simpa using List.all_eq_true.1 (List.all_eq_true.1 hnames name h) c hc

theorem Legal.starts (h : u.Legal) : ∀ c ∈ u.text.head?, isNumeral c = false := by
  cases u with
  | decimal name =>
    exact fun c hc => notMem_names (List.mem_append_left _ h) c (List.mem_of_head? hc)
  | binary name =>
    exact fun c hc => notMem_names (List.mem_append_right _ h) c (List.mem_of_head? hc)
  | exponent letter sign digits =>
    rintro c ⟨⟩
    rcases h.1 with rfl | rfl <;> rfl

/-- An exponent has a figure. -/
theorem exists_isDigit_exponent {letter : Char} {sign : Sign} {digits : List Char}
    (h : (exponent letter sign digits).Legal) :
    ∃ c ∈ (exponent letter sign digits).text, c.isDigit := by
  obtain ⟨c, cs, rfl⟩ := List.exists_cons_of_ne_nil h.2.1
  exact ⟨c, by simp [text], h.2.2.1 c List.mem_cons_self⟩

/-- No exponent is written like the name of a unit. -/
theorem text_exponent_ne {letter : Char} {sign : Sign} {digits : List Char} {name : String}
    (h : (exponent letter sign digits).Legal) (hname : name ∈ decimalNames ++ binaryNames) :
    (exponent letter sign digits).text ≠ name.toList := by
  intro htext
  obtain ⟨c, hc, hdigit⟩ := exists_isDigit_exponent h
  have hnot := notMem_names hname c (htext ▸ hc)
  simp [isNumeral, hdigit] at hnot

theorem head_digits {digits : List Char} (h : ∀ c ∈ digits, c.isDigit) :
    ∀ c ∈ digits.head?, c ≠ '+' ∧ c ≠ '-' :=
  fun c hc => Text.ne_sign_of_isDigit (h c (List.mem_of_head? hc))

/-- **No two suffixes are written alike.** -/
theorem text_injective (h : u.Legal) (h' : u'.Legal) (htext : u.text = u'.text) : u = u' := by
  have hdisjoint : ∀ a ∈ decimalNames, ∀ b ∈ binaryNames, a ≠ b := by decide
  cases u with
  | decimal name =>
    cases u' with
    | decimal name' => rw [String.toList_inj.1 htext]
    | binary name' => exact absurd (String.toList_inj.1 htext) (hdisjoint _ h _ h')
    | exponent letter sign digits =>
      exact absurd htext.symm (text_exponent_ne h' (List.mem_append_left _ h))
  | binary name =>
    cases u' with
    | decimal name' => exact absurd (String.toList_inj.1 htext).symm (hdisjoint _ h' _ h)
    | binary name' => rw [String.toList_inj.1 htext]
    | exponent letter sign digits =>
      exact absurd htext.symm (text_exponent_ne h' (List.mem_append_right _ h))
  | exponent letter sign digits =>
    cases u' with
    | decimal name => exact absurd htext (text_exponent_ne h (List.mem_append_left _ h'))
    | binary name => exact absurd htext (text_exponent_ne h (List.mem_append_right _ h'))
    | exponent letter' sign' digits' =>
      obtain ⟨rfl, hrest⟩ := List.cons.inj htext
      have hcut := Text.cutSign_text_append (head_digits h.2.2.1) sign
      rw [hrest, Text.cutSign_text_append (head_digits h'.2.2.1)] at hcut
      obtain ⟨rfl, rfl⟩ := Prod.mk.inj hcut
      rfl

end Suffix

/-! ### Whole quantities -/

namespace Reading

variable {r r' : Reading}

/-- The figures end where the suffix starts. -/
theorem Legal.cut_body (h : r.Legal) :
    (r.figures.text ++ r.suffix.text).takeWhile isNumeral = r.figures.text ∧
      (r.figures.text ++ r.suffix.text).dropWhile isNumeral = r.suffix.text := by
  rw [List.takeWhile_append_of_pos h.figures.numerals,
    List.dropWhile_append_of_pos h.figures.numerals]
  have hstart := h.suffix.starts
  cases hsuffix : r.suffix.text with
  | nil => exact ⟨List.append_nil _, rfl⟩
  | cons c cs =>
    have hc : ¬isNumeral c := by simp [hstart c (by rw [hsuffix]; rfl)]
    rw [List.takeWhile_cons_of_neg hc, List.dropWhile_cons_of_neg hc]
    exact ⟨List.append_nil _, rfl⟩

/-- The figures have no sign. -/
theorem Legal.cutSign_text (h : r.Legal) :
    cutSign r.text = (r.sign, r.figures.text ++ r.suffix.text) := by
  refine Text.cutSign_text_append (fun c hc => ?_) r.sign
  have hmem : c ∈ r.figures.text := by
    obtain ⟨d, ds, hds⟩ := List.exists_cons_of_ne_nil h.figures.text_ne_nil
    rw [hds] at hc ⊢
    exact List.mem_of_head? hc
  have hnumeral := h.figures.numerals c hmem
  constructor <;> (rintro rfl; revert hnumeral; decide)

/-- **A quantity is read in one way.** -/
theorem text_injective (h : r.Legal) (h' : r'.Legal) (htext : r.text = r'.text) : r = r' := by
  have hcut := h.cutSign_text
  rw [htext, h'.cutSign_text] at hcut
  obtain ⟨hsign, hbody⟩ := Prod.mk.inj hcut
  obtain ⟨hfigures, hsuffix⟩ := h.cut_body
  obtain ⟨hfigures', hsuffix'⟩ := h'.cut_body
  rw [hbody] at hfigures' hsuffix'
  exact Reading.ext hsign.symm
    (Figures.text_injective h.figures h'.figures (hfigures.symm.trans hfigures'))
    (Suffix.text_injective h.suffix h'.suffix (hsuffix.symm.trans hsuffix'))

end Reading

end Quantity

end WrappedTraining
