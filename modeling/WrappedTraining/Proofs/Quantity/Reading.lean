import WrappedTraining.Proofs.Quantity.Sliced
import WrappedTraining.Proofs.Text.Trimmed

/-!
# How quantities are read

Reading a quantity finds the parts of its notation.

* `Quantity.magnitude?_eq_some_iff` : figures;
* `Quantity.unit?_eq_some_iff` : suffixes, names before exponents;
* `Quantity.parts?_eq_some_iff` : whole quantities;
* `Quantity.parse_eq_ok_iff_written` : which texts are read as a quantity, and as which.
-/

namespace WrappedTraining

namespace Quantity

open Text (Sign cutSign)

variable {cs : List Char} {x : Float} {format : Format}

/-! ### Figures -/

theorem Figures.Legal.magnitude?_text {f : Figures} (h : f.Legal) :
    magnitude? f.text = some f.value := by
  rw [Figures.magnitude?_text h.isDigit_whole, if_neg]
  refine (Figures.legal_iff h.isDigit_whole fun c hc => ?_).1 h
  simp [isNumeral, h.isDigit c (List.mem_append_right _ hc)]

theorem magnitude?_eq_some_iff (hcs : ∀ c ∈ cs, isNumeral c) :
    magnitude? cs = some x ↔ ∃ f : Figures, f.Legal ∧ f.text = cs ∧ x = f.value := by
  constructor
  · intro h
    obtain ⟨f, rfl, hwhole, hplaces⟩ := Figures.exists_text_eq hcs
    rw [Figures.magnitude?_text hwhole, Option.ite_none_left_eq_some] at h
    exact ⟨f, (Figures.legal_iff hwhole hplaces).2 h.1, rfl, (Option.some.inj h.2).symm⟩
  · rintro ⟨f, h, rfl, rfl⟩
    exact h.magnitude?_text

/-! ### Suffixes -/

theorem decimal_of_mem_decimalNames : ∀ name ∈ Suffix.decimalNames,
    (suffixes.find? fun u => u.1 = name).map (·.2.2) = some .decimal := by
  decide +kernel

theorem binary_of_mem_binaryNames : ∀ name ∈ Suffix.binaryNames,
    (suffixes.find? fun u => u.1 = name).map (·.2.2) = some .binary := by
  decide +kernel

/-- The units with letters are the named suffixes. -/
theorem mem_names_of_mem_suffixes : ∀ u ∈ suffixes,
    u.1 ∈ Suffix.decimalNames ∧ u.2.2 = .decimal ∨
      u.1 ∈ Suffix.binaryNames ∧ u.2.2 = .binary := by
  decide +kernel

theorem unit?_name {name : String}
    (h : (suffixes.find? fun u => u.1 = name).map (·.2.2) = some format) :
    unit? name.toList = some (Suffix.factorOf name, format) := by
  obtain ⟨⟨_, x, _⟩, hu, rfl⟩ := Option.map_eq_some_iff.1 h
  simp only [unit?, Suffix.factorOf, String.ofList_toList, hu]
  rfl

theorem exponent?_cons {letter : Char} (h : letter = 'e' ∨ letter = 'E') (cs : List Char) :
    exponent? (letter :: cs) =
      Text.integerIn? (-0x80000000) 0x7FFFFFFF (String.ofList cs) := by
  rcases h with rfl | rfl <;> rfl

theorem exists_cons_of_exponent? {e : Int} (h : exponent? cs = some e) :
    ∃ letter rest, (letter = 'e' ∨ letter = 'E') ∧ cs = letter :: rest := by
  unfold exponent? at h
  split at h
  · exact ⟨_, _, .inl rfl, rfl⟩
  · exact ⟨_, _, .inr rfl, rfl⟩
  · cases h

/-- An exponent is the letter and a 32-bit integer. -/
theorem exponent?_eq_some_iff {e : Int} : exponent? cs = some e ↔
    ∃ letter sign digits, (Suffix.exponent letter sign digits).Legal ∧
      (Suffix.exponent letter sign digits).text = cs ∧
      e = sign.apply (Text.digitsValue digits) := by
  constructor
  · intro h
    obtain ⟨letter, rest, hletter, rfl⟩ := exists_cons_of_exponent? h
    rw [exponent?_cons hletter, Text.integerIn?_eq_some_iff, String.toList_ofList,
      Text.integer?_eq_some_iff] at h
    obtain ⟨⟨sign, digits, rfl, hne, hdigits, rfl⟩, hlo, hhi⟩ := h
    exact ⟨letter, sign, digits, ⟨hletter, hne, hdigits, hlo, hhi⟩, rfl, rfl⟩
  · rintro ⟨letter, sign, digits, ⟨hletter, hne, hdigits, hlo, hhi⟩, rfl, rfl⟩
    rw [Suffix.text, exponent?_cons hletter, Text.integerIn?_eq_some_iff, String.toList_ofList,
      Text.integer?_eq_some_iff]
    exact ⟨⟨sign, digits, rfl, hne, hdigits, rfl⟩, hlo, hhi⟩

theorem Suffix.Legal.unit?_text {u : Suffix} (h : u.Legal) :
    unit? u.text = some (u.factor, u.format) := by
  cases u with
  | decimal name => exact unit?_name (decimal_of_mem_decimalNames name h)
  | binary name => exact unit?_name (binary_of_mem_binaryNames name h)
  | exponent letter sign digits =>
    -- no unit has the name, so that the exponent is looked at
    have hname : suffixes.find? (fun u => u.1 = String.ofList
        (Suffix.exponent letter sign digits).text) = none := by
      refine List.find?_eq_none.2 fun u hu heq => ?_
      have hmem : u.1 ∈ Suffix.decimalNames ++ Suffix.binaryNames :=
        (mem_names_of_mem_suffixes u hu).elim (fun hu => List.mem_append_left _ hu.1)
          fun hu => List.mem_append_right _ hu.1
      refine Suffix.text_exponent_ne h hmem ?_
      rw [of_decide_eq_true heq, String.toList_ofList]
    simp only [unit?, hname, exponent?_eq_some_iff.2 ⟨letter, sign, digits, h, rfl, rfl⟩]
    rfl

theorem unit?_eq_some_iff : unit? cs = some (x, format) ↔
    ∃ u : Suffix, u.Legal ∧ u.text = cs ∧ x = u.factor ∧ format = u.format := by
  constructor
  · intro h
    cases hfind : suffixes.find? fun u => u.1 = String.ofList cs with
    | some v =>
      have hv := List.find?_some hfind
      have hname : v.1.toList = cs := by rw [of_decide_eq_true hv, String.toList_ofList]
      obtain ⟨name, y, written⟩ := v
      simp only [unit?, hfind, Option.some.injEq, Prod.mk.injEq] at h
      obtain ⟨rfl, rfl⟩ := h
      have hfactor : Suffix.factorOf name = y := by
        rw [Suffix.factorOf, show name = String.ofList cs from of_decide_eq_true hv, hfind]
        rfl
      rcases mem_names_of_mem_suffixes _ (List.mem_of_find?_eq_some hfind) with hmem | hmem
      · exact ⟨.decimal name, hmem.1, hname, hfactor.symm, hmem.2⟩
      · exact ⟨.binary name, hmem.1, hname, hfactor.symm, hmem.2⟩
    | none =>
      simp only [unit?, hfind] at h
      obtain ⟨e, he, hparts⟩ := Option.map_eq_some_iff.1 h
      obtain ⟨letter, sign, digits, hlegal, rfl, rfl⟩ := exponent?_eq_some_iff.1 he
      obtain ⟨rfl, rfl⟩ := Prod.mk.inj hparts
      exact ⟨_, hlegal, rfl, rfl, rfl⟩
  · rintro ⟨u, h, rfl, rfl, rfl⟩
    exact h.unit?_text

/-! ### Whole quantities -/

theorem signed_eq (cs : List Char) :
    signed cs = (Reading.direction (cutSign cs).1, (cutSign cs).2) := by
  fun_cases cutSign cs with
  | case1 cs => rfl
  | case2 cs => rfl
  | case3 cs hminus hplus => rw [signed.eq_3 cs hminus hplus]; rfl

/-- **Value and format of a text are those of its parts.** -/
theorem parts?_eq_some_iff : parts? cs = some (x, format) ↔
    ∃ r : Reading, r.Legal ∧ r.text = cs ∧ x = r.value ∧ format = r.suffix.format := by
  rw [parts?, signed_eq]
  constructor
  · intro h
    obtain ⟨m, hm, h⟩ := Option.bind_eq_some_iff.1 h
    obtain ⟨⟨unit, written⟩, hunit, h⟩ := Option.bind_eq_some_iff.1 h
    obtain ⟨rfl, rfl⟩ := Prod.mk.inj (Option.some.inj h)
    obtain ⟨f, hf, hftext, rfl⟩ :=
      (magnitude?_eq_some_iff fun c hc => List.mem_takeWhile_imp hc).1 hm
    obtain ⟨u, hu, hutext, rfl, rfl⟩ := unit?_eq_some_iff.1 hunit
    refine ⟨⟨(cutSign cs).1, f, u⟩, ⟨hf, hu⟩, ?_, rfl, rfl⟩
    rw [Reading.text, hftext, hutext, List.takeWhile_append_dropWhile, Text.text_cutSign]
  · rintro ⟨r, h, rfl, rfl, rfl⟩
    obtain ⟨hfigures, hsuffix⟩ := h.cut_body
    simp only [h.cutSign_text, hfigures, hsuffix, h.figures.magnitude?_text,
      h.suffix.unit?_text]
    rfl

theorem parse_eq_ok_iff_parts? {s : String} {q : Quantity} : parse s = .ok q ↔
    q.raw = Text.trimBlank s ∧ parts? q.raw.toList = some (q.value, q.format) := by
  obtain ⟨raw, value, format⟩ := q
  dsimp only [parse]
  constructor
  · intro h
    split at h
    · rename_i hparts
      obtain ⟨rfl, rfl, rfl⟩ := Quantity.mk.inj (Except.ok.inj h)
      exact ⟨rfl, hparts⟩
    · cases h
  · rintro ⟨rfl, hparts⟩
    simp only [hparts]

/-- **What is accepted as a quantity.** A text is accepted exactly if, white space around it aside,
it is written in the notation, and the quantity is that of its parts. The parts of a text are the
only ones, and the text that is kept is read as the same quantity again. To find the parts by bytes
no cut falls inside a character and no number fails to convert. -/
theorem parse_eq_ok_iff_written (s : String) :
    (∀ q, parse s = .ok q ↔ ∃ r : Reading, r.Legal ∧
      Text.IsTrimmed Text.isBlank s (String.ofList r.text) ∧ q = r.quantity) ∧
    (∀ r r' : Reading, r.Legal → r'.Legal → r.text = r'.text → r = r') ∧
    (∀ q, parse s = .ok q → q.raw = Text.trimBlank s ∧ parse q.raw = .ok q) ∧
    Sliced.parse s = Sliced.ended (parse s) := by
  refine ⟨fun q => ?_, fun r r' => Reading.text_injective, fun q h => ?_, Sliced.parse_eq s⟩
  · rw [parse_eq_ok_iff_parts?, parts?_eq_some_iff]
    constructor
    · rintro ⟨hraw, r, hr, htext, hvalue, hformat⟩
      have htext' : String.ofList r.text = q.raw := by rw [htext, String.ofList_toList]
      refine ⟨r, hr, Text.trim_eq_iff.1 (hraw.symm.trans htext'.symm), ?_⟩
      rw [Reading.quantity, htext', ← hvalue, ← hformat]
    · rintro ⟨r, hr, htrim, rfl⟩
      exact ⟨(Text.trim_eq_iff.2 htrim).symm, r, hr, String.toList_ofList.symm, rfl, rfl⟩
  · obtain ⟨hraw, hparts⟩ := parse_eq_ok_iff_parts?.1 h
    refine ⟨hraw, parse_eq_ok_iff_parts?.2 ⟨?_, hparts⟩⟩
    rw [hraw]
    exact (Text.trim_trim Text.isBlank s).symm

end Quantity

end WrappedTraining
