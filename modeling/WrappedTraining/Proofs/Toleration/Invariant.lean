import WrappedTraining.Proofs.Toleration.Reading

/-!
# The parts of an accepted toleration

Whatever the notation, the parts of an accepted toleration go together: its key has no equals sign,
its value is not empty, its seconds are not negative, and the operator tells whether there is a
value.

The operator is optional in the notations, and one that is left empty is kept as absent rather than
filled in. That is the one way to have a value without the operator `Equal`
(`Toleration.HasEmptyOperator`).

* `Toleration.Reading.value_ne_none_iff` : the value and the operator, one case per notation;
* `Toleration.sound_of_parse` : the parts of an accepted toleration.
-/

namespace WrappedTraining

namespace Text

theorem nonEmpty?_ne_none_iff {v : String} : nonEmpty? v ≠ none ↔ v ≠ "" := by
  by_cases h : v = "" <;> simp [nonEmpty?, h]

theorem nonEmpty?_ne_empty (v : String) : nonEmpty? v ≠ some "" := by
  unfold nonEmpty?
  split
  · nofun
  · rename_i h
    exact fun heq => h (Option.some.inj heq)

end Text

namespace Toleration

/-- A value is written, and the piece of the operator after it is empty. -/
def Reading.LeavesOperatorEmpty : Reading → Prop
  | .paired _ value _ o => value ≠ "" ∧ o = none
  | .valued _ value (.operator _ o) => value ≠ "" ∧ o = none
  | .valued _ value (.seconds _ o _) => value ≠ "" ∧ o = none
  | _ => False

/-- The text is written in a notation with a value and an empty operator: `key=value:effect,` or
`key=value:effect:` or `key=value:effect::seconds`. -/
def HasEmptyOperator (s : String) : Prop :=
  ∃ r : Reading, r.WellFormed ∧ r.text = s ∧ r.LeavesOperatorEmpty

/-- **The parts of the toleration that the text `s` stands for go together.** -/
structure Sound (s : String) (t : Toleration) : Prop where
  key : '=' ∉ t.key.toList
  value : t.value ≠ some ""
  operator : t.value ≠ none ↔
    t.operator = some .equal ∨ (t.operator = none ∧ HasEmptyOperator s)
  seconds : ∀ x, t.seconds = some x → 0 ≤ x

/-! ### One notation at a time -/

namespace Ending

variable {E : Ending} {key : String} {value : Option String} {default : MatchOperator}

theorem toleration_key : (E.toleration key value default).key = key := by cases E <;> rfl

theorem toleration_value : (E.toleration key value default).value = value := by cases E <;> rfl

theorem seconds_nonneg (h : E.Legal) {x : Int64}
    (hx : (E.toleration key value default).seconds = some x) : 0 ≤ x := by
  cases E with
  | seconds e o n =>
    obtain ⟨y, hy, hpos⟩ := h
    have hxy : Text.int64? n = some x := hx
    obtain rfl := Option.some.inj (hy.symm.trans hxy)
    exact hpos
  | none => cases hx
  | effect e => cases hx
  | operator e o => cases hx

end Ending

namespace Reading

variable {r : Reading}

theorem notMem_key (h : r.WellFormed) : '=' ∉ r.toleration.key.toList := by
  cases r with
  | paired key value e o => exact h.1
  | valued key value ending =>
    rw [toleration, Ending.toleration_key]
    exact h.1
  | bare key ending =>
    rw [toleration, Ending.toleration_key]
    exact h.1

theorem value_ne_empty (r : Reading) : r.toleration.value ≠ some "" := by
  cases r with
  | paired key value e o => exact Text.nonEmpty?_ne_empty value
  | valued key value ending =>
    rw [toleration, Ending.toleration_value]
    exact Text.nonEmpty?_ne_empty value
  | bare key ending =>
    rw [toleration, Ending.toleration_value]
    nofun

theorem seconds_nonneg (h : r.WellFormed) {x : Int64} (hx : r.toleration.seconds = some x) :
    0 ≤ x := by
  cases r with
  | paired key value e o => cases hx
  | valued key value ending => exact Ending.seconds_nonneg h.2.2.2.2 hx
  | bare key ending => exact Ending.seconds_nonneg h.2.2 hx

/-- Without an operator there is a value exactly if one was written before the empty operator. -/
theorem leavesOperatorEmpty_iff (ho : r.toleration.operator = none) :
    r.LeavesOperatorEmpty ↔ r.toleration.value ≠ none := by
  cases r with
  | paired key value e o =>
    have hnone : o = none := ho
    simp [LeavesOperatorEmpty, toleration, Text.nonEmpty?_ne_none_iff, hnone]
  | bare key ending => simp [LeavesOperatorEmpty, toleration, Ending.toleration_value]
  | valued key value ending =>
    cases ending with
    | none => cases ho
    | effect e => cases ho
    | operator e o =>
      have hnone : o = none := ho
      simp [LeavesOperatorEmpty, toleration, Ending.toleration, Text.nonEmpty?_ne_none_iff, hnone]
    | seconds e o n =>
      have hnone : o = none := ho
      simp [LeavesOperatorEmpty, toleration, Ending.toleration, Text.nonEmpty?_ne_none_iff, hnone]

theorem value_ne_none_iff (h : r.toleration.Compatible) :
    r.toleration.value ≠ none ↔ r.toleration.operator = some .equal ∨
      (r.toleration.operator = none ∧ r.LeavesOperatorEmpty) := by
  obtain ⟨hequal, hexist⟩ := h
  match ho : r.toleration.operator with
  | none => simp [leavesOperatorEmpty_iff ho]
  | some .equal => simp [hequal ho]
  | some .exist => simp [hexist ho]

/-- **The parts of every notation go together.** -/
theorem sound (h : r.WellFormed) (hcompatible : r.toleration.Compatible) :
    Sound r.text r.toleration where
  key := notMem_key h
  value := value_ne_empty r
  seconds _ hx := seconds_nonneg h hx
  operator := by
    -- a text that is written with an empty operator has no reading with another one
    have hempty : HasEmptyOperator r.text ↔ r.LeavesOperatorEmpty := by
      constructor
      · rintro ⟨r', hr', htext, hleaves⟩
        exact text_injective hr' h htext ▸ hleaves
      · exact fun hleaves => ⟨r, h, rfl, hleaves⟩
    rw [hempty]
    exact value_ne_none_iff hcompatible

end Reading

/-! ### What is accepted -/

/-- **The parts of an accepted toleration go together**, in all notations: the key has no equals
sign, a value is not empty, it is there exactly if the operator is `Equal` or was left empty after
a value, and the seconds are not negative. -/
theorem sound_of_parse {s : String} {t : Toleration} (h : parse s = .ok t) : Sound s t := by
  unfold parse at h
  obtain ⟨u, hu, hcheck⟩ := bind_eq_ok_iff.1 h
  obtain ⟨hcompatible, rfl⟩ := checkOperator_eq_ok_iff.1 hcheck
  obtain ⟨r, rfl, hr, rfl⟩ := parseParts_eq_ok_iff.1 hu
  exact Reading.sound hr hcompatible

/-- The seconds show that the operator before them is empty. -/
theorem sound_of_parse_empty_operator :
    parse "disk=ssd:NoExecute::30" = .ok ⟨"disk", some "ssd", some .noExecute, none, some 30⟩ ∧
      Sound "disk=ssd:NoExecute::30" ⟨"disk", some "ssd", some .noExecute, none, some 30⟩ := by
  have h : parse "disk=ssd:NoExecute::30" =
      .ok ⟨"disk", some "ssd", some .noExecute, none, some 30⟩ := by decide +kernel
  exact ⟨h, sound_of_parse h⟩

/-- A value without the operator `Equal`. -/
theorem parse_value_without_equal :
    ∃ t, parse "k=v:NoSchedule:" = .ok t ∧ ¬(t.value ≠ none ↔ t.operator = some .equal) :=
  ⟨⟨"k", some "v", some .noSchedule, none, none⟩, by decide +kernel, by decide⟩

end Toleration

end WrappedTraining
