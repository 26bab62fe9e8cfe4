import WrappedTraining.Proofs.Quantity.Pattern
import WrappedTraining.Submission.Check

/-!
# The amounts of a submission

A submission says how much of CPU, memory and shared memory it wants, and the checks make sure that
these texts are quantities. A quantity is read without the white space around it, but the submission
keeps the text as it is.

* `Submission.fault?_eq_none_iff_amounts` : amounts are checked one by one, apart from the rest;
* `Submission.fault?_mapAmounts_surround` : white space around the amounts makes no difference to
  the checks;
* `Submission.amounts_of_fault?` : which amounts match the pattern of quantities once they are
  checked.
-/

namespace WrappedTraining.Submission

/-- The amounts that a submission wants; those that are empty are left out. -/
def amounts (s : Submission) : List String := [s.cpu, s.memory, s.policy.shareMemory]

/-- The submission with its amounts changed. -/
def mapAmounts (f : String → String) (s : Submission) : Submission :=
  { s with
    cpu := f s.cpu
    memory := f s.memory
    policy := { s.policy with shareMemory := f s.policy.shareMemory } }

/-- The text between others, unless it is left out. -/
def surround (front back v : String) : String := if v = "" then "" else front ++ v ++ back

variable {s : Submission} {front back v : String}

/-! ### Checks of amounts -/

theorem quantityFault?_eq_none_iff {option : String} :
    quantityFault? option v = none ↔ v = "" ∨ Quantity.isValid v := by
  unfold quantityFault?
  rw [ite_eq_left_iff]
  exact not_imp_comm.trans (by simp)

/-- **Amounts are checked on their own**: no other check looks at them. -/
theorem fault?_eq_none_iff_amounts : s.fault? = none ↔
    (∀ v ∈ s.amounts, v = "" ∨ Quantity.isValid v) ∧
      ∀ c ∈ s.checks.take 3 ++ s.checks.drop 6, c = none := by
  -- three checks stand before those of the amounts
  have hchecks : s.checks = s.checks.take 3 ++
      (quantityFault? "cpu" s.cpu :: quantityFault? "memory" s.memory ::
        quantityFault? "share-memory" s.policy.shareMemory :: s.checks.drop 6) := rfl
  unfold fault?
  rw [List.findSome?_eq_none_iff, hchecks]
  simp only [List.forall_mem_append, List.forall_mem_cons, id, quantityFault?_eq_none_iff, amounts]
  constructor
  · rintro ⟨hbefore, hcpu, hmemory, hshare, hafter⟩
    exact ⟨⟨hcpu, hmemory, hshare, List.forall_mem_nil _⟩, hbefore, hafter⟩
  · rintro ⟨⟨hcpu, hmemory, hshare, -⟩, hbefore, hafter⟩
    exact ⟨hbefore, hcpu, hmemory, hshare, hafter⟩

/-- **White space around the amounts makes no difference** to the checks. -/
theorem fault?_mapAmounts_surround (hfront : ∀ c ∈ front.toList, Text.isBlank c)
    (hback : ∀ c ∈ back.toList, Text.isBlank c) (h : s.fault? = none) :
    (s.mapAmounts (surround front back)).fault? = none := by
  obtain ⟨hamounts, hothers⟩ := fault?_eq_none_iff_amounts.1 h
  have hmap : (s.mapAmounts (surround front back)).amounts =
      s.amounts.map (surround front back) := rfl
  refine fault?_eq_none_iff_amounts.2 ⟨?_, hothers⟩
  rw [hmap, List.forall_mem_map]
  intro v hv
  unfold surround
  split
  · exact .inl rfl
  · next hne =>
    have hvalid := (hamounts v hv).resolve_left hne
    exact .inr ((Quantity.isValid_congr (Text.trim_surround hfront hback v)).2 hvalid)

/-- **Which amounts match the pattern of quantities.** The error for an amount that is no quantity
shows the pattern. When the checks find no fault, every amount that is given is read as a quantity
whose own text matches, which is the amount without the white space around it; so the amount as it
is kept matches exactly if there is none. The checks find no fault with any white space around the
amounts either. -/
theorem amounts_of_fault? (h : s.fault? = none) :
    (∀ e : Quantity.Error, e.message =
      "quantities must match the regular expression '" ++ Quantity.pattern.wholeText ++ "': " ++
        Text.quoted e.input) ∧
    (∀ v ∈ s.amounts, v ≠ "" → ∃ q, Quantity.parse v = .ok q ∧
      Quantity.pattern.Matches q.raw.toList ∧ Text.IsTrimmed Text.isBlank v q.raw ∧
      (Quantity.pattern.Matches v.toList ↔ q.raw = v)) ∧
    ∀ front back : String, (∀ c ∈ front.toList, Text.isBlank c) →
      (∀ c ∈ back.toList, Text.isBlank c) →
      (s.mapAmounts (surround front back)).fault? = none := by
  refine ⟨Quantity.message_eq, fun v hv hne => ?_, fun front back hfront hback =>
    fault?_mapAmounts_surround hfront hback h⟩
  have hvalid := ((fault?_eq_none_iff_amounts.1 h).1 v hv).resolve_left hne
  obtain ⟨q, hq⟩ := Quantity.isValid_iff.1 hvalid
  obtain ⟨hraw, -⟩ := Quantity.parse_eq_ok_iff_parts?.1 hq
  refine ⟨q, hq, Quantity.matches_raw hq, Text.trim_eq_iff.1 hraw.symm, ?_⟩
  rw [Quantity.matches_iff hq, hraw]

/-- A submission that is filled but for its amounts. -/
def wanting (cpu memory shareMemory : String) : Submission :=
  { initial with
    cpu := cpu
    memory := memory
    job := { JobSpec.initial with name := "demo", image := "x" }
    policy := { initial.policy with shareMemory := shareMemory } }

/-- Two amounts with different units, and one that is left out. -/
theorem amounts_of_fault?_mixed :
    let s := wanting "-0.5e-3" "2Gi" ""
    s.fault? = none ∧ Quantity.pattern.Matches s.cpu.toList ∧
      (s.mapAmounts (surround "\t " "\u3000")).fault? = none := by
  intro s
  have hnone : s.fault? = none := by decide +kernel
  obtain ⟨-, hamounts, hblank⟩ := amounts_of_fault? hnone
  obtain ⟨q, -, -, htrimmed, hmatches⟩ := hamounts "-0.5e-3" List.mem_cons_self (by decide)
  have hraw : q.raw = "-0.5e-3" := htrimmed.trim_eq.symm.trans (by decide +kernel)
  have hfront : ∀ c ∈ "\t ".toList, Text.isBlank c := List.all_eq_true.1 (by decide)
  have hback : ∀ c ∈ "\u3000".toList, Text.isBlank c := List.all_eq_true.1 (by decide)
  exact ⟨hnone, hmatches.2 hraw, hblank _ _ hfront hback⟩

/-- White space before an amount passes the checks, and the amount does not match. -/
theorem amount_with_blank :
    (wanting " 1" "" "").fault? = none ∧ ¬Quantity.pattern.Matches " 1".toList := by
  decide +kernel

end WrappedTraining.Submission
