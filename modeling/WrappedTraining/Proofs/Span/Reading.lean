import WrappedTraining.Proofs.Span.Bounded
import WrappedTraining.Proofs.Span.Notation

/-!
# How spans are read

Reading a span adds up the terms of its notation.

* `Span.sumTerms_eq` : terms are added as long as their sum stays below 128 bits, and
  `Span.exists_terms_of_sumTerms` : nothing but terms is added;
* `Span.magnitude_eq`, `Span.exists_of_magnitude` : a text without its sign is read if its sum fits
  into 64 bits, whatever bound was passed on the way to it;
* `Span.parse_eq_ok_iff_denotes` : which texts are read as a span, and as which.
-/

namespace WrappedTraining

namespace Span

variable {input s : String} {cs : List Char} {total : Nat}

/-- The largest number of nanoseconds of a span. -/
def maxNanos : Nat := 0x7FFFFFFFFFFFFFFF

/-! ### Sums -/

theorem sumTerms_of_value {start n : Nat} (hcs : cs ≠ [])
    (h : (firstTerm cs).1.value input = .ok n) : sumTerms input start cs =
      if totalBound ≤ start + n then .error (.overflow input)
      else sumTerms input (start + n) (firstTerm cs).2 := by
  rw [sumTerms, if_neg hcs]
  split
  · rename_i e he
    cases h.symm.trans he
  · rename_i m hm
    rw [Except.ok.inj (h.symm.trans hm)]

/-- **Terms are added**, or their sum is found to be too large. -/
theorem sumTerms_eq (h : Terms cs total) (input : String) {start : Nat}
    (hstart : start < totalBound) : sumTerms input start cs =
      if start + total < totalBound then .ok (start + total) else .error (.overflow input) := by
  induction h generalizing start with
  | nil => rw [sumTerms, if_pos rfl, Nat.add_zero, if_pos hstart]
  | @cons t scale head rest total hhead htail ih =>
    have hne : head ++ rest ≠ [] := fun hnil => hhead.ne_nil (List.append_eq_nil_iff.1 hnil).1
    have hfirst := firstTerm_append hhead htail.stops
    have hvalue : (firstTerm (head ++ rest)).1.value input = .ok (t.amount scale) := by
      rw [hfirst, hhead.value]
    rw [sumTerms_of_value hne hvalue, hfirst]
    -- a sum that is too large already stays so with the terms to come
    by_cases hfits : start + t.amount scale < totalBound
    · rw [if_neg (Nat.not_le.2 hfits), ih hfits, Nat.add_assoc]
    · have htotal : ¬start + (t.amount scale + total) < totalBound := by omega
      rw [if_pos (Nat.not_lt.1 hfits), if_neg htotal]

theorem exists_terms_of_sumTerms {start n : Nat} (h : sumTerms input start cs = .ok n) :
    ∃ total, Terms cs total ∧ n = start + total := by
  fun_induction sumTerms input start cs with
  | case1 start => exact ⟨0, .nil, (Except.ok.inj h).symm⟩
  | case2 start cs hcs e he => cases h
  | case3 start cs hcs m hm hbound => cases h
  | case4 start cs hcs m hm hbound ih =>
    obtain ⟨head, scale, hspells, htext, rfl⟩ := exists_spells_of_value hm
    obtain ⟨total, htotal, rfl⟩ := ih h
    have hterms := Terms.cons hspells htotal
    rw [← htext] at hterms
    exact ⟨_, hterms, Nat.add_assoc _ _ _⟩

/-! ### Texts without a sign -/

/-- A zero has no unit, so it is not a term. -/
theorem not_terms_zero : ¬Terms ['0'] total := by
  intro h
  have hsum := sumTerms_eq h "" (by decide : 0 < totalBound)
  have hfault : sumTerms "" 0 ['0'] = .error (.missingUnit "") := by
    rw [sumTerms, if_neg (List.cons_ne_nil _ _)]
    rfl
  rw [hfault] at hsum
  split at hsum <;> cases hsum

theorem Unsigned.unique {total' : Nat} (h : Unsigned cs total) (h' : Unsigned cs total') :
    total = total' := by
  rcases h with ⟨rfl, rfl⟩ | ⟨-, hterms⟩
  · rcases h' with ⟨-, rfl⟩ | ⟨-, hterms'⟩
    · rfl
    · exact absurd hterms' not_terms_zero
  · rcases h' with ⟨rfl, -⟩ | ⟨-, hterms'⟩
    · exact absurd hterms not_terms_zero
    · exact hterms.unique hterms'

/-- **A sum is read if it fits into 64 bits.** No bound on the way to it is in its way. -/
theorem magnitude_eq (h : Unsigned cs total) (input : String) : magnitude input cs =
    if total ≤ maxNanos then .ok total else .error (.overflow input) := by
  rcases h with ⟨rfl, rfl⟩ | ⟨hne, hterms⟩
  · rfl
  · have hzero : cs ≠ ['0'] := by
      rintro rfl
      exact not_terms_zero hterms
    have hsum := sumTerms_eq hterms input (by decide : 0 < totalBound)
    rw [Nat.zero_add] at hsum
    rw [magnitude, if_neg hzero, if_neg hne, hsum]
    -- a sum beyond 128 bits is beyond 64 bits, so the earlier error is the same one
    by_cases hfits : total < totalBound
    · rw [if_pos hfits]
      rfl
    · have hmax : ¬total ≤ maxNanos := by
        have : maxNanos < totalBound := by decide
        omega
      rw [if_neg hfits, if_neg hmax]

theorem exists_of_magnitude {n : Nat} (h : magnitude input cs = .ok n) :
    Unsigned cs n ∧ n ≤ maxNanos := by
  unfold magnitude at h
  split at h
  · rename_i hzero
    cases h
    exact ⟨.inl ⟨hzero, rfl⟩, by decide⟩
  · split at h
    · cases h
    · rename_i hne
      split at h
      · cases h
      · rename_i m hm
        split at h
        · rename_i hmax
          cases h
          obtain ⟨total, hterms, rfl⟩ := exists_terms_of_sumTerms hm
          rw [Nat.zero_add] at hmax ⊢
          exact ⟨.inr ⟨hne, hterms⟩, hmax⟩
        · cases h

theorem magnitude_eq_ok_iff : magnitude input cs = .ok total ↔
    Unsigned cs total ∧ total ≤ maxNanos := by
  refine ⟨exists_of_magnitude, ?_⟩
  rintro ⟨h, hmax⟩
  rw [magnitude_eq h, if_pos hmax]

/-! ### Signs -/

theorem Unsigned.cutSign (h : Unsigned cs total) : cutSign cs = (1, cs) := by
  -- a text without a sign starts with a digit or a point
  have hstart : ∀ c ∈ cs.head?, endsUnit c = true := by
    rcases h with ⟨rfl, -⟩ | ⟨-, hterms⟩
    · rintro c ⟨⟩
      rfl
    · simpa [Stops] using hterms.stops
  unfold Span.cutSign
  split
  · exact absurd (hstart '-' rfl) (by decide)
  · exact absurd (hstart '+' rfl) (by decide)
  · rfl

theorem denotes_iff {sign : Int} : Denotes s sign total ↔
    (cutSign s.toList).1 = sign ∧ Unsigned (cutSign s.toList).2 total := by
  constructor
  · rintro ⟨front, cs, hfront, htext, h⟩
    have hcut : cutSign s.toList = (sign, cs) := by
      simp only [signs, List.mem_cons, Prod.mk.injEq, List.not_mem_nil, or_false] at hfront
      rcases hfront with ⟨rfl, rfl⟩ | ⟨rfl, rfl⟩ | ⟨rfl, rfl⟩
      · rw [htext]
        exact h.cutSign
      · rw [htext]
        rfl
      · rw [htext]
        rfl
    rw [hcut]
    exact ⟨rfl, h⟩
  · rintro ⟨rfl, h⟩
    have hcut : ∃ front, (front, (cutSign s.toList).1) ∈ signs ∧
        s.toList = front ++ (cutSign s.toList).2 := by
      unfold cutSign
      split
      · exact ⟨['-'], by simp [signs], ‹_›⟩
      · exact ⟨['+'], by simp [signs], ‹_›⟩
      · exact ⟨[], by simp [signs], rfl⟩
    obtain ⟨front, hfront, htext⟩ := hcut
    exact ⟨front, _, hfront, htext, h⟩

/-- **What is accepted as a span.** A text is accepted exactly if it is written in the notation and
its sum fits into 64 bits, and the span is that sum with the sign; a sum that does not fit is out of
range. The sum of a text is the only one, and to find it on numbers of 128 bits no operation without
a check leaves its bounds. -/
theorem parse_eq_ok_iff_denotes (s : String) :
    (∀ d, parse s = .ok d ↔ ∃ sign total, Denotes s sign total ∧ total ≤ maxNanos ∧
      d = ⟨sign * total⟩) ∧
    (∀ sign total, Denotes s sign total → maxNanos < total → parse s = .error (.overflow s)) ∧
    (∀ sign sign' total total', Denotes s sign total → Denotes s sign' total' →
      sign = sign' ∧ total = total') ∧
    Bounded.parse s = Bounded.ended (parse s) := by
  refine ⟨fun d => ?_, fun sign total h hmax => ?_, fun sign sign' total total' h h' => ?_,
    Bounded.parse_eq s⟩
  · rw [parse_eq]
    constructor
    · intro h
      cases hn : magnitude s (cutSign s.toList).2 with
      | error e => rw [hn] at h; cases h
      | ok n =>
        rw [hn] at h
        obtain ⟨hunsigned, hmax⟩ := magnitude_eq_ok_iff.1 hn
        exact ⟨_, n, denotes_iff.2 ⟨rfl, hunsigned⟩, hmax, (Except.ok.inj h).symm⟩
    · rintro ⟨sign, total, h, hmax, rfl⟩
      obtain ⟨rfl, hunsigned⟩ := denotes_iff.1 h
      rw [magnitude_eq_ok_iff.2 ⟨hunsigned, hmax⟩]
      rfl
  · rw [parse_eq, magnitude_eq (denotes_iff.1 h).2, if_neg (Nat.not_le.2 hmax)]
    rfl
  · obtain ⟨rfl, hunsigned⟩ := denotes_iff.1 h
    obtain ⟨rfl, hunsigned'⟩ := denotes_iff.1 h'
    exact ⟨rfl, hunsigned.unique hunsigned'⟩

/-- Terms need no digits on one side of their point, and nothing stands between them. -/
example : parse "-1.h.25s" = .ok ⟨-3600250000000⟩ := by decide +kernel

end Span

end WrappedTraining
