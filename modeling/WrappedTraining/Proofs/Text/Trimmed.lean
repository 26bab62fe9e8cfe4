import Mathlib.Data.List.DropRight
import WrappedTraining.Text.Blank

/-!
# Trimmed texts

Trimming a text removes characters of a class from both of its ends, as many as there are and
nothing else.

* `Text.IsTrimmed` : what is left of a text, said by what was removed;
* `Text.trim_eq_iff` : trimming leaves that;
* `Text.trim_trim` : a text that is trimmed is left as it is;
* `Text.trim_surround` : more of what is removed makes no difference;
* `Text.trimEnd_append`, `Text.exists_trimEnd` : what is removed from the end alone.
-/

namespace WrappedTraining

namespace Text

/-- `t` is the text `s` without the characters of the class `p` at its ends: only such characters
stand around it, and it neither starts nor ends with one. -/
structure IsTrimmed (p : Char → Bool) (s t : String) : Prop where
  around : ∃ front back, s.toList = front ++ t.toList ++ back ∧ (∀ c ∈ front, p c) ∧
    ∀ c ∈ back, p c
  start : ∀ c ∈ t.toList.head?, ¬p c
  ending : ∀ c ∈ t.toList.getLast?, ¬p c

variable {p : Char → Bool} {s t : String}

theorem toList_trim (p : Char → Bool) (s : String) :
    (trim p s).toList = (s.toList.dropWhile p).rdropWhile p := by
  simp [trim, trimEnd, trimStart, List.rdropWhile]

theorem isTrimmed_trim (p : Char → Bool) (s : String) : IsTrimmed p s (trim p s) where
  around := by
    refine ⟨s.toList.takeWhile p, (s.toList.dropWhile p).rtakeWhile p, ?_, ?_, ?_⟩
    · rw [toList_trim, List.append_assoc, List.rdropWhile_append_rtakeWhile,
        List.takeWhile_append_dropWhile]
    · exact fun c hc => List.mem_takeWhile_imp hc
    · exact fun c hc => List.mem_rtakeWhile_imp hc
  start := by
    intro c hc
    -- what is left after the end is trimmed starts as before
    obtain ⟨back, hback⟩ := List.rdropWhile_prefix p (l := s.toList.dropWhile p)
    have hhead : c ∈ (s.toList.dropWhile p).head? := by
      rw [toList_trim] at hc
      rw [← hback, List.head?_append, hc]
      rfl
    have hnot := List.head?_dropWhile_not p s.toList
    rw [hhead] at hnot
    simpa using hnot
  ending := by
    intro c hc
    rw [toList_trim] at hc
    obtain ⟨hne, rfl⟩ := List.mem_getLast?_eq_getLast hc
    exact List.rdropWhile_last_not p _ hne

/-- Characters of the class behind a text that does not end with one are removed. -/
theorem rdropWhile_append {cs back : List Char} (hcs : ∀ c ∈ cs.getLast?, ¬p c)
    (hback : ∀ c ∈ back, p c) : (cs ++ back).rdropWhile p = cs := by
  have hkeep : cs.rdropWhile p = cs :=
    List.rdropWhile_eq_self_iff.2 fun hne => hcs _ (List.getLast?_eq_some_getLast hne)
  rw [List.rdropWhile, List.reverse_append, List.dropWhile_append_of_pos (by simpa using hback)]
  exact hkeep

theorem IsTrimmed.trim_eq (h : IsTrimmed p s t) : trim p s = t := by
  obtain ⟨front, back, htext, hfront, hback⟩ := h.around
  refine String.toList_inj.1 ?_
  rw [toList_trim, htext, List.append_assoc, List.dropWhile_append_of_pos hfront]
  rcases hcs : t.toList with _ | ⟨c, cs⟩
  · rw [List.nil_append, List.dropWhile_eq_nil_iff.2 hback, List.rdropWhile_nil]
  · have hc : ¬p c := h.start c (by rw [hcs]; rfl)
    rw [List.cons_append, List.dropWhile_cons_of_neg hc, ← List.cons_append]
    exact rdropWhile_append (hcs ▸ h.ending) hback

/-- **Trimming removes what it should and nothing else.** -/
theorem trim_eq_iff : trim p s = t ↔ IsTrimmed p s t :=
  ⟨fun h => h ▸ isTrimmed_trim p s, IsTrimmed.trim_eq⟩

theorem trim_trim (p : Char → Bool) (s : String) : trim p (trim p s) = trim p s := by
  have h := isTrimmed_trim p s
  exact trim_eq_iff.2 ⟨⟨[], [], by simp, by simp, by simp⟩, h.start, h.ending⟩

/-- More characters of the class around a text are removed with those that are there. -/
theorem trim_surround {front back : String} (hfront : ∀ c ∈ front.toList, p c)
    (hback : ∀ c ∈ back.toList, p c) (s : String) : trim p (front ++ s ++ back) = trim p s := by
  obtain ⟨⟨as, bs, hs, has, hbs⟩, hstart, hending⟩ := isTrimmed_trim p s
  refine trim_eq_iff.2 ⟨⟨front.toList ++ as, bs ++ back.toList, ?_, ?_, ?_⟩, hstart, hending⟩
  · simp only [String.toList_append, hs, List.append_assoc]
  · exact List.forall_mem_append.2 ⟨hfront, has⟩
  · exact List.forall_mem_append.2 ⟨hbs, hback⟩

/-! ### The end alone -/

theorem trimEnd_append {back : String} (hs : ∀ c ∈ s.toList.getLast?, ¬p c)
    (hback : ∀ c ∈ back.toList, p c) : trimEnd p (s ++ back) = s := by
  have hdrop : (s.toList ++ back.toList).rdropWhile p = s.toList := rdropWhile_append hs hback
  rw [trimEnd, String.toList_append]
  exact (congrArg String.ofList hdrop).trans String.ofList_toList

/-- Nothing but characters of the class is missing at the end, and none is left there. -/
theorem exists_trimEnd (p : Char → Bool) (s : String) :
    (∀ c ∈ (trimEnd p s).toList.getLast?, ¬p c) ∧
      ∃ back, s = trimEnd p s ++ back ∧ ∀ c ∈ back.toList, p c := by
  have hleft : (trimEnd p s).toList = s.toList.rdropWhile p := String.toList_ofList
  refine ⟨fun c hc => ?_, String.ofList (s.toList.rtakeWhile p), String.toList_inj.1 ?_, ?_⟩
  · rw [hleft] at hc
    obtain ⟨hne, rfl⟩ := List.mem_getLast?_eq_getLast hc
    exact List.rdropWhile_last_not p _ hne
  · rw [String.toList_append, hleft, String.toList_ofList, List.rdropWhile_append_rtakeWhile]
  · rw [String.toList_ofList]
    exact fun c hc => List.mem_rtakeWhile_imp hc

end Text

end WrappedTraining
