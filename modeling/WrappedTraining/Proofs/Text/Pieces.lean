import WrappedTraining.Text.Cut

/-!
# Pieces of a written text

Text that is put together from parts without the separator comes apart into the same parts.

* `Text.pieces_of_notMem` : a text without the separator is its only piece;
* `Text.pieces_append` : what stands before the first separator is the first piece;
* `Text.pieces_joined`, `Text.pieces_joined_cons` : joined parts come apart into the parts;
* `Text.pieces_injective` : a text is determined by its pieces.
-/

namespace WrappedTraining

namespace Text

/-! ### Pieces -/

theorem pieceList_of_notMem {sep : Char} {cs : List Char} (h : sep ∉ cs) :
    pieceList sep cs = [cs] := by
  induction cs with
  | nil => rfl
  | cons c cs ih =>
    obtain ⟨hc, hcs⟩ := not_or.1 (mt List.mem_cons.2 h)
    rw [pieceList, if_neg (Ne.symm hc), ih hcs]

theorem pieceList_append {sep : Char} {as : List Char} (h : sep ∉ as) (bs : List Char) :
    pieceList sep (as ++ sep :: bs) = as :: pieceList sep bs := by
  induction as with
  | nil => rw [List.nil_append, pieceList, if_pos rfl]
  | cons a as ih =>
    obtain ⟨ha, has⟩ := not_or.1 (mt List.mem_cons.2 h)
    rw [List.cons_append, pieceList, if_neg (Ne.symm ha), ih has]

theorem pieceList_cut (sep : Char) (as bs : List Char) :
    pieceList sep (as ++ sep :: bs) = pieceList sep as ++ pieceList sep bs := by
  induction as with
  | nil => simp [pieceList]
  | cons a as ih =>
    rw [List.cons_append, pieceList, pieceList, ih]
    split
    · rfl
    · cases h : pieceList sep as with
      | nil => exact absurd h (pieceList_ne_nil sep as)
      | cons p ps => rfl

theorem length_pieceList (sep : Char) (cs : List Char) :
    (pieceList sep cs).length = cs.count sep + 1 := by
  induction cs with
  | nil => rfl
  | cons c cs ih =>
    rw [pieceList]
    split
    · rename_i hc
      rw [List.length_cons, ih, hc, List.count_cons_self]
    · rename_i hc
      rw [List.count_cons_of_ne hc, ← ih]
      cases h : pieceList sep cs with
      | nil => exact absurd h (pieceList_ne_nil sep cs)
      | cons p ps => rfl

theorem notMem_of_mem_pieceList {sep : Char} {cs p : List Char} (h : p ∈ pieceList sep cs) :
    sep ∉ p := by
  induction cs generalizing p with
  | nil =>
    rw [List.mem_singleton.1 h]
    exact List.not_mem_nil
  | cons c cs ih =>
    rw [pieceList] at h
    split at h
    · rcases List.mem_cons.1 h with rfl | h
      · exact List.not_mem_nil
      · exact ih h
    · rename_i hc
      cases hps : pieceList sep cs with
      | nil => exact absurd hps (pieceList_ne_nil sep cs)
      | cons q qs =>
        rw [hps] at h ih
        rcases List.mem_cons.1 h with rfl | h
        · exact not_or.2 ⟨Ne.symm hc, ih List.mem_cons_self⟩ ∘ List.mem_cons.1
        · exact ih (List.mem_cons_of_mem _ h)

theorem pieceList_joinList {sep : Char} {ps : List (List Char)} (hne : ps ≠ [])
    (h : ∀ p ∈ ps, sep ∉ p) : pieceList sep (joinList sep ps) = ps := by
  induction ps with
  | nil => exact absurd rfl hne
  | cons p ps ih =>
    obtain ⟨hp, hps⟩ := List.forall_mem_cons.1 h
    cases ps with
    | nil => exact pieceList_of_notMem hp
    | cons q qs => rw [joinList, pieceList_append hp, ih (List.cons_ne_nil q qs) hps]

theorem pieces_of_notMem {sep : Char} {s : String} (h : sep ∉ s.toList) : pieces sep s = [s] := by
  rw [pieces, pieceList_of_notMem h, List.map_singleton, String.ofList_toList]

theorem pieces_append {sep : Char} {a : String} (h : sep ∉ a.toList) (b : String) :
    pieces sep (a ++ sep.toString ++ b) = a :: pieces sep b := by
  have htoList : (a ++ sep.toString ++ b).toList = a.toList ++ sep :: b.toList := by simp
  rw [pieces, htoList, pieceList_append h, List.map_cons, String.ofList_toList]
  rfl

/-- What stands between separators has none. -/
theorem notMem_of_mem_pieces {sep : Char} {s p : String} (h : p ∈ pieces sep s) :
    sep ∉ p.toList := by
  obtain ⟨cs, hcs, rfl⟩ := List.mem_map.1 h
  rw [String.toList_ofList]
  exact notMem_of_mem_pieceList hcs

theorem pieces_ne_nil (sep : Char) (s : String) : pieces sep s ≠ [] :=
  mt List.map_eq_nil_iff.1 (pieceList_ne_nil sep s.toList)

theorem length_pieces (sep : Char) (s : String) :
    (pieces sep s).length = s.toList.count sep + 1 := by
  rw [pieces, List.length_map, length_pieceList]

theorem pieces_injective {sep : Char} {a b : String} (h : pieces sep a = pieces sep b) : a = b := by
  rw [← joined_pieces sep a, h, joined_pieces]

theorem pieces_joined {sep : Char} {ps : List String} (hne : ps ≠ [])
    (h : ∀ p ∈ ps, sep ∉ p.toList) : pieces sep (joined sep ps) = ps := by
  have hlists : ∀ p ∈ ps.map String.toList, sep ∉ p := by
    intro p hp
    obtain ⟨q, hq, rfl⟩ := List.mem_map.1 hp
    exact h q hq
  rw [pieces, joined, String.toList_ofList,
    pieceList_joinList (mt List.map_eq_nil_iff.1 hne) hlists, List.map_map]
  simp [Function.comp_def]

theorem joined_cons_cons (sep : Char) (a b : String) (ps : List String) :
    (joined sep (a :: b :: ps)).toList = a.toList ++ sep :: (joined sep (b :: ps)).toList := by
  simp [joined, joinList]

/-- Joined parts have the characters of the parts and the separator. -/
theorem notMem_joined_iff {sep c : Char} (h : c ≠ sep) {ps : List String} :
    c ∉ (joined sep ps).toList ↔ ∀ p ∈ ps, c ∉ p.toList := by
  induction ps with
  | nil => simp [joined, joinList]
  | cons p ps ih =>
    cases ps with
    | nil => simp [joined, joinList]
    | cons q qs =>
      rw [joined_cons_cons, List.mem_append, List.mem_cons, List.forall_mem_cons, ← ih]
      simp only [h, false_or, not_or]

/-- Pieces with a text in front come apart into the pieces of the text and themselves. -/
theorem pieces_joined_cons {sep : Char} (a : String) {ps : List String}
    (h : ∀ p ∈ ps, sep ∉ p.toList) : pieces sep (joined sep (a :: ps)) = pieces sep a ++ ps := by
  cases ps with
  | nil => simp [joined, joinList]
  | cons p ps =>
    have hps : pieces sep (joined sep (p :: ps)) = p :: ps := pieces_joined (List.cons_ne_nil _ _) h
    rw [pieces, joined_cons_cons, pieceList_cut, List.map_append]
    exact congrArg (pieces sep a ++ ·) hps

/-! ### The first separator -/

theorem cut?_append {sep : Char} {a : String} (h : sep ∉ a.toList) (b : String) :
    cut? sep (a ++ sep.toString ++ b) = some (a, b) :=
  cut?_eq_some_iff.2 ⟨by simp, h⟩

/-- A text that is cut is put together from the two parts. -/
theorem eq_of_cut? {sep : Char} {s a b : String} (h : cut? sep s = some (a, b)) :
    s = a ++ sep.toString ++ b ∧ sep ∉ a.toList := by
  obtain ⟨hs, ha⟩ := cut?_eq_some_iff.1 h
  refine ⟨String.toList_inj.1 ?_, ha⟩
  rw [hs]
  simp

end Text

end WrappedTraining
