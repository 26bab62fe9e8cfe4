import WrappedTraining.Proofs.Path
import WrappedTraining.Proofs.Text.Trimmed
import WrappedTraining.Submission.Build

/-!
# Names of repositories

A repository is checked out into a directory that has its name: what its address says after the last
slash, without `.git`. Slashes at the end of the address do not count.

* `Path.IsLastPiece` : the last piece of a text, said without cutting it, and
  `Path.isLastPiece_iff` : it is the one that is taken;
* `Submission.dropEnding_eq_iff` : one ending is removed and no more;
* `Submission.projectName?_of_address` : which addresses have a name, and what it is.
-/

namespace WrappedTraining

namespace Path

/-- **The last piece of a text**: it has no slash, and it is all of the text or stands behind a
slash of it, slashes at the end of the text aside. -/
structure IsLastPiece (source piece : String) : Prop where
  whole : '/' ∉ piece.toList
  place : ∃ body slashes : String, source = body ++ slashes ∧ (∀ c ∈ slashes.toList, c = '/') ∧
    body.toList.getLast? ≠ some '/' ∧ (body = piece ∨ ∃ front, body = front ++ "/" ++ piece)

variable {source piece : String}

theorem getLast?_pieces_slash (front : String) (h : '/' ∉ piece.toList) :
    (Text.pieces '/' (front ++ "/" ++ piece)).getLast? = some piece := by
  rw [pieces_slash, Text.pieces_of_notMem h, List.getLast?_concat]

theorem IsLastPiece.lastPiece_eq (h : IsLastPiece source piece) : lastPiece source = piece := by
  obtain ⟨body, slashes, rfl, hslashes, hbody, hplace⟩ := h.place
  have htrim : Text.trimEnd (· = '/') (body ++ slashes) = body := by
    refine Text.trimEnd_append (fun c hc hslash => ?_) (by simpa using hslashes)
    obtain rfl : c = '/' := of_decide_eq_true hslash
    exact hbody hc
  have hlast : (Text.pieces '/' body).getLast? = some piece := by
    rcases hplace with rfl | ⟨front, rfl⟩
    · rw [Text.pieces_of_notMem h.whole]
      rfl
    · exact getLast?_pieces_slash front h.whole
  rw [lastPiece, htrim, hlast, Option.getD_some]

theorem exists_last_slash (cs : List Char) :
    ∃ piece, '/' ∉ piece ∧ (cs = piece ∨ ∃ front, cs = front ++ '/' :: piece) := by
  induction cs with
  | nil => exact ⟨[], List.not_mem_nil, .inl rfl⟩
  | cons c cs ih =>
    obtain ⟨piece, hpiece, rfl | ⟨front, rfl⟩⟩ := ih
    · by_cases hc : c = '/'
      · exact ⟨cs, hpiece, .inr ⟨[], by rw [hc, List.nil_append]⟩⟩
      · refine ⟨c :: cs, ?_, .inl rfl⟩
        rw [List.mem_cons, not_or]
        exact ⟨Ne.symm hc, hpiece⟩
    · exact ⟨piece, hpiece, .inr ⟨c :: front, rfl⟩⟩

/-- Every text has a last piece. -/
theorem exists_isLastPiece (source : String) : ∃ piece, IsLastPiece source piece := by
  obtain ⟨piece, hpiece, hplace⟩ :=
    exists_last_slash (Text.trimEnd (· = '/') source).toList
  obtain ⟨hbody, slashes, hsource, hslashes⟩ := Text.exists_trimEnd (· = '/') source
  refine ⟨String.ofList piece, by rwa [String.toList_ofList], _, slashes, hsource, ?_, ?_, ?_⟩
  · simpa using hslashes
  · intro hslash
    exact hbody '/' hslash rfl
  · rcases hplace with h | ⟨front, h⟩
    · exact .inl (by rw [← h, String.ofList_toList])
    · refine .inr ⟨String.ofList front, String.toList_inj.1 ?_⟩
      rw [h]
      simp

/-- **The last piece is the one that is taken.** -/
theorem isLastPiece_iff : IsLastPiece source piece ↔ lastPiece source = piece := by
  refine ⟨IsLastPiece.lastPiece_eq, ?_⟩
  rintro rfl
  obtain ⟨piece, hpiece⟩ := exists_isLastPiece source
  rwa [hpiece.lastPiece_eq]

/-- Slashes at the end do not count. -/
theorem lastPiece_append {slashes : String} (h : ∀ c ∈ slashes.toList, c = '/')
    (source : String) : lastPiece (source ++ slashes) = lastPiece source := by
  obtain ⟨piece, hwhole, body, more, rfl, hmore, hbody⟩ := exists_isLastPiece source
  have hboth : ∀ c ∈ (more ++ slashes).toList, c = '/' := by
    rw [String.toList_append]
    exact List.forall_mem_append.2 ⟨hmore, h⟩
  have hlong : IsLastPiece (body ++ more ++ slashes) piece :=
    ⟨hwhole, body, more ++ slashes, String.append_assoc, hboth, hbody⟩
  have hshort : IsLastPiece (body ++ more) piece := ⟨hwhole, body, more, rfl, hmore, hbody⟩
  rw [hlong.lastPiece_eq, hshort.lastPiece_eq]

end Path

namespace Submission

variable {source name s t ending : String}

/-! ### Endings -/

/-- `t` is the text `s` without one ending, or `s` as it is if it ends otherwise. -/
def IsWithout (ending s t : String) : Prop :=
  s = t ++ ending ∨ s = t ∧ ¬ending.toList <:+ s.toList

theorem dropEnding_append (ending s : String) : dropEnding ending (s ++ ending) = s := by
  have hsuffix : ending.toList.isSuffixOf (s ++ ending).toList = true := by
    rw [String.toList_append, List.isSuffixOf_iff_suffix]
    exact List.suffix_append _ _
  rw [dropEnding, if_pos hsuffix, String.toList_append, List.length_append, Nat.add_sub_cancel,
    List.take_left, String.ofList_toList]

theorem dropEnding_of_not_suffix (h : ¬ending.toList <:+ s.toList) : dropEnding ending s = s :=
  if_neg (mt List.isSuffixOf_iff_suffix.1 h)

/-- **One ending is removed**, and nothing else. -/
theorem dropEnding_eq_iff : dropEnding ending s = t ↔ IsWithout ending s t := by
  constructor
  · rintro rfl
    by_cases hsuffix : ending.toList <:+ s.toList
    · obtain ⟨front, hfront⟩ := hsuffix
      obtain rfl : s = String.ofList front ++ ending := String.toList_inj.1 (by simp [hfront])
      exact .inl (by rw [dropEnding_append])
    · rw [dropEnding_of_not_suffix hsuffix]
      exact .inr ⟨rfl, hsuffix⟩
  · rintro (rfl | ⟨rfl, hsuffix⟩)
    · exact dropEnding_append ending t
    · exact dropEnding_of_not_suffix hsuffix

/-! ### Names -/

theorem projectName?_eq_some_iff : projectName? source = some name ↔
    name ≠ "" ∧ IsWithout ".git" (Path.lastPiece source) name := by
  rw [projectName?, Text.nonEmpty?, Option.ite_none_left_eq_some, Option.some.injEq,
    ← dropEnding_eq_iff]
  constructor
  · rintro ⟨hne, rfl⟩
    exact ⟨hne, rfl⟩
  · rintro ⟨hne, rfl⟩
    exact ⟨hne, rfl⟩

/-- Without a name there is nothing, or nothing but `.git`, behind the last slash. -/
theorem isWithout_empty_iff : IsWithout ".git" s "" ↔ s = "" ∨ s = ".git" := by
  rw [IsWithout, String.empty_append]
  constructor
  · rintro (h | ⟨h, -⟩)
    · exact .inr h
    · exact .inl h
  · rintro (rfl | h)
    · exact .inr ⟨rfl, by decide⟩
    · exact .inl h

theorem exists_projectName?_iff : (∃ name, projectName? source = some name) ↔
    Path.lastPiece source ≠ "" ∧ Path.lastPiece source ≠ ".git" := by
  rw [← not_or, ← isWithout_empty_iff, ← dropEnding_eq_iff]
  simp [projectName?, Text.nonEmpty?]

/-- **What a repository is called.** Its address has a name exactly if the last piece is neither
empty nor `.git` alone. The name is this piece without one `.git` at its end; it is not empty, and
has no slash. Slashes behind the address change nothing. -/
theorem projectName?_of_address (source : String) : ∃ piece, Path.IsLastPiece source piece ∧
    (∀ other, Path.IsLastPiece source other → other = piece) ∧
    ((∃ name, projectName? source = some name) ↔ piece ≠ "" ∧ piece ≠ ".git") ∧
    (∀ name, projectName? source = some name →
      name ≠ "" ∧ '/' ∉ name.toList ∧ IsWithout ".git" piece name) ∧
    (∀ slashes : String, (∀ c ∈ slashes.toList, c = '/') →
      projectName? (source ++ slashes) = projectName? source) ∧
    ∀ front repo : String, repo ≠ "" → '/' ∉ repo.toList →
      source = front ++ "/" ++ repo ++ ".git" → projectName? source = some repo := by
  have hpiece : Path.IsLastPiece source (Path.lastPiece source) := Path.isLastPiece_iff.2 rfl
  refine ⟨_, hpiece, fun other hother => hother.lastPiece_eq.symm, exists_projectName?_iff, ?_, ?_,
    ?_⟩
  · intro name hname
    obtain ⟨hne, hwithout⟩ := projectName?_eq_some_iff.1 hname
    refine ⟨hne, fun hslash => hpiece.whole ?_, hwithout⟩
    rcases hwithout with h | ⟨h, -⟩
    · rw [h, String.toList_append]
      exact List.mem_append_left _ hslash
    · rwa [h]
  · intro slashes hslashes
    rw [projectName?, Path.lastPiece_append hslashes, projectName?]
  · rintro front repo hne hwhole rfl
    have hlast : Path.IsLastPiece (front ++ "/" ++ repo ++ ".git") (repo ++ ".git") := by
      refine ⟨?_, _, "", String.append_empty.symm, by simp, ?_, .inr ⟨front, ?_⟩⟩
      · rw [String.toList_append, List.mem_append, not_or]
        exact ⟨hwhole, by decide⟩
      · have hend : ".git".toList.getLast? = some 't' := rfl
        rw [String.toList_append, List.getLast?_append, hend, Option.some_or]
        decide
      · exact String.append_assoc
    rw [projectName?_eq_some_iff, hlast.lastPiece_eq]
    exact ⟨hne, .inl rfl⟩

/-- Only one ending is removed, and a piece that is nothing but the ending has no name. -/
example : projectName? "host:group/tools.git.git//" = some "tools.git" ∧
    projectName? "host:group/.git/" = none := by decide +kernel

end Submission

end WrappedTraining
