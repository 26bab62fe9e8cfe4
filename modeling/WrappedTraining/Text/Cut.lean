/-!
# Cutting text at separators

Every small notation of a submission (`key=value`, `host:container`, `a:b:c`) is read by cutting
text at a single character.

* `cut?` splits at the first separator, and nothing is lost (`cut?_eq_some_iff`);
* `pieces` splits at every separator and is never empty; `joined` puts the pieces back
  (`joined_pieces`);
* `trim` drops characters of a class from both ends.
-/

namespace WrappedTraining.Text

/-! ### The first separator -/

/-- The characters before and after the first `sep`, if there is one. -/
def cutList? (sep : Char) : List Char → Option (List Char × List Char)
  | [] => none
  | c :: cs =>
    if c = sep then some ([], cs)
    else (cutList? sep cs).map fun p => (c :: p.1, p.2)

theorem cutList?_eq_some_iff {sep : Char} {cs a b : List Char} :
    cutList? sep cs = some (a, b) ↔ cs = a ++ sep :: b ∧ sep ∉ a := by
  induction cs generalizing a b with
  | nil => simp [cutList?]
  | cons c cs ih =>
    by_cases hc : c = sep
    · subst hc
      cases a with
      | nil => simp [cutList?]
      | cons x xs =>
        simp only [cutList?, if_true, Option.some.injEq, Prod.mk.injEq, List.cons_append,
          List.cons.injEq, List.mem_cons, not_or]
        grind
    · cases a with
      | nil =>
        simp only [cutList?, if_neg hc, Option.map_eq_some_iff, List.nil_append, List.cons.injEq]
        grind
      | cons x xs =>
        simp only [cutList?, if_neg hc, Option.map_eq_some_iff, Prod.mk.injEq, List.cons.injEq,
          List.cons_append, List.mem_cons, not_or]
        constructor
        · rintro ⟨⟨p, q⟩, hp, ⟨rfl, rfl⟩, rfl⟩
          obtain ⟨rfl, hn⟩ := ih.1 hp
          exact ⟨⟨rfl, rfl⟩, fun h => hc h.symm, hn⟩
        · rintro ⟨⟨rfl, rfl⟩, _, hn⟩
          exact ⟨(xs, b), ih.2 ⟨rfl, hn⟩, ⟨rfl, rfl⟩, rfl⟩

theorem cutList?_eq_none_iff {sep : Char} {cs : List Char} :
    cutList? sep cs = none ↔ sep ∉ cs := by
  induction cs with
  | nil => simp [cutList?]
  | cons c cs ih =>
    by_cases hc : c = sep
    · simp [cutList?, hc]
    · simp [cutList?, hc, ih, Ne.symm hc]

/-- The text before and after the first `sep`, if there is one. -/
def cut? (sep : Char) (s : String) : Option (String × String) :=
  (cutList? sep s.toList).map fun p => (String.ofList p.1, String.ofList p.2)

theorem cut?_eq_some_iff {sep : Char} {s a b : String} :
    cut? sep s = some (a, b) ↔ s.toList = a.toList ++ sep :: b.toList ∧ sep ∉ a.toList := by
  simp only [cut?, Option.map_eq_some_iff, Prod.mk.injEq, Prod.exists]
  constructor
  · rintro ⟨x, y, h, rfl, rfl⟩
    simpa using cutList?_eq_some_iff.1 h
  · intro h
    exact ⟨a.toList, b.toList, cutList?_eq_some_iff.2 h, String.ofList_toList, String.ofList_toList⟩

theorem cut?_eq_none_iff {sep : Char} {s : String} : cut? sep s = none ↔ sep ∉ s.toList := by
  simp [cut?, cutList?_eq_none_iff]

/-! ### Every separator -/

/-- The runs of characters between separators; one more run than separators. -/
def pieceList (sep : Char) : List Char → List (List Char)
  | [] => [[]]
  | c :: cs =>
    if c = sep then [] :: pieceList sep cs
    else match pieceList sep cs with
      | [] => [[c]]
      | p :: ps => (c :: p) :: ps

/-- Runs of characters with a separator between neighbours. -/
def joinList (sep : Char) : List (List Char) → List Char
  | [] => []
  | [p] => p
  | p :: q :: ps => p ++ sep :: joinList sep (q :: ps)

theorem pieceList_ne_nil (sep : Char) (cs : List Char) : pieceList sep cs ≠ [] := by
  cases cs with
  | nil => simp [pieceList]
  | cons c cs =>
    simp only [pieceList]
    split
    · simp
    · split <;> simp

theorem joinList_pieceList (sep : Char) (cs : List Char) :
    joinList sep (pieceList sep cs) = cs := by
  induction cs with
  | nil => rfl
  | cons c cs ih =>
    simp only [pieceList]
    split
    · next hc =>
      subst hc
      cases h : pieceList c cs with
      | nil => exact absurd h (pieceList_ne_nil c cs)
      | cons p ps => simp [joinList, ← h, ih]
    · cases h : pieceList sep cs with
      | nil => exact absurd h (pieceList_ne_nil sep cs)
      | cons p ps =>
        rw [h] at ih
        cases ps with
        | nil => simpa [joinList] using ih
        | cons q qs => simpa [joinList] using ih

/-- The pieces of a text between separators; one more piece than separators. -/
def pieces (sep : Char) (s : String) : List String :=
  (pieceList sep s.toList).map String.ofList

/-- The texts with a separator between neighbours. -/
def joined (sep : Char) (parts : List String) : String :=
  String.ofList (joinList sep (parts.map String.toList))

theorem joined_pieces (sep : Char) (s : String) : joined sep (pieces sep s) = s := by
  simp [joined, pieces, Function.comp_def, joinList_pieceList]

/-- A piece, unless it is empty and so counts as absent. -/
def nonEmpty? (s : String) : Option String := if s = "" then none else some s

/-! ### Both ends -/

/-- The text without the characters of the class `p` at its end. -/
def trimEnd (p : Char → Bool) (s : String) : String :=
  String.ofList (s.toList.reverse.dropWhile p).reverse

/-- The text without the characters of the class `p` at its start. -/
def trimStart (p : Char → Bool) (s : String) : String :=
  String.ofList (s.toList.dropWhile p)

/-- The text without the characters of the class `p` at either end. -/
def trim (p : Char → Bool) (s : String) : String :=
  trimEnd p (trimStart p s)

end WrappedTraining.Text
