import WrappedTraining.Path
import WrappedTraining.Proofs.Text.Pieces

/-!
# Directories above a path

What the components of a path are is said without cutting it at every slash: `Names` follows the
path from name to name.

* `Components` : the components of a path, and `components_iff` : they are those that are compared;
* `Contains` : a directory that is a path or lies above it, and `isBelow_iff`;
* `StopsShort` : the text of a directory ends within a name of the path, and
  `StopsShort.not_contains`.
-/

namespace WrappedTraining.Path

/-! ### Names along a path -/

/-- The name of a file or directory. -/
def IsName (n : List Char) : Prop := n ≠ [] ∧ n ≠ ['.'] ∧ '/' ∉ n

instance (n : List Char) : Decidable (IsName n) := inferInstanceAs (Decidable (_ ∧ _ ∧ _))

/-- Nothing follows, or a slash does. -/
def Stops (cs : List Char) : Prop := ∀ c ∈ cs.head?, c = '/'

/-- **The names along a path**, from a place where one can begin. Slashes between them count as
little as a `.` in place of a name. -/
inductive Names : List Char → List String → Prop where
  | nil : Names [] []
  | slash {cs : List Char} {ns : List String} : Names cs ns → Names ('/' :: cs) ns
  | here {cs : List Char} {ns : List String} : Stops cs → Names cs ns → Names ('.' :: cs) ns
  | name {n cs : List Char} {ns : List String} :
    IsName n → Stops cs → Names cs ns → Names (n ++ cs) (String.ofList n :: ns)

/-- **The components of a path**: its names, after the root if it is absolute, and after a `.` if it
starts with one. -/
inductive Components (p : String) : List String → Prop where
  | absolute {cs : List Char} {ns : List String} :
    p.toList = '/' :: cs → Names cs ns → Components p ("/" :: ns)
  | here {cs : List Char} {ns : List String} :
    p.toList = '.' :: cs → Stops cs → Names cs ns → Components p ("." :: ns)
  | relative {ns : List String} :
    p.toList.head? ≠ some '/' → (∀ cs, p.toList = '.' :: cs → ¬Stops cs) → Names p.toList ns →
    Components p ns

/-- **The directory contains the path**: its components are the first of those of the path. -/
def Contains (dir p : String) : Prop :=
  ∃ ms ns, Components dir ms ∧ Components p (ms ++ ns)

/-- The names in a text that is cut at its slashes. -/
def namesOf (cs : List Char) : List String := named ((Text.pieceList '/' cs).map String.ofList)

theorem pieceList_of_stops {as cs : List Char} (h : '/' ∉ as) (hcs : Stops cs) :
    ∃ ps, Text.pieceList '/' (as ++ cs) = as :: ps ∧ namesOf cs = named (ps.map String.ofList) := by
  cases cs with
  | nil => exact ⟨[], by rw [List.append_nil, Text.pieceList_of_notMem h], rfl⟩
  | cons c cs =>
    obtain rfl : c = '/' := hcs c rfl
    exact ⟨Text.pieceList '/' cs, Text.pieceList_append h cs, rfl⟩

theorem named_cons (n : String) (ns : List String) :
    named (n :: ns) = if n ≠ "" ∧ n ≠ "." then n :: named ns else named ns := by
  simp [named, List.filter_cons]

theorem namesOf_append {as cs : List Char} (h : '/' ∉ as) (hcs : Stops cs) :
    namesOf (as ++ cs) = named [String.ofList as] ++ namesOf cs := by
  obtain ⟨ps, hps, hnames⟩ := pieceList_of_stops h hcs
  rw [namesOf, hps, hnames, List.map_cons, named, named, named, ← List.filter_append]
  rfl

theorem named_singleton {n : List Char} (h : IsName n) :
    named [String.ofList n] = [String.ofList n] := by
  have hempty : String.ofList n ≠ "" := fun h' => h.1 (by simpa using congrArg String.toList h')
  have hdot : String.ofList n ≠ "." := fun h' => h.2.1 (by simpa using congrArg String.toList h')
  rw [named_cons, if_pos ⟨hempty, hdot⟩]
  rfl

theorem Names.namesOf_eq {cs : List Char} {ns : List String} (h : Names cs ns) :
    namesOf cs = ns := by
  induction h with
  | nil => rfl
  | slash _ ih => exact ih
  | here hstops _ ih =>
    have hdot : '/' ∉ ['.'] := by decide
    exact (namesOf_append hdot hstops).trans ih
  | name hn hstops _ ih => rw [namesOf_append hn.2.2 hstops, named_singleton hn, ih]; rfl

theorem exists_piece (cs : List Char) : ∃ as rest, cs = as ++ rest ∧ '/' ∉ as ∧ Stops rest := by
  induction cs with
  | nil => exact ⟨[], [], rfl, List.not_mem_nil, by simp [Stops]⟩
  | cons c cs ih =>
    by_cases hc : c = '/'
    · exact ⟨[], c :: cs, rfl, List.not_mem_nil, by simp [Stops, hc]⟩
    · obtain ⟨as, rest, rfl, has, hrest⟩ := ih
      refine ⟨c :: as, rest, rfl, fun h => ?_, hrest⟩
      rcases List.mem_cons.1 h with rfl | h
      · exact hc rfl
      · exact has h

/-- Every text has names along it: the induction takes one piece, or one slash, at a time. -/
theorem names_namesOf (cs : List Char) : Names cs (namesOf cs) := by
  obtain ⟨as, rest, hcs, has, hrest⟩ := exists_piece cs
  by_cases hempty : as = []
  · subst hempty
    obtain rfl : cs = rest := hcs
    cases cs with
    | nil => exact .nil
    | cons c cs =>
      obtain rfl : c = '/' := hrest c rfl
      exact .slash (names_namesOf cs)
  · have hlength : 0 < as.length := List.length_pos_iff.2 hempty
    have ih := names_namesOf rest
    rw [hcs, namesOf_append has hrest]
    by_cases hdot : as = ['.']
    · subst hdot
      exact .here hrest ih
    · have hname : IsName as := ⟨hempty, hdot, has⟩
      rw [named_singleton hname]
      exact .name hname hrest ih
termination_by cs.length
decreasing_by
  · simp
  · rw [hcs, List.length_append]
    omega

theorem names_iff {cs : List Char} {ns : List String} : Names cs ns ↔ namesOf cs = ns :=
  ⟨Names.namesOf_eq, fun h => h ▸ names_namesOf cs⟩

/-! ### Components -/

variable {p dir : String}

theorem named_pieces (p : String) : named (Text.pieces '/' p) = namesOf p.toList := rfl

theorem isAbsolute_iff : isAbsolute p = true ↔ ∃ cs, p.toList = '/' :: cs := by
  rw [isAbsolute, decide_eq_true_iff, List.head?_eq_some_iff]

theorem components_of_absolute {cs : List Char} (h : p.toList = '/' :: cs) :
    components p = "/" :: namesOf cs := by
  rw [components, if_pos (isAbsolute_iff.2 ⟨cs, h⟩), named_pieces, h]
  rfl

/-- A path that is not absolute has its first piece in front. -/
theorem components_of_relative (h : ¬isAbsolute p) {as rest : List Char}
    (hp : p.toList = as ++ rest) (has : '/' ∉ as) (hrest : Stops rest) :
    components p = if as = ['.'] then "." :: namesOf rest else namesOf p.toList := by
  obtain ⟨ps, hps, hnames⟩ := pieceList_of_stops has hrest
  have hpieces : Text.pieces '/' p = String.ofList as :: ps.map String.ofList := by
    rw [Text.pieces, hp, hps, List.map_cons]
  rw [components, if_neg h, hpieces]
  split
  · next heq =>
    obtain ⟨has, rfl⟩ := List.cons.inj heq
    have hdot : as = ['.'] := by simpa using congrArg String.toList has
    rw [if_pos hdot, hnames]
  · next hne =>
    have hdot : as ≠ ['.'] := fun h => hne _ (by rw [h])
    rw [if_neg hdot, ← hpieces, named_pieces]

/-- The first piece of a path ends at its first slash. -/
theorem piece_unique {as as' rest rest' : List Char} (h : as ++ rest = as' ++ rest')
    (has : '/' ∉ as) (has' : '/' ∉ as') (hrest : Stops rest) (hrest' : Stops rest') : as = as' := by
  obtain ⟨ps, hps, -⟩ := pieceList_of_stops has hrest
  obtain ⟨ps', hps', -⟩ := pieceList_of_stops has' hrest'
  rw [h, hps'] at hps
  exact (List.cons.inj hps).1.symm

/-- Every path has its components, and no others. -/
theorem components_iff {cs : List String} : Components p cs ↔ components p = cs := by
  obtain ⟨as, rest, hp, has, hrest⟩ := exists_piece p.toList
  constructor
  · rintro (⟨hroot, hnames⟩ | ⟨hdot, hstops, hnames⟩ | ⟨hroot, hhere, hnames⟩)
    · rw [components_of_absolute hroot, names_iff.1 hnames]
    · have hrelative : ¬isAbsolute p := fun h => by
        obtain ⟨_, hroot⟩ := isAbsolute_iff.1 h
        cases hroot.symm.trans hdot
      have hpiece : '/' ∉ ['.'] := by decide
      rw [components_of_relative hrelative (show p.toList = ['.'] ++ _ from hdot) hpiece hstops,
        if_pos rfl, names_iff.1 hnames]
    · have hrelative : ¬isAbsolute p := fun h => by
        obtain ⟨_, h⟩ := isAbsolute_iff.1 h
        exact hroot (by rw [h]; rfl)
      have hne : as ≠ ['.'] := by
        rintro rfl
        exact hhere rest hp hrest
      rw [components_of_relative hrelative hp has hrest, if_neg hne, names_iff.1 hnames]
  · rintro rfl
    by_cases habs : isAbsolute p = true
    · obtain ⟨cs, hroot⟩ := isAbsolute_iff.1 habs
      rw [components_of_absolute hroot]
      exact .absolute hroot (names_namesOf cs)
    rw [components_of_relative habs hp has hrest]
    split
    · next hdot =>
      subst hdot
      exact .here hp hrest (names_namesOf rest)
    · next hne =>
      have hroot : p.toList.head? ≠ some '/' := fun h =>
        habs (isAbsolute_iff.2 (List.head?_eq_some_iff.1 h))
      refine .relative hroot (fun cs hcs hstops => hne ?_) (names_namesOf _)
      exact piece_unique (hp.symm.trans hcs) has (by decide) hrest hstops

/-- **A path lies below the directories that contain it.** -/
theorem isBelow_iff : isBelow p dir = true ↔ Contains dir p := by
  simp only [isBelow, List.isPrefixOf_iff_prefix, Contains, components_iff]
  constructor
  · rintro ⟨ns, h⟩
    exact ⟨_, ns, rfl, h.symm⟩
  · rintro ⟨ms, ns, rfl, h⟩
    exact ⟨ns, h.symm⟩

/-! ### Siblings -/

theorem pieces_slash (a b : String) :
    Text.pieces '/' (a ++ "/" ++ b) = Text.pieces '/' a ++ Text.pieces '/' b := by
  have htoList : (a ++ "/" ++ b).toList = a.toList ++ '/' :: b.toList := by simp
  rw [Text.pieces, htoList, Text.pieceList_cut, List.map_append]
  rfl

/-- The components of a path are those of a directory, and then the names after it. -/
theorem exists_components_slash (a : String) :
    ∃ cs, ∀ b, components (a ++ "/" ++ b) = cs ++ named (Text.pieces '/' b) := by
  have habs : ∀ b, isAbsolute (a ++ "/" ++ b) = isAbsolute (a ++ "/") := by
    intro b
    rw [isAbsolute, isAbsolute]
    cases h : a.toList <;> simp [h]
  obtain ⟨q, qs, hpieces⟩ := List.exists_cons_of_ne_nil (Text.pieces_ne_nil '/' a)
  by_cases hroot : isAbsolute (a ++ "/") = true
  · refine ⟨"/" :: named (Text.pieces '/' a), fun b => ?_⟩
    rw [components, if_pos ((habs b).trans hroot), pieces_slash, named, List.filter_append]
    rfl
  · have hrelative : ∀ b, ¬isAbsolute (a ++ "/" ++ b) = true := fun b => habs b ▸ hroot
    by_cases hdot : q = "."
    · refine ⟨"." :: named qs, fun b => ?_⟩
      rw [components, if_neg (hrelative b), pieces_slash, hpieces, hdot]
      exact congrArg ("." :: ·) (List.filter_append ..)
    · refine ⟨named (q :: qs), fun b => ?_⟩
      rw [components, if_neg (hrelative b), pieces_slash, hpieces]
      split
      · next heq => exact absurd (List.cons.inj heq).1 hdot
      · exact List.filter_append ..

/-- **The directory stops short**: its text is the start of the path, but it ends within a name. -/
def StopsShort (dir p : String) : Prop :=
  ∃ front name tail, IsName name.toList ∧ tail ≠ "" ∧ tail.toList.head? ≠ some '/' ∧
    dir = front ++ "/" ++ name ∧ p = dir ++ tail

/-- **A directory that stops short is only a sibling**, and does not contain the path. -/
theorem StopsShort.not_contains (h : StopsShort dir p) : ¬Contains dir p := by
  obtain ⟨front, name, tail, hname, htail, hslash, rfl, rfl⟩ := h
  obtain ⟨cs, hcs⟩ := exists_components_slash front
  obtain ⟨as, rest, hsplit, has, hrest⟩ := exists_piece tail.toList
  have hne : as ≠ [] := by
    rintro rfl
    obtain ⟨c, cs, hc⟩ := List.exists_cons_of_ne_nil (mt String.toList_eq_nil_iff.1 htail)
    have hstops : Stops tail.toList := hsplit ▸ hrest
    rw [hc] at hstops hslash
    exact hslash (congrArg some (hstops c rfl))
  have hlong : IsName (name.toList ++ as) := by
    refine ⟨by simp [hne], fun h => ?_, ?_⟩
    · have hlength := congrArg List.length h
      have hfirst := List.length_pos_iff.2 hname.1
      have hmore := List.length_pos_iff.2 hne
      simp only [List.length_append, List.length_singleton] at hlength
      omega
    · rw [List.mem_append, not_or]
      exact ⟨hname.2.2, has⟩
  have hdir : named (Text.pieces '/' name) = [name] := by
    rw [Text.pieces_of_notMem hname.2.2, ← String.ofList_toList (s := name)]
    exact named_singleton hname
  have hpath : named (Text.pieces '/' (name ++ tail)) =
      String.ofList (name.toList ++ as) :: namesOf rest := by
    rw [named_pieces, String.toList_append, hsplit, ← List.append_assoc,
      namesOf_append hlong.2.2 hrest, named_singleton hlong]
    rfl
  have hassoc : front ++ "/" ++ name ++ tail = front ++ "/" ++ (name ++ tail) :=
    String.append_assoc
  rw [← isBelow_iff, isBelow, List.isPrefixOf_iff_prefix, hassoc, hcs, hcs, hdir, hpath]
  rintro ⟨more, hmore⟩
  rw [List.append_assoc] at hmore
  have heq := (List.cons.inj (List.append_cancel_left hmore)).1
  have hchars : name.toList ++ [] = name.toList ++ as := by
    simpa using congrArg String.toList heq
  exact hne (List.append_cancel_left hchars).symm

end WrappedTraining.Path
