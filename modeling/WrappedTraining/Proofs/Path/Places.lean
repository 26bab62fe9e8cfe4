import Mathlib.Data.List.DropRight
import WrappedTraining.Proofs.Path

/-!
# Where paths lead

Components are compared as they are written, but a path leads elsewhere than it says when there is
a `..` among them. The place that a path leads to is given by the names from the root to it.

* `LeadsTo` : the place of an absolute path, and `Encloses` : a directory whose place is that of a
  path or above it;
* `Detour` : names lead some directories up and then others down, and `follow_eq` : where they end;
* `prefix_follow_iff` : names end below the place they start from if they come back to it;
* `contains_iff` : what contains an absolute path is absolute, or the empty text, and
  `encloses_iff` : it also encloses the path unless it is empty or the path strays from it.
-/

namespace WrappedTraining.Path

/-! ### Places -/

/-- Where a name leads from a place: `..` to the directory above, which for the root is itself. -/
def enter (place : List String) (n : String) : List String :=
  if n = ".." then place.dropLast else place ++ [n]

/-- Where names lead from a place. -/
def follow (place ns : List String) : List String := ns.foldl enter place

/-- The path is absolute and leads to the place. -/
def LeadsTo (p : String) (place : List String) : Prop :=
  ∃ ns, Components p ("/" :: ns) ∧ follow [] ns = place

/-- **The directory encloses the path**: it is absolute, and the path leads to its place or to one
below. -/
def Encloses (dir p : String) : Prop :=
  isAbsolute dir ∧ ∃ above below, LeadsTo dir above ∧ LeadsTo p (above ++ below)

theorem follow_append (place ms ns : List String) :
    follow place (ms ++ ns) = follow (follow place ms) ns := List.foldl_append

theorem follow_concat (place ns : List String) (n : String) :
    follow place (ns ++ [n]) = enter (follow place ns) n := follow_append place ns [n]

/-! ### Detours -/

/-- Some directories up, and down from there. -/
structure Detour where
  up : Nat
  down : List String

namespace Detour

/-- The detour with one more name: `..` undoes the last step down, if there is one. -/
def turn (d : Detour) (n : String) : Detour :=
  if n ≠ ".." then { d with down := d.down ++ [n] }
  else if d.down = [] then { d with up := d.up + 1 }
  else { d with down := d.down.dropLast }

/-- The detour of names. -/
def ofNames (ns : List String) : Detour := ns.foldl turn ⟨0, []⟩

/-- Where a detour ends. -/
def goal (place : List String) (d : Detour) : List String := place.rdrop d.up ++ d.down

theorem ofNames_concat (ns : List String) (n : String) :
    ofNames (ns ++ [n]) = (ofNames ns).turn n := List.foldl_append

theorem dropLast_rdrop (place : List String) (k : Nat) :
    (place.rdrop k).dropLast = place.rdrop (k + 1) := by
  rw [List.rdrop, List.rdrop, List.dropLast_eq_take, List.take_take, List.length_take]
  congr 1
  omega

theorem goal_turn (place : List String) (d : Detour) (n : String) :
    goal place (d.turn n) = enter (goal place d) n := by
  unfold turn enter goal
  by_cases hn : n = ".."
  · rw [if_neg (not_not_intro hn), if_pos hn]
    by_cases hdown : d.down = []
    · -- there is nothing to undo, so the place itself is left
      rw [if_pos hdown, hdown, List.append_nil, List.append_nil, dropLast_rdrop]
    · rw [if_neg hdown, List.dropLast_append_of_ne_nil hdown]
  · rw [if_pos hn, if_neg hn, List.append_assoc]

/-- Without a `..` there is no way up. -/
theorem ofNames_of_notMem {ns : List String} (h : ".." ∉ ns) : ofNames ns = ⟨0, ns⟩ := by
  induction ns using List.reverseRecOn with
  | nil => rfl
  | append_singleton ns n ih =>
    obtain ⟨hns, hn⟩ := not_or.1 (mt List.mem_append.2 h)
    rw [ofNames_concat, ih hns, turn, if_pos (Ne.symm (mt List.mem_singleton.2 hn))]

end Detour

/-- **Where names end**: the detour that they make is all that counts. -/
theorem follow_eq (place ns : List String) :
    follow place ns = (Detour.ofNames ns).goal place := by
  induction ns using List.reverseRecOn with
  | nil => exact (List.append_nil _).symm.trans (congrArg (· ++ []) (List.rdrop_zero place).symm)
  | append_singleton ns n ih => rw [follow_concat, ih, Detour.ofNames_concat, Detour.goal_turn]

/-- The names lead back down every directory that they lead up from the place. -/
def ComesBack (place ns : List String) : Prop :=
  place.rtake (Detour.ofNames ns).up <+: (Detour.ofNames ns).down

instance (place ns : List String) : Decidable (ComesBack place ns) :=
  inferInstanceAs (Decidable (_ <+: _))

/-- **Names end at the place they start from, or below it, if they come back.** -/
theorem prefix_follow_iff (place ns : List String) :
    place <+: follow place ns ↔ ComesBack place ns := by
  have hsplit : place.rdrop (Detour.ofNames ns).up ++ place.rtake (Detour.ofNames ns).up = place :=
    List.take_append_drop _ place
  rw [follow_eq, Detour.goal, ComesBack]
  nth_rewrite 1 [← hsplit]
  exact List.prefix_append_right_inj _

theorem comesBack_of_notMem {ns : List String} (h : ".." ∉ ns) (place : List String) :
    ComesBack place ns := by
  rw [ComesBack, Detour.ofNames_of_notMem h, List.rtake_zero]
  exact List.nil_prefix

/-! ### Directories above an absolute path -/

variable {dir p : String}

theorem Names.notMem {cs : List Char} {ns : List String} (h : Names cs ns) :
    ∀ n ∈ ns, '/' ∉ n.toList := by
  induction h with
  | nil => exact fun n hn => absurd hn List.not_mem_nil
  | slash _ ih => exact ih
  | here _ _ ih => exact ih
  | name hname _ _ ih =>
    refine List.forall_mem_cons.2 ⟨?_, ih⟩
    rw [String.toList_ofList]
    exact hname.2.2

/-- Only an absolute path has the root among its components. -/
theorem isAbsolute_of_components {ns : List String} (h : Components p ("/" :: ns)) :
    isAbsolute p := by
  generalize hcs : "/" :: ns = cs at h
  cases h with
  | absolute hroot _ => exact isAbsolute_iff.2 ⟨_, hroot⟩
  | here _ _ _ => exact absurd (List.cons.inj hcs).1 (by decide)
  | relative _ _ hnames =>
    subst hcs
    exact absurd (by decide) (hnames.notMem "/" List.mem_cons_self)

/-- Only the empty text has no components. -/
theorem components_nil_iff : Components p [] ↔ p = "" := by
  constructor
  · rintro (_ | _ | ⟨hroot, hhere, hnames⟩)
    generalize hcs : p.toList = cs at hroot hhere hnames
    cases hnames with
    | nil => exact String.toList_eq_nil_iff.1 hcs
    | slash _ => exact absurd rfl hroot
    | here hstops _ => exact absurd hstops (hhere _ rfl)
  · rintro rfl
    exact components_iff.2 (by decide)

/-- **What contains an absolute path**: the empty text, and the absolute paths whose components are
the first of its own. -/
theorem contains_iff (h : isAbsolute p) : Contains dir p ↔ dir = "" ∨
    ∃ ms ns, Components dir ("/" :: ms) ∧ Components p ("/" :: (ms ++ ns)) := by
  obtain ⟨cs, hroot⟩ := isAbsolute_iff.1 h
  have hcomponents := components_of_absolute hroot
  constructor
  · rintro ⟨ms, ns, hdir, hp⟩
    cases ms with
    | nil => exact .inl (components_nil_iff.1 hdir)
    | cons m ms =>
      have hfirst : "/" :: namesOf cs = m :: (ms ++ ns) :=
        hcomponents.symm.trans (components_iff.1 hp)
      obtain ⟨rfl, -⟩ := List.cons.inj hfirst
      exact .inr ⟨ms, ns, hdir, hp⟩
  · rintro (rfl | ⟨ms, ns, hdir, hp⟩)
    · exact ⟨[], _, components_nil_iff.2 rfl, components_iff.2 rfl⟩
    · exact ⟨_, ns, hdir, hp⟩

theorem not_encloses_empty (p : String) : ¬Encloses "" p :=
  fun h => absurd h.1 (by decide)

/-- A path leads to one place. -/
theorem LeadsTo.unique {place place' : List String} (h : LeadsTo p place)
    (h' : LeadsTo p place') : place = place' := by
  obtain ⟨ns, hns, rfl⟩ := h
  obtain ⟨ns', hns', rfl⟩ := h'
  have hsame := (components_iff.1 hns).symm.trans (components_iff.1 hns')
  rw [(List.cons.inj hsame).2]

theorem LeadsTo.isAbsolute {place : List String} (h : LeadsTo p place) : isAbsolute p := by
  obtain ⟨ns, hns, -⟩ := h
  exact isAbsolute_of_components hns

theorem encloses_iff_of_leadsTo {above place : List String} (hdir : LeadsTo dir above)
    (hp : LeadsTo p place) : Encloses dir p ↔ above <+: place := by
  constructor
  · rintro ⟨-, above', below, hdir', hp'⟩
    rw [hdir.unique hdir', hp.unique hp']
    exact List.prefix_append _ _
  · rintro ⟨below, rfl⟩
    exact ⟨hdir.isAbsolute, above, below, hdir, hp⟩

theorem encloses_iff_comesBack {ms ns : List String} (hdir : Components dir ("/" :: ms))
    (hp : Components p ("/" :: (ms ++ ns))) : Encloses dir p ↔ ComesBack (follow [] ms) ns := by
  rw [encloses_iff_of_leadsTo ⟨ms, hdir, rfl⟩ ⟨ms ++ ns, hp, rfl⟩, follow_append,
    prefix_follow_iff]

/-- **The path strays from the directory**: it has the components of the directory and then names
that do not come back to it. -/
def Strays (dir p : String) : Prop :=
  ∃ ms ns, Components dir ("/" :: ms) ∧ Components p ("/" :: (ms ++ ns)) ∧
    ¬ComesBack (follow [] ms) ns

theorem Strays.not_comesBack {ms ns : List String} (h : Strays dir p)
    (hdir : Components dir ("/" :: ms)) (hp : Components p ("/" :: (ms ++ ns))) :
    ¬ComesBack (follow [] ms) ns := by
  obtain ⟨ms', ns', hdir', hp', hstrays⟩ := h
  have hms := (components_iff.1 hdir').symm.trans (components_iff.1 hdir)
  have hns := (components_iff.1 hp').symm.trans (components_iff.1 hp)
  obtain ⟨-, rfl⟩ := List.cons.inj hms
  rwa [List.append_cancel_left (List.cons.inj hns).2] at hstrays

/-- **What contains an absolute path also encloses it**, unless it is empty or the path strays. -/
theorem encloses_iff (habs : isAbsolute p) (h : Contains dir p) :
    Encloses dir p ↔ dir ≠ "" ∧ ¬Strays dir p := by
  constructor
  · intro hencloses
    refine ⟨fun hempty => not_encloses_empty p (hempty ▸ hencloses), ?_⟩
    rintro ⟨ms, ns, hdir, hp, hstrays⟩
    exact hstrays ((encloses_iff_comesBack hdir hp).1 hencloses)
  · rintro ⟨hne, hstays⟩
    obtain hempty | ⟨ms, ns, hdir, hp⟩ := (contains_iff habs).1 h
    · exact absurd hempty hne
    · refine (encloses_iff_comesBack hdir hp).2 (Decidable.by_contra fun hstrays => ?_)
      exact hstays ⟨ms, ns, hdir, hp, hstrays⟩

/-- Without a `..` no path strays. -/
theorem not_strays_of_notMem (h : ∀ ns, Components p ns → ".." ∉ ns) : ¬Strays dir p := by
  rintro ⟨ms, ns, -, hp, hstrays⟩
  have hns : ".." ∉ ns := fun hmem =>
    h _ hp (List.mem_cons_of_mem _ (List.mem_append_right _ hmem))
  exact hstrays (comesBack_of_notMem hns _)

end WrappedTraining.Path
