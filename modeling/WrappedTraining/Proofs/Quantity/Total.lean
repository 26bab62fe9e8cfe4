import Mathlib.Algebra.Order.BigOperators.Group.List
import Mathlib.Algebra.Order.Ring.Int
import WrappedTraining.Proofs.Lists
import WrappedTraining.Quantity

/-!
# Counts added up in 64 bits

`Quantity.total?` adds counts with the additions of 64-bit integers, and has no answer once a sum
leaves their range.

* `Quantity.Fits` : no sum on the way leaves the range;
* `Quantity.total?_eq_some_iff` : there is a total exactly if the counts fit, and it is their sum;
* `Quantity.fits_iff_of_nonneg` : where no count is negative, they fit if the last sum does;
* `Quantity.GroupsFit`, `Quantity.total?_groups_eq_some_iff` : the same for counts that are added up
  in groups first.
-/

namespace WrappedTraining.Quantity

/-! ### The range -/

/-- The integer is one of 64 bits. -/
def InRange (n : Int) : Prop := -0x8000000000000000 ≤ n ∧ n ≤ 0x7FFFFFFFFFFFFFFF

instance (n : Int) : Decidable (InRange n) := inferInstanceAs (Decidable (_ ∧ _))

theorem inRange_zero : InRange 0 := by decide

theorem inRange_wholeUnits (q : Quantity) : InRange q.wholeUnits := by
  unfold wholeUnits
  split <;> constructor <;> omega

/-- What a text counts for is one of the integers of 64 bits. -/
theorem inRange_count (input : String) : InRange (count input) := by
  unfold count
  split
  · exact inRange_wholeUnits _
  · exact inRange_zero

/-! ### Sums on the way -/

/-- **No sum on the way leaves the range**: each of the counts, added to those before it, gives an
integer of 64 bits. -/
def Fits (counts : List Int) : Prop := ∀ front, front <+: counts → InRange front.sum

variable {counts : List Int} {m n k : Int}

theorem Fits.inRange (h : Fits counts) : InRange counts.sum := h counts (List.prefix_refl counts)

/-- Counts that are not negative fit if their sum does. -/
theorem fits_iff_of_nonneg (h : ∀ n ∈ counts, 0 ≤ n) :
    Fits counts ↔ counts.sum ≤ 0x7FFFFFFFFFFFFFFF := by
  refine ⟨fun hfits => hfits.inRange.2, ?_⟩
  rintro hsum front ⟨rest, rfl⟩
  have hfront : 0 ≤ front.sum := List.sum_nonneg fun n hn => h n (List.mem_append_left rest hn)
  have hrest : 0 ≤ rest.sum := List.sum_nonneg fun n hn => h n (List.mem_append_right front hn)
  rw [List.sum_append] at hsum
  constructor <;> omega

/-! ### The total -/

theorem add?_eq_some_iff : add? m n = some k ↔ InRange (m + n) ∧ k = m + n := by
  unfold add?
  split
  · rename_i h
    exact ⟨fun hk => ⟨h, (Option.some.inj hk).symm⟩, fun hk => congrArg some hk.2.symm⟩
  · rename_i h
    exact ⟨nofun, fun hk => absurd hk.1 h⟩

/-- An answer that is one integer under a condition is there exactly under the condition. -/
theorem isSome_iff_of_forall {o : Option Int} {P : Prop} (h : ∀ n, o = some n ↔ P ∧ n = k) :
    o.isSome ↔ P := by
  rw [Option.isSome_iff_exists]
  constructor
  · rintro ⟨n, hn⟩
    exact ((h n).1 hn).1
  · exact fun hP => ⟨k, (h k).2 ⟨hP, rfl⟩⟩

/-- Adding up from a partial sum: the induction is on the counts that are still to come. -/
theorem foldlM_add?_eq_some_iff {start : Int} (hstart : InRange start) :
    counts.foldlM add? start = some n ↔
      (∀ front, front <+: counts → InRange (start + front.sum)) ∧ n = start + counts.sum := by
  induction counts generalizing start with
  | nil => simp [hstart, eq_comm]
  | cons m counts ih =>
    rw [List.foldlM_cons, Lists.forall_prefix_cons_iff]
    simp only [List.sum_cons, ← add_assoc]
    constructor
    · intro h
      obtain ⟨s, hs, h⟩ := Option.bind_eq_some_iff.1 h
      obtain ⟨hm, rfl⟩ := add?_eq_some_iff.1 hs
      obtain ⟨hrest, hn⟩ := (ih hm).1 h
      exact ⟨⟨by simpa using hstart, hrest⟩, hn⟩
    · rintro ⟨⟨-, hrest⟩, hn⟩
      -- the first sum on the way is the one of the empty front of the rest
      have hm : InRange (start + m) := by simpa using hrest [] List.nil_prefix
      exact Option.bind_eq_some_iff.2
        ⟨start + m, add?_eq_some_iff.2 ⟨hm, rfl⟩, (ih hm).2 ⟨hrest, hn⟩⟩

/-- **There is a total exactly if the counts fit, and it is their sum.** -/
theorem total?_eq_some_iff : total? counts = some n ↔ Fits counts ∧ n = counts.sum := by
  unfold total? Fits
  rw [foldlM_add?_eq_some_iff inRange_zero]
  simp only [zero_add]

theorem Fits.total?_eq (h : Fits counts) : total? counts = some counts.sum :=
  total?_eq_some_iff.2 ⟨h, rfl⟩

theorem isSome_total?_iff : (total? counts).isSome ↔ Fits counts :=
  isSome_iff_of_forall fun _ => total?_eq_some_iff

instance (counts : List Int) : Decidable (Fits counts) := decidable_of_iff _ isSome_total?_iff

/-! ### Groups -/

/-- **No sum on the way leaves the range** when counts are added up in groups first, and then the
sums of the groups. -/
structure GroupsFit (groups : List (List Int)) : Prop where
  each : ∀ group ∈ groups, Fits group
  together : Fits (groups.map List.sum)

variable {groups : List (List Int)}

theorem mapM_total?_eq_some_iff {sums : List Int} : groups.mapM total? = some sums ↔
    (∀ group ∈ groups, Fits group) ∧ sums = groups.map List.sum := by
  rw [Lists.mapM_eq_some_iff]
  simp only [total?_eq_some_iff, List.forall₂_and_left]
  refine and_congr_right fun _ => ?_
  rw [eq_comm (a := sums), ← List.forall₂_eq_eq_eq, List.forall₂_map_left_iff]
  simp only [eq_comm]

/-- **Counts that are added up in groups first** have a total exactly if no sum on the way leaves
the range, and it is the sum of them all. -/
theorem total?_groups_eq_some_iff : (groups.mapM total?).bind total? = some n ↔
    GroupsFit groups ∧ n = groups.flatten.sum := by
  rw [Option.bind_eq_some_iff, List.sum_flatten]
  constructor
  · rintro ⟨sums, hsums, hn⟩
    obtain ⟨heach, rfl⟩ := mapM_total?_eq_some_iff.1 hsums
    obtain ⟨htogether, hn⟩ := total?_eq_some_iff.1 hn
    exact ⟨⟨heach, htogether⟩, hn⟩
  · rintro ⟨h, hn⟩
    exact ⟨_, mapM_total?_eq_some_iff.2 ⟨h.each, rfl⟩, total?_eq_some_iff.2 ⟨h.together, hn⟩⟩

theorem isSome_total?_groups_iff :
    ((groups.mapM total?).bind total?).isSome ↔ GroupsFit groups :=
  isSome_iff_of_forall fun _ => total?_groups_eq_some_iff

instance (groups : List (List Int)) : Decidable (GroupsFit groups) :=
  decidable_of_iff _ isSome_total?_groups_iff

theorem GroupsFit.inRange (h : GroupsFit groups) : InRange groups.flatten.sum := by
  rw [List.sum_flatten]
  exact h.together.inRange

/-- Groups of counts that are not negative fit if the sum of all counts does. -/
theorem groupsFit_iff_of_nonneg (h : ∀ group ∈ groups, ∀ n ∈ group, 0 ≤ n) :
    GroupsFit groups ↔ groups.flatten.sum ≤ 0x7FFFFFFFFFFFFFFF := by
  refine ⟨fun hfit => hfit.inRange.2, fun hsum => ?_⟩
  have hsums : ∀ n ∈ groups.map List.sum, 0 ≤ n :=
    List.forall_mem_map.2 fun group hgroup => List.sum_nonneg (h group hgroup)
  rw [List.sum_flatten] at hsum
  refine ⟨fun group hgroup => (fits_iff_of_nonneg (h group hgroup)).2 ?_,
    (fits_iff_of_nonneg hsums).2 hsum⟩
  -- one group has no larger sum than all of them
  exact (List.single_le_sum hsums _ (List.mem_map_of_mem hgroup)).trans hsum

end WrappedTraining.Quantity
