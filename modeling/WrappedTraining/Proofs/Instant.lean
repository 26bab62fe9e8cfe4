import WrappedTraining.Instant

/-!
# The order of instants

Instants come one after the other by day, second and nanoseconds. A leap second is told as further
nanoseconds of the second before it, and then the time from one instant to another is not always
the difference of their places in this order.

* `Instant.reckoned` : the nanoseconds since 1970, if every second told has one thousand million;
* `Instant.nanos_since` : outside leap seconds, the time between two instants is the difference of
  these;
* `Instant.le_iff_reckoned_le` : and it is they that order the instants.
-/

namespace WrappedTraining.Instant

/-- An instant comes no later than another one. -/
instance : LE Instant where
  le t u := t.day < u.day ∨
    t.day = u.day ∧ (t.second < u.second ∨ t.second = u.second ∧ t.nanos ≤ u.nanos)

theorem le_iff {t u : Instant} : t ≤ u ↔ t.day < u.day ∨
    t.day = u.day ∧ (t.second < u.second ∨ t.second = u.second ∧ t.nanos ≤ u.nanos) := Iff.rfl

instance (t u : Instant) : Decidable (t ≤ u) := decidable_of_iff _ le_iff.symm

/-- The instant lies in a leap second. -/
def IsLeap (t : Instant) : Prop := 1000000000 ≤ t.nanos

instance (t : Instant) : Decidable t.IsLeap := inferInstanceAs (Decidable (_ ≤ _))

/-- The nanoseconds since the start of 1970 that the day, the second and the nanoseconds stand
for. -/
def reckoned (t : Instant) : Int := (t.day * 86400 + t.second) * 1000000000 + t.nanos

variable {t u v : Instant}

theorem leapCorrection_eq_zero (ht : ¬t.IsLeap) (hu : ¬u.IsLeap) : leapCorrection t u = 0 := by
  unfold leapCorrection
  rw [if_neg fun h => hu h.2, if_neg fun h => ht h.2]

theorem nanos_since_eq (t u : Instant) :
    (t.since u).nanos = t.reckoned - u.reckoned + leapCorrection t u * 1000000000 := by
  simp only [since, reckoned]
  omega

/-- **Outside leap seconds the time between two instants is a difference.** -/
theorem nanos_since (ht : ¬t.IsLeap) (hu : ¬u.IsLeap) :
    (t.since u).nanos = t.reckoned - u.reckoned := by
  rw [nanos_since_eq, leapCorrection_eq_zero ht hu]
  omega

theorem le_iff_reckoned_le (ht : ¬t.IsLeap) (hu : ¬u.IsLeap) :
    t ≤ u ↔ t.reckoned ≤ u.reckoned := by
  have ht' := t.second_lt
  have hu' := u.second_lt
  rw [le_iff]
  unfold IsLeap at ht hu
  unfold reckoned
  omega

theorem since_nonneg (ht : ¬t.IsLeap) (hu : ¬u.IsLeap) (h : u ≤ t) : 0 ≤ (t.since u).nanos := by
  have hle := (le_iff_reckoned_le hu ht).1 h
  rw [nanos_since ht hu]
  omega

theorem since_mono (ht : ¬t.IsLeap) (hu : ¬u.IsLeap) (hv : ¬v.IsLeap) (h : t ≤ u) :
    (t.since v).nanos ≤ (u.since v).nanos := by
  have hle := (le_iff_reckoned_le ht hu).1 h
  rw [nanos_since ht hv, nanos_since hu hv]
  omega

/-- Times after one another add up. -/
theorem since_sub_since (ht : ¬t.IsLeap) (hu : ¬u.IsLeap) (hv : ¬v.IsLeap) :
    (u.since v).nanos - (t.since v).nanos = (u.since t).nanos := by
  rw [nanos_since hu hv, nanos_since ht hv, nanos_since hu ht]
  omega

end WrappedTraining.Instant
