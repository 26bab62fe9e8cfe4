import WrappedTraining.Dict

/-!
# Dictionaries and what they hold

A dictionary is determined by what it holds under each key (`Dict.ext_get?`): its entries are
sorted, so there is one list of entries for each way of looking up.

* `Dict.insert_insert` : of two values set under one key, the later one stays;
* `Dict.get?_insertAll` : of inserted entries the last one of a key counts, and every other key is
  left as it is (`Dict.get?_insertAll_of_ne`); no key is lost (`Dict.keys_subset_insertAll`);
* `Dict.ofList_entries` : a dictionary is made of its own entries.
-/

namespace WrappedTraining

namespace Dict

variable {α : Type}

/-! ### One list of entries -/

theorem lookup?_eq_none_of_lt {k : String} {es : List (String × α)} (h : ∀ e ∈ es, k < e.1) :
    lookup? k es = none := by
  induction es with
  | nil => rfl
  | cons e es ih =>
    have he : e.1 ≠ k := fun heq => String.lt_irrefl k (heq ▸ h e List.mem_cons_self)
    rw [lookup?, if_neg he]
    exact ih fun x hx => h x (List.mem_cons_of_mem _ hx)

theorem lookup?_cons_self (e : String × α) (es : List (String × α)) :
    lookup? e.1 (e :: es) = some e.2 := by
  rw [lookup?, if_pos rfl]

/-- The first key of a sorted list is not below the first key of another one that holds it. -/
theorem not_lt_of_lookup?_eq {a b : String × α} {as bs : List (String × α)}
    (hb : ∀ e ∈ bs, b.1 < e.1) (h : lookup? a.1 (a :: as) = lookup? a.1 (b :: bs)) :
    ¬ a.1 < b.1 := by
  intro hlt
  have hnone : lookup? a.1 (b :: bs) = none := by
    refine lookup?_eq_none_of_lt fun e he => ?_
    rcases List.mem_cons.1 he with rfl | he
    · exact hlt
    · exact String.lt_trans hlt (hb e he)
  rw [lookup?_cons_self, hnone] at h
  cases h

theorem eq_of_lookup?_eq {as bs : List (String × α)} (ha : as.Pairwise fun a b => a.1 < b.1)
    (hb : bs.Pairwise fun a b => a.1 < b.1) (h : ∀ k, lookup? k as = lookup? k bs) : as = bs := by
  induction as generalizing bs with
  | nil =>
    cases bs with
    | nil => rfl
    | cons b bs =>
      have := h b.1
      rw [lookup?_cons_self] at this
      cases this
  | cons a as ih =>
    cases bs with
    | nil =>
      have := h a.1
      rw [lookup?_cons_self] at this
      cases this
    | cons b bs =>
      -- neither first key can be below the other, for each is held by the other list
      obtain ⟨ha₁, ha₂⟩ := List.pairwise_cons.1 ha
      obtain ⟨hb₁, hb₂⟩ := List.pairwise_cons.1 hb
      have hkey : a.1 = b.1 :=
        Std.le_antisymm (String.not_lt.1 (not_lt_of_lookup?_eq ha₁ (h b.1).symm))
          (String.not_lt.1 (not_lt_of_lookup?_eq hb₁ (h a.1)))
      have hval : a.2 = b.2 := by
        have := h a.1
        rw [lookup?_cons_self, hkey, lookup?_cons_self] at this
        exact Option.some.inj this
      have htail : ∀ k, lookup? k as = lookup? k bs := by
        intro k
        by_cases hk : a.1 = k
        · subst hk
          rw [lookup?_eq_none_of_lt ha₁, lookup?_eq_none_of_lt (hkey ▸ hb₁)]
        · have := h k
          rwa [lookup?, if_neg hk, lookup?, if_neg (hkey ▸ hk)] at this
      rw [Prod.ext hkey hval, ih ha₂ hb₂ htail]

/-- **A dictionary is what it holds**: dictionaries with the same value under every key are
equal. -/
theorem ext_get? {d d' : Dict α} (h : ∀ k, d.get? k = d'.get? k) : d = d' := by
  obtain ⟨es, hes⟩ := d
  obtain ⟨es', hes'⟩ := d'
  have : es = es' := eq_of_lookup?_eq hes hes' h
  subst this
  rfl

/-! ### Inserting -/

theorem insert_insert (d : Dict α) (k : String) (v w : α) :
    (d.insert k v).insert k w = d.insert k w := by
  refine ext_get? fun j => ?_
  by_cases hj : j = k <;> simp [hj]

theorem lookup?_append (k : String) (as bs : List (String × α)) :
    lookup? k (as ++ bs) = (lookup? k as).or (lookup? k bs) := by
  induction as with
  | nil => rfl
  | cons a as ih =>
    simp only [List.cons_append, lookup?]
    split
    · rfl
    · exact ih

/-- An entry that is there on a condition. -/
theorem lookup?_ite_singleton {p : Prop} [Decidable p] (k j : String) (v : α) :
    lookup? k (if p then [(j, v)] else []) = if k = j ∧ p then some v else none := by
  by_cases hp : p
  · simp [lookup?, hp, eq_comm]
  · simp [lookup?, hp]

theorem lookup?_eq_none_iff {k : String} {es : List (String × α)} :
    lookup? k es = none ↔ ∀ e ∈ es, e.1 ≠ k := by
  induction es with
  | nil => simp [lookup?]
  | cons e es ih => by_cases he : e.1 = k <;> simp [lookup?, he, ih]

/-- **Of inserted entries the last one of a key counts.** -/
theorem get?_insertAll (d : Dict α) (es : List (String × α)) (k : String) :
    (d.insertAll es).get? k = (lookup? k es.reverse).or (d.get? k) := by
  induction es generalizing d with
  | nil => rfl
  | cons e es ih =>
    show ((d.insert e.1 e.2).insertAll es).get? k = _
    rw [ih, get?_insert, List.reverse_cons, lookup?_append, Option.or_assoc]
    by_cases he : k = e.1
    · simp [lookup?, he]
    · simp [lookup?, he, Ne.symm he]

theorem get?_insertAll_of_ne (d : Dict α) {es : List (String × α)} {k : String}
    (h : ∀ e ∈ es, e.1 ≠ k) : (d.insertAll es).get? k = d.get? k := by
  have hnone : lookup? k es.reverse = none :=
    lookup?_eq_none_iff.2 fun e he => h e (List.mem_reverse.1 he)
  rw [get?_insertAll, hnone, Option.none_or]

theorem mem_keys_iff {d : Dict α} {k : String} : k ∈ d.keys ↔ d.get? k ≠ none := by
  rw [get?, ne_eq, lookup?_eq_none_iff, keys, List.mem_map]
  grind

/-- No key is lost. -/
theorem keys_subset_insertAll (d : Dict α) (es : List (String × α)) :
    d.keys ⊆ (d.insertAll es).keys := by
  intro k hk
  rw [mem_keys_iff] at hk ⊢
  rw [get?_insertAll, ne_eq, Option.or_eq_none_iff]
  exact fun h => hk h.2

theorem keys_subset_insert (d : Dict α) (k : String) (v : α) : d.keys ⊆ (d.insert k v).keys :=
  d.keys_subset_insertAll [(k, v)]

theorem lookup?_eq_none_of_notMem {k : String} {es : List (String × α)}
    (h : k ∉ es.map (·.1)) : lookup? k es = none :=
  lookup?_eq_none_iff.2 fun e he hk => h (List.mem_map.2 ⟨e, he, hk⟩)

/-- With one entry for a key it does not matter which entry counts. -/
theorem lookup?_reverse {es : List (String × α)} (h : (es.map (·.1)).Nodup) (k : String) :
    lookup? k es.reverse = lookup? k es := by
  induction es with
  | nil => rfl
  | cons e es ih =>
    obtain ⟨he, hes⟩ := List.nodup_cons.1 h
    rw [List.reverse_cons, lookup?_append, ih hes]
    simp only [lookup?]
    split
    · rename_i hk
      rw [lookup?_eq_none_of_notMem (hk ▸ he), Option.none_or]
    · exact Option.or_none

/-- With one entry for a key it is found among chosen entries if it is chosen. -/
theorem lookup?_filter {es : List (String × α)} (h : (es.map (·.1)).Nodup) (p : α → Bool)
    (k : String) : lookup? k (es.filter fun e => p e.2) = (lookup? k es).filter p := by
  induction es with
  | nil => rfl
  | cons e es ih =>
    obtain ⟨he, hes⟩ := List.nodup_cons.1 h
    by_cases hk : e.1 = k
    · have hnone : lookup? k es = none := lookup?_eq_none_of_notMem (hk ▸ he)
      cases hp : p e.2 <;> simp [lookup?, hk, hp, ih hes, hnone, Option.filter]
    · cases hp : p e.2 <;> simp [lookup?, hk, hp, ih hes]

/-- An entry is found if every entry with its key has its value. -/
theorem lookup?_eq_some_of_mem {k : String} {v : α} {es : List (String × α)} (h : (k, v) ∈ es)
    (hone : ∀ e ∈ es, e.1 = k → e.2 = v) : lookup? k es = some v := by
  induction es with
  | nil => cases h
  | cons e es ih =>
    by_cases he : e.1 = k
    · rw [lookup?, if_pos he, hone e List.mem_cons_self he]
    · have htail : (k, v) ∈ es := by
        rcases List.mem_cons.1 h with rfl | h
        · exact absurd rfl he
        · exact h
      rw [lookup?, if_neg he]
      exact ih htail fun x hx => hone x (List.mem_cons_of_mem e hx)

theorem nodup_keys (d : Dict α) : d.keys.Nodup := by
  rw [keys, List.nodup_iff_pairwise_ne, List.pairwise_map]
  exact d.sorted.imp fun h => Std.ne_of_lt h

/-- **A dictionary is made of its own entries.** -/
theorem ofList_entries (d : Dict α) : ofList d.entries = d := by
  refine ext_get? fun k => ?_
  rw [ofList, get?_insertAll, lookup?_reverse d.nodup_keys, get?_empty, Option.or_none]
  rfl

end Dict

end WrappedTraining
