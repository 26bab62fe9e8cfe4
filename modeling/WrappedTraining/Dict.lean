/-!
# Dictionaries with text keys

`Dict α` holds its entries in strictly increasing order of their keys, so that it is written in
one way only and two dictionaries with the same entries are equal.

* `insert` replaces the value of a key that is present (`get?_insert`);
* `insertAll` inserts entries from left to right, so that the last entry of a key wins.
-/

namespace WrappedTraining

/-- Entries with texts as keys, in strictly increasing order of the keys. -/
structure Dict (α : Type) where
  /-- The entries. -/
  entries : List (String × α)
  /-- Keys increase strictly from entry to entry. -/
  sorted : entries.Pairwise fun a b => a.1 < b.1
deriving DecidableEq

namespace Dict

variable {α : Type}

/-- The dictionary without entries. -/
def empty : Dict α := ⟨[], List.Pairwise.nil⟩

instance : Inhabited (Dict α) := ⟨empty⟩

/-- There is no entry. -/
def isEmpty (d : Dict α) : Bool := d.entries.isEmpty

/-- The keys in increasing order. -/
def keys (d : Dict α) : List String := d.entries.map (·.1)

/-- The values in the order of their keys. -/
def values (d : Dict α) : List α := d.entries.map (·.2)

/-! ### Looking up -/

/-- The value of the first entry with the key `k`. -/
def lookup? (k : String) : List (String × α) → Option α
  | [] => none
  | e :: es => if e.1 = k then some e.2 else lookup? k es

/-- The value of a key. -/
def get? (d : Dict α) (k : String) : Option α := lookup? k d.entries

/-! ### Inserting -/

/-- Put an entry at its place among entries in increasing order. -/
def place (k : String) (v : α) : List (String × α) → List (String × α)
  | [] => [(k, v)]
  | e :: es =>
    if k < e.1 then (k, v) :: e :: es
    else if k = e.1 then (k, v) :: es
    else e :: place k v es

theorem mem_place {k : String} {v : α} {es : List (String × α)} {x : String × α}
    (h : x ∈ place k v es) : x = (k, v) ∨ x ∈ es := by
  induction es with
  | nil => simpa [place] using h
  | cons e es ih =>
    simp only [place] at h
    split at h
    · simpa using h
    · split at h
      · rcases List.mem_cons.1 h with h | h
        · exact .inl h
        · exact .inr (List.mem_cons_of_mem e h)
      · simp only [List.mem_cons] at h ⊢
        rcases h with h | h
        · exact .inr (.inl h)
        · exact (ih h).imp id .inr

theorem pairwise_place (k : String) (v : α) {es : List (String × α)}
    (h : es.Pairwise fun a b => a.1 < b.1) : (place k v es).Pairwise fun a b => a.1 < b.1 := by
  induction es with
  | nil => simp [place]
  | cons e es ih =>
    have ⟨he, hes⟩ := List.pairwise_cons.1 h
    simp only [place]
    split
    · next hk =>
      refine List.pairwise_cons.2 ⟨fun x hx => ?_, h⟩
      rcases List.mem_cons.1 hx with rfl | hx
      · exact hk
      · exact String.lt_trans hk (he x hx)
    · next hk =>
      split
      · next hke => exact List.pairwise_cons.2 ⟨fun x hx => hke ▸ he x hx, hes⟩
      · next hke =>
        refine List.pairwise_cons.2 ⟨fun x hx => ?_, ih hes⟩
        rcases mem_place hx with rfl | hx
        · exact Std.lt_of_le_of_ne (String.not_lt.1 hk) (Ne.symm hke)
        · exact he x hx

/-- The dictionary with the value of `k` set to `v`. -/
def insert (d : Dict α) (k : String) (v : α) : Dict α :=
  ⟨place k v d.entries, pairwise_place k v d.sorted⟩

/-- The dictionary with all entries inserted, from left to right. -/
def insertAll (d : Dict α) (es : List (String × α)) : Dict α :=
  es.foldl (fun d e => d.insert e.1 e.2) d

/-- The dictionary of a list of entries; the last entry of a key wins. -/
def ofList (es : List (String × α)) : Dict α := empty.insertAll es

theorem lookup?_place (k j : String) (v : α) (es : List (String × α)) :
    lookup? j (place k v es) = if j = k then some v else lookup? j es := by
  induction es with
  | nil => simp [place, lookup?, eq_comm]
  | cons e es ih =>
    simp only [place]
    split
    · simp [lookup?, eq_comm]
    · split
      · next hk =>
        subst hk
        by_cases h : e.1 = j
        · simp [lookup?, h]
        · simp [lookup?, h, Ne.symm h]
      · next hk =>
        by_cases h : e.1 = j
        · subst h; simp [lookup?, Ne.symm hk]
        · simp [lookup?, h, ih]

@[simp] theorem get?_empty (k : String) : (empty : Dict α).get? k = none := rfl

@[simp] theorem get?_insert (d : Dict α) (k j : String) (v : α) :
    (d.insert k v).get? j = if j = k then some v else d.get? j :=
  lookup?_place k j v d.entries

end Dict

end WrappedTraining
