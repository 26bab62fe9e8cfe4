import Mathlib.Data.List.Nodup
import WrappedTraining.Json.Field
import WrappedTraining.Proofs.Dict

/-!
# Records that read back as they were written

A table of fields writes a record and reads it. What is written reads back if every value of the
record is written under a key of its own, and if a field that is left out reads as the value that
it was left out for.

* one lemma for each kind of value (`Json.int32?_ofInt32`, `Json.list?_map`, `Json.dict?_ofDict`);
* one for each kind of field, which says what reading makes of a record `a` after `r` was written
  (`Json.Field.read_write_required`, `Json.Field.read_write_omitted`);
* `Json.readBack?` : the record after all fields, read from what each of them wrote;
* `Json.Complete.readAll?` : a complete table reads back every record, whatever the order of the
  object and whatever else stands in it.
-/

namespace WrappedTraining

namespace Json

/-! ### Values -/

section Values

variable {α : Type} {encode : α → Json} {decode : Json → Option α}

theorem str?_str (s : String) : str? (.str s) = some s := rfl

theorem bool?_bool (b : Bool) : bool? (.bool b) = some b := rfl

theorem int32?_ofInt32 (n : Int32) : int32? (ofInt32 n) = some n := by
  have hlo := n.le_toInt
  have hhi := n.toInt_lt
  simp only [int32?, ofInt32, intIn?]
  rw [if_pos ⟨by omega, by omega⟩, Option.map_some, Int32.ofInt_toInt]

theorem int64?_ofInt64 (n : Int64) : int64? (ofInt64 n) = some n := by
  have hlo := n.le_toInt
  have hhi := n.toInt_lt
  simp only [int64?, ofInt64, intIn?]
  rw [if_pos ⟨by omega, by omega⟩, Option.map_some, Int64.ofInt_toInt]

theorem list?_map (h : ∀ x, decode (encode x) = some x) (xs : List α) :
    list? decode (.arr (xs.map encode)) = some xs := by
  show (xs.map encode).mapM decode = some xs
  induction xs with
  | nil => rfl
  | cons x xs ih =>
    rw [List.map_cons, List.mapM_cons, h x, ih]
    rfl

theorem entries?_map (h : ∀ x, decode (encode x) = some x) (es : List (String × α)) :
    entries? decode (es.map fun e => (e.1, encode e.2)) = some es := by
  induction es with
  | nil => rfl
  | cons e es ih => simp only [List.map_cons, entries?, h e.2, ih]

theorem dict?_ofDict (h : ∀ x, decode (encode x) = some x) (d : Dict α) :
    dict? decode (ofDict encode d) = some d := by
  simp only [dict?, ofDict]
  rw [entries?_map h, Option.map_some, Dict.ofList_entries]

theorem dict?_ofTexts (d : Dict String) : dict? str? (ofTexts d) = some d :=
  dict?_ofDict str?_str d

theorem lookup?_optional (k j : String) (v : Option Json) :
    Dict.lookup? k (optional j v) = if j = k then v else none := by
  cases v <;> simp [optional, Dict.lookup?]

/-- A field that is written when it has a value; no value is written as `null`. -/
theorem nullable?_of_field? {j : Json} {k : String} {v : Option α}
    (hfield : j.field? k = v.map encode) (h : ∀ x, decode (encode x) = some x)
    (hnull : ∀ x, encode x ≠ .null) : j.nullable? k decode = some v := by
  unfold nullable?
  rw [hfield]
  cases v with
  | none => rfl
  | some x =>
    rw [Option.map_some]
    split
    · rename_i heq
      cases heq
    · rename_i heq
      exact absurd (Option.some.inj heq) (hnull x)
    · rename_i heq
      rw [← Option.some.inj heq, h x, Option.map_some]

end Values

/-! ### Fields -/

namespace Field

variable {R α : Type}

section Kinds

variable {key : String} {encode : α → Json} {decode : Json → Option α}

theorem read_write_required {get : R → α} {set : R → α → R}
    (h : ∀ x, decode (encode x) = some x) (r a : R) :
    (required key get set encode decode).read ((required key get set encode decode).write r) a =
      some (set a (get r)) := by
  simp only [required, Option.bind_some, h, Option.map_some]

/-- The value that a field is left out for is the one that is read when the field is missing. -/
theorem read_write_omitted [DecidableEq α] {default : α} {get : R → α} {set : R → α → R}
    (h : ∀ x, x ≠ default → decode (encode x) = some x) (r a : R) :
    (omitted key default get set encode decode).read
      ((omitted key default get set encode decode).write r) a = some (set a (get r)) := by
  by_cases hdefault : get r = default
  · simp [omitted, hdefault]
  · simp only [omitted, if_neg hdefault, h _ hdefault, Option.map_some]

theorem read_write_list {get : R → List α} {set : R → List α → R}
    (h : ∀ x, decode (encode x) = some x) (r a : R) :
    (list key get set encode decode).read ((list key get set encode decode).write r) a =
      some (set a (get r)) :=
  read_write_required (list?_map h) r a

end Kinds

variable (key : String)

@[simp] theorem read_write_text (get : R → String) (set : R → String → R) (r a : R) :
    (text key get set).read ((text key get set).write r) a = some (set a (get r)) :=
  read_write_required str?_str r a

@[simp] theorem read_write_textOrEmpty (get : R → String) (set : R → String → R) (r a : R) :
    (textOrEmpty key get set).read ((textOrEmpty key get set).write r) a = some (set a (get r)) :=
  read_write_omitted (fun s _ => str?_str s) r a

@[simp] theorem read_write_number (get : R → Int32) (set : R → Int32 → R) (r a : R) :
    (number key get set).read ((number key get set).write r) a = some (set a (get r)) :=
  read_write_required int32?_ofInt32 r a

@[simp] theorem read_write_flag (get : R → Bool) (set : R → Bool → R) (r a : R) :
    (flag key get set).read ((flag key get set).write r) a = some (set a (get r)) :=
  read_write_required bool?_bool r a

@[simp] theorem read_write_texts (get : R → Dict String) (set : R → Dict String → R) (r a : R) :
    (texts key get set).read ((texts key get set).write r) a = some (set a (get r)) :=
  read_write_required dict?_ofTexts r a

@[simp] theorem read_write_textsOrEmpty (get : R → Dict String) (set : R → Dict String → R)
    (r a : R) :
    (textsOrEmpty key get set).read ((textsOrEmpty key get set).write r) a =
      some (set a (get r)) :=
  read_write_omitted (fun d _ => dict?_ofTexts d) r a

end Field

/-! ### Tables -/

variable {R : Type}

/-- The record `a` after every field of the table has read what `r` writes in that field. -/
def readBack? (table : List (Field R)) (r a : R) : Option R :=
  match table with
  | [] => some a
  | f :: fs => (f.read (f.write r) a).bind (readBack? fs r)

theorem readBack?_append (t u : List (Field R)) (r a : R) :
    readBack? (t ++ u) r a = (readBack? t r a).bind (readBack? u r) := by
  induction t generalizing a with
  | nil => rfl
  | cons f fs ih =>
    rw [List.cons_append, readBack?, readBack?, Option.bind_assoc]
    congr 1
    funext b
    exact ih b

theorem readFields?_eq_readBack? {table : List (Field R)} {j : Json} {r : R}
    (h : ∀ f ∈ table, j.field? f.key = f.write r) (a : R) :
    readFields? table j a = readBack? table r a := by
  induction table generalizing a with
  | nil => rfl
  | cons f fs ih =>
    obtain ⟨hf, hfs⟩ := List.forall_mem_cons.1 h
    rw [readFields?, readBack?, hf]
    congr 1
    funext b
    exact ih hfs b

theorem mem_writeFields {table : List (Field R)} {r : R} {e : String × Json} :
    e ∈ writeFields table r ↔ ∃ f ∈ table, f.key = e.1 ∧ f.write r = some e.2 := by
  simp only [writeFields, List.mem_filterMap, Option.map_eq_some_iff]
  constructor
  · rintro ⟨f, hf, j, hj, rfl⟩
    exact ⟨f, hf, rfl, hj⟩
  · rintro ⟨f, hf, hkey, hj⟩
    exact ⟨f, hf, e.2, hj, Prod.ext hkey rfl⟩

/-- With distinct keys, each field finds what was written for it and nothing else. -/
theorem lookup?_of_perm {table : List (Field R)} {r : R} {extra es : List (String × Json)}
    (hkeys : (table.map (·.key)).Nodup) (hextra : ∀ e ∈ extra, e.1 ∉ table.map (·.key))
    (hes : es.Perm (writeFields table r ++ extra)) {f : Field R} (hf : f ∈ table) :
    Dict.lookup? f.key es = f.write r := by
  -- an entry under the key of `f` was written by `f`, for no other field and no other entry has it
  have hone : ∀ e ∈ es, e.1 = f.key → f.write r = some e.2 := by
    intro e he hkey
    rcases List.mem_append.1 (hes.mem_iff.1 he) with he | he
    · obtain ⟨g, hg, hgkey, hwrite⟩ := mem_writeFields.1 he
      obtain rfl := List.inj_on_of_nodup_map hkeys hg hf (hgkey.trans hkey)
      exact hwrite
    · exact absurd (hkey ▸ List.mem_map_of_mem hf) (hextra e he)
  cases hwrite : f.write r with
  | none =>
    refine Dict.lookup?_eq_none_iff.2 fun e he hkey => ?_
    have := hone e he hkey
    rw [hwrite] at this
    cases this
  | some j =>
    have hmem : (f.key, j) ∈ es :=
      hes.mem_iff.2 (List.mem_append_left _ (mem_writeFields.2 ⟨f, hf, rfl, hwrite⟩))
    refine Dict.lookup?_eq_some_of_mem hmem fun e he hkey => ?_
    exact Option.some.inj ((hone e he hkey).symm.trans hwrite)

/-- A table that writes every part of a record, each under a key of its own. -/
structure Complete (table : List (Field R)) : Prop where
  keys : (table.map (·.key)).Nodup
  readBack : ∀ r a, readBack? table r a = some r

/-- **A complete table reads back every record** from an object with the fields that were written,
in any order and among fields with other keys. -/
theorem Complete.readAll? {table : List (Field R)} (h : Complete table) (initial r : R)
    {extra es : List (String × Json)} (hextra : ∀ e ∈ extra, e.1 ∉ table.map (·.key))
    (hes : es.Perm (writeFields table r ++ extra)) :
    Json.readAll? table initial (.obj es) = some r := by
  have hfield : ∀ f ∈ table, (Json.obj es).field? f.key = f.write r :=
    fun f hf => lookup?_of_perm h.keys hextra hes hf
  rw [Json.readAll?, readFields?_eq_readBack? hfield, h.readBack]

/-- What a complete table writes, it reads back. -/
theorem Complete.readAll?_writeAll {table : List (Field R)} (h : Complete table) (initial r : R) :
    Json.readAll? table initial (writeAll table r) = some r := by
  have hnone : ∀ e ∈ ([] : List (String × Json)), e.1 ∉ table.map (·.key) := nofun
  refine h.readAll? initial r hnone ?_
  rw [List.append_nil]

end Json

end WrappedTraining
