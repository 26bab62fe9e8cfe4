import WrappedTraining.CommandLine.Grammar

/-!
# How single words are read

Between two options that are complete nothing waits for a value, so what the next word means depends
on its shape alone.

* `Given` : an option given by its long name, with the value in the same word;
* `CommandSpec.step_word` : such a word is read in one step, which stores the value;
* `CommandSpec.read_command` : from its first word on, a command takes everything;
* `CommandSpec.read_escape` : after `--` it takes everything at once.
-/

namespace WrappedTraining.CommandLine

/-! ### Shapes -/

/-- An option that is given by its long name, with a value or alone. -/
structure Given where
  name : String
  value? : Option String
deriving DecidableEq

/-- The text after the name. -/
def Given.tail (g : Given) : String :=
  match g.value? with
  | some v => "=" ++ v
  | none => ""

/-- The word for an option: `--name=value`, or `--name` alone. -/
def Given.word (g : Given) : String := "--" ++ g.name ++ g.tail

/-- A long name ends where its value begins. -/
def IsLongName (name : String) : Prop := name ≠ "" ∧ '=' ∉ name.toList

instance (name : String) : Decidable (IsLongName name) := inferInstanceAs (Decidable (_ ∧ _))

theorem Given.toList_word (g : Given) :
    g.word.toList = '-' :: '-' :: (g.name.toList ++ g.tail.toList) := by
  rw [word, String.toList_append, String.toList_append]
  rfl

theorem Shape.ofWord_of_hyphens {w : String} {cs : List Char} (hw : w.toList = '-' :: '-' :: cs)
    (hcs : cs ≠ []) :
    Shape.ofWord w =
      match Text.cutList? '=' cs with
      | some (name, value) => .long (String.ofList name) (some (String.ofList value))
      | none => .long (String.ofList cs) none := by
  cases cs with
  | nil => exact absurd rfl hcs
  | cons c cs =>
    rw [Shape.ofWord, hw]
    rfl

/-- A word for an option has the shape of a long option. -/
theorem Given.shape_word {g : Given} (h : IsLongName g.name) :
    Shape.ofWord g.word = .long g.name g.value? := by
  obtain ⟨hname, heq⟩ := h
  have hne : g.name.toList ++ g.tail.toList ≠ [] := fun hnil =>
    hname (String.toList_eq_nil_iff.1 (List.append_eq_nil_iff.1 hnil).1)
  rw [Shape.ofWord_of_hyphens g.toList_word hne]
  unfold Given.tail
  cases g.value? with
  | none =>
    rw [String.toList_empty, List.append_nil, Text.cutList?_eq_none_iff.2 heq]
    exact congrArg (Shape.long · none) String.ofList_toList
  | some v =>
    have hcut : Text.cutList? '=' (g.name.toList ++ ("=" ++ v).toList) =
        some (g.name.toList, v.toList) :=
      Text.cutList?_eq_some_iff.2 ⟨by rw [String.toList_append]; rfl, heq⟩
    rw [hcut]
    simp only [String.ofList_toList]

theorem Shape.ofWord_plain {w : String} (h : w.toList.head? ≠ some '-') :
    Shape.ofWord w = .plain := by
  unfold Shape.ofWord
  split
  · next hw => exact absurd (by rw [hw]; rfl) h
  · next hw => exact absurd (by rw [hw]; rfl) h
  · next hw => exact absurd (by rw [hw]; rfl) h
  · rfl

theorem Shape.ofWord_escape : Shape.ofWord "--" = .escape := by decide

/-! ### Options -/

section

variable {σ : Type} {c : CommandSpec σ} {p : Progress σ} {o : OptionSpec σ} {s s' : σ}

/-- Giving an option with a value or alone takes the settings `s` to `s'`. -/
def OptionSpec.Takes (o : OptionSpec σ) (value? : Option String) (s s' : σ) : Prop :=
  match o.action, value? with
  | .value store, some v => store v s = .ok s'
  | .switch set, none => set s = s'
  | _, _ => False

namespace Progress

/-- No option waits, and options can follow. -/
structure AtRest (p : Progress σ) : Prop where
  pending : p.pending = none
  literal : p.literal = false

/-- One more option was stored. -/
def after (p : Progress σ) (o : OptionSpec σ) (s : σ) : Progress σ :=
  { p with settings := s, seen := o.long :: p.seen }

theorem atRest_start (s : σ) : (start s).AtRest := ⟨rfl, rfl⟩

theorem AtRest.after (hp : p.AtRest) : (p.after o s).AtRest := ⟨hp.pending, hp.literal⟩

theorem AtRest.resolve (hp : p.AtRest) : p.resolve = .ok p := by
  rw [Progress.resolve, hp.pending]

theorem AtRest.isWaiting (hp : p.AtRest) : p.isWaiting = false := by
  rw [Progress.isWaiting, hp.pending]

theorem AtRest.takesAnyWord (hp : p.AtRest) : p.takesAnyWord = false := by
  rw [Progress.takesAnyWord, hp.pending]

theorem note_of_fresh (h : o.repeats = true ∨ o.long ∉ p.seen) :
    p.note o = .ok { p with seen := o.long :: p.seen } := by
  rw [note, if_neg]
  rintro hseen
  rw [Bool.and_eq_true, Bool.not_eq_true', List.contains_iff_mem] at hseen
  rcases h with h | h
  · exact Bool.noConfusion (h.symm.trans hseen.1)
  · exact h hseen.2

end Progress

/-- An option that can still be given is stored at once. -/
theorem CommandSpec.readLong_of_takes (hp : p.AtRest) {value? : Option String}
    (ht : o.Takes value? p.settings s) (hfresh : o.repeats = true ∨ o.long ∉ p.seen) :
    readLong p o value? = .ok (p.after o s) := by
  unfold OptionSpec.Takes at ht
  unfold readLong
  split at ht
  · next store v ha =>
    have hstore : p.store o v = .ok (p.after o s) := by
      rw [Progress.store, ha, Progress.note_of_fresh hfresh]
      simp only [bind, Except.bind, ht]
      rfl
    rw [ha]
    simp only [Progress.attached, hp.resolve]
    exact hstore
  · next set ha =>
    have hstore : p.store o "" = .ok (p.after o s) := by
      rw [Progress.store, ha, Progress.note_of_fresh hfresh, ← ht]
      rfl
    rw [ha]
    simp only [Progress.alone, hp.resolve]
    exact hstore
  · exact ht.elim

/-- **A word for an option** is read in one step, which stores the option. -/
theorem CommandSpec.step_word (hp : p.AtRest) {g : Given} (hname : IsLongName g.name)
    (ho : c.long? g.name = some o) (ht : o.Takes g.value? p.settings s)
    (hfresh : o.repeats = true ∨ o.long ∉ p.seen) :
    c.step p g.word = .ok (p.after o s) := by
  rw [step, hp.literal, Given.shape_word hname, hp.takesAnyWord]
  simp only [Bool.false_eq_true, if_false, ho]
  exact readLong_of_takes hp ht hfresh

/-! ### The words of a command -/

/-- One word of a command was taken, and only words follow. -/
def Progress.afterWord (p : Progress σ) (s : σ) : Progress σ :=
  { p with settings := s, words := p.words + 1, literal := true }

variable {f : String → σ → σ}

theorem CommandSpec.readWord_command (hc : c.positional = .command f) (hp : p.pending = none)
    (w : String) : c.readWord p w = .ok (p.afterWord (f w p.settings)) := by
  have hresolve : p.resolve = .ok p := by rw [Progress.resolve, hp]
  rw [readWord, hc]
  simp only [hresolve]
  rfl

/-- After the first word a command takes everything, whatever it looks like. -/
theorem CommandSpec.read_literal (hc : c.positional = .command f) (words : List String)
    (hp : p.pending = none) (hlit : p.literal = true) :
    ∃ q, c.read p words = .ok q ∧ q.settings = words.foldl (fun s w => f w s) p.settings := by
  induction words generalizing p with
  | nil => exact ⟨p, by rw [read, Progress.resolve, hp], rfl⟩
  | cons w words ih =>
    have hnext : (p.afterWord (f w p.settings)).pending = none := hp
    obtain ⟨q, hread, hq⟩ := ih hnext rfl
    refine ⟨q, ?_, hq⟩
    rw [read, step, if_pos hlit, readWord_command hc hp]
    exact hread

/-- **The words of a command** are all taken if the first has no hyphen in front. -/
theorem CommandSpec.read_command (hc : c.positional = .command f) {words : List String}
    (hw : ∀ w ∈ words.head?, w.toList.head? ≠ some '-') (hp : p.AtRest) :
    ∃ q, c.read p words = .ok q ∧ q.settings = words.foldl (fun s w => f w s) p.settings := by
  cases words with
  | nil => exact ⟨p, hp.resolve, rfl⟩
  | cons w words =>
    have hstep : c.step p w = .ok (p.afterWord (f w p.settings)) := by
      rw [step, hp.literal, Shape.ofWord_plain (hw w rfl)]
      simp only [Bool.false_eq_true, if_false, readPlain, hp.pending]
      exact readWord_command hc hp.pending w
    have hnext : (p.afterWord (f w p.settings)).pending = none := hp.pending
    obtain ⟨q, hread, hq⟩ := read_literal hc words hnext rfl
    refine ⟨q, ?_, hq⟩
    rw [read, hstep]
    exact hread

/-- After `--` every word is taken. -/
theorem CommandSpec.read_escape (hc : c.positional = .command f) (words : List String)
    (hp : p.AtRest) :
    ∃ q, c.read p ("--" :: words) = .ok q ∧
      q.settings = words.foldl (fun s w => f w s) p.settings := by
  have hstep : c.step p "--" = .ok { p with literal := true } := by
    rw [step, hp.literal, Shape.ofWord_escape, hp.takesAnyWord]
    rfl
  have hnext : { p with literal := true }.pending = none := hp.pending
  rw [read, hstep]
  exact read_literal hc words hnext rfl

end

end WrappedTraining.CommandLine
