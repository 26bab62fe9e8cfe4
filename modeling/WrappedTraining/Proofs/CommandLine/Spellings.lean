import WrappedTraining.Proofs.CommandLine.Judged
import WrappedTraining.Proofs.CommandLine.Lossless

/-!
# Spellings of an option

An option with a letter can be written in five ways: `-e v`, `-ev`, `-e=v`, `--env v` and `--env=v`.

* `CommandSpec.Within.read` : a command takes at most one word of its own for each that is read;
* `Spelling.words` : the five ways;
* `CommandSpec.Accepts` : what an option that can be given next must fulfil, and how each of the
  five ways is read then;
* `SubmitOptions.withEntry` : what an option with a letter stores for `submit`;
* `read_spellings` : which of the ways agree for `submit`, whose command begins with any word that
  is no option.
-/

namespace WrappedTraining.CommandLine

/-! ### How many words a command takes -/

section Words

variable {σ : Type} {c : CommandSpec (Level σ)} {p q : Progress (Level σ)}
  {o : OptionSpec (Level σ)} {v w : String} {n : Nat}

/-- At most `n` words were taken, and none as long as options can follow; the option that is pending
is one of the command's. -/
structure CommandSpec.Within (c : CommandSpec (Level σ)) (n : Nat) (p : Progress (Level σ)) :
    Prop where
  pending_mem : ∀ x ∈ p.pending, x.1 ∈ c.options
  words_le : p.settings.words.length ≤ n
  words_eq_nil : p.literal = false → p.settings.words = []

/-- The command takes words as they are, and its options leave them alone. -/
structure CommandSpec.KeepsWords (c : CommandSpec (Level σ)) : Prop where
  positional : c.positional = .command Level.addWord
  takes : ∀ o ∈ c.options, ∀ {value? l l'}, o.Takes value? l l' → l'.words = l.words

namespace CommandSpec.Within

variable (hc : c.KeepsWords)

theorem mono (h : c.Within n p) {m : Nat} (hnm : n ≤ m) : c.Within m p :=
  ⟨h.pending_mem, Nat.le_trans h.words_le hnm, h.words_eq_nil⟩

include hc

theorem store (h : c.Within n p) (ho : o ∈ c.options) (hq : p.store o v = .ok q) :
    c.Within n q := by
  obtain ⟨-, value?, s, -, htakes, rfl⟩ := Progress.store_eq_ok_iff.1 hq
  have hwords : s.words = p.settings.words := hc.takes o ho htakes
  exact ⟨h.pending_mem, hwords ▸ h.words_le, hwords ▸ h.words_eq_nil⟩

theorem resolve (h : c.Within n p) (hq : p.resolve = .ok q) : c.Within n q := by
  rcases Progress.eq_or_early_of_resolve hq with ⟨rfl, -⟩ | ⟨o, v, hp, hstore⟩
  · exact h
  · have hnone : c.Within n { p with pending := none } :=
      ⟨by simp, h.words_le, h.words_eq_nil⟩
    exact hnone.store hc (h.pending_mem _ hp) hstore

theorem attached (h : c.Within n p) (ho : o ∈ c.options) (hq : p.attached o v = .ok q) :
    c.Within n q := by
  obtain ⟨p', hresolve, hstore⟩ := UsageError.bind_eq_ok_iff.1 hq
  exact (h.resolve hc hresolve).store hc ho hstore

theorem await (h : c.Within n p) (ho : o ∈ c.options) (hq : p.await o = .ok q) :
    c.Within n q := by
  obtain ⟨p', hresolve, hwait⟩ := UsageError.bind_eq_ok_iff.1 hq
  cases hwait
  have hp' := h.resolve hc hresolve
  refine ⟨fun x hx => ?_, hp'.words_le, hp'.words_eq_nil⟩
  cases hx
  exact ho

theorem readWord (h : c.Within n p) (hq : c.readWord p w = .ok q) : c.Within (n + 1) q := by
  rw [CommandSpec.readWord, hc.positional] at hq
  obtain ⟨p', hresolve, htake⟩ := UsageError.bind_eq_ok_iff.1 hq
  cases htake
  have hp' := h.resolve hc hresolve
  have hlength : (p'.settings.addWord w).words.length = p'.settings.words.length + 1 := by
    simp [Level.addWord]
  exact ⟨hp'.pending_mem, hlength ▸ Nat.succ_le_succ hp'.words_le, Bool.noConfusion⟩

theorem readPlain (h : c.Within n p) (hq : c.readPlain p w = .ok q) : c.Within (n + 1) q := by
  unfold CommandSpec.readPlain at hq
  split at hq
  · next o hp =>
    cases hq
    refine ⟨fun x hx => ?_, Nat.le_succ_of_le h.words_le, h.words_eq_nil⟩
    cases hx
    exact h.pending_mem (o, none) hp
  · exact h.readWord hc hq

theorem readLong (h : c.Within n p) (ho : o ∈ c.options) {value? : Option String}
    (hq : CommandSpec.readLong p o value? = .ok q) : c.Within n q := by
  unfold CommandSpec.readLong at hq
  split at hq
  · exact h.attached hc ho hq
  · exact h.await hc ho hq
  · cases hq
  · exact h.attached hc ho hq

theorem readShorts {letters : List Char} (h : c.Within n p)
    (hq : c.readShorts p letters = .ok q) : c.Within n q := by
  induction letters generalizing p with
  | nil =>
    cases hq
    exact h
  | cons letter rest ih =>
    unfold CommandSpec.readShorts at hq
    split at hq
    · cases hq
    · next o hfind =>
      have ho : o ∈ c.options := List.mem_of_find?_eq_some hfind
      split at hq
      · split at hq
        · exact h.await hc ho hq
        · exact h.attached hc ho hq
      · obtain ⟨p', halone, hrest⟩ := UsageError.bind_eq_ok_iff.1 hq
        exact ih (h.attached hc ho halone) hrest

theorem step (h : c.Within n p) (hq : c.step p w = .ok q) : c.Within (n + 1) q := by
  unfold CommandSpec.step at hq
  split at hq
  · exact h.readWord hc hq
  split at hq
  · split at hq
    · exact h.readPlain hc hq
    · cases hq
      exact ⟨h.pending_mem, Nat.le_succ_of_le h.words_le, Bool.noConfusion⟩
  · exact h.readPlain hc hq
  · split at hq
    · exact h.readPlain hc hq
    split at hq
    · next o hfind =>
      exact (h.readLong hc (List.mem_of_find?_eq_some hfind) hq).mono (Nat.le_succ n)
    · split at hq
      · exact h.readPlain hc hq
      · cases hq
  · split at hq
    · exact h.readPlain hc hq
    split at hq
    · exact h.readPlain hc hq
    · exact (h.readShorts hc hq).mono (Nat.le_succ n)

/-- Each word that is read is one word of the command at most. -/
theorem read {ws : List String} (h : c.Within n p) (hq : c.read p ws = .ok q) :
    c.Within (n + ws.length) q := by
  induction ws generalizing p n with
  | nil => exact h.resolve hc hq
  | cons w ws ih =>
    rw [CommandSpec.read] at hq
    obtain ⟨p', hstep, hread⟩ := UsageError.bind_eq_ok_iff.1 hq
    have hrest := ih (h.step hc hstep) hread
    rwa [List.length_cons, Nat.add_comm ws.length, ← Nat.add_assoc]

end CommandSpec.Within

end Words

/-! ### Five ways -/

/-- How an option with a letter and a name is written with a value. -/
inductive Spelling where
  /-- `-e v` -/
  | letterApart
  /-- `-ev` -/
  | letterAttached
  /-- `-e=v` -/
  | letterEquals
  /-- `--env v` -/
  | nameApart
  /-- `--env=v` -/
  | nameEquals
deriving DecidableEq

/-- The words of a spelling. -/
def Spelling.words (name : String) (letter : Char) (v : String) : Spelling → List String
  | .letterApart => [String.ofList ['-', letter], v]
  | .letterAttached => [String.ofList ('-' :: letter :: v.toList)]
  | .letterEquals => [String.ofList ('-' :: letter :: '=' :: v.toList)]
  | .nameApart => [(Given.mk name none).word, v]
  | .nameEquals => [(Given.mk name (some v)).word]

theorem Shape.ofWord_letters {letter : Char} (h : letter ≠ '-') (rest : List Char) :
    Shape.ofWord (String.ofList ('-' :: letter :: rest)) = .shorts (letter :: rest) := by
  unfold Shape.ofWord
  rw [String.toList_ofList]
  split
  · next heq =>
    cases heq
    exact absurd rfl h
  · next heq =>
    cases heq
    exact absurd rfl h
  · next heq =>
    cases heq
    rfl
  · next hne => exact absurd rfl (hne letter rest)

theorem attachedValue_toList {v : String} (h : v.toList.head? ≠ some '=') :
    CommandSpec.attachedValue v.toList = v := by
  unfold CommandSpec.attachedValue
  split
  · next heq => exact absurd (by rw [heq]; rfl) h
  · exact String.ofList_toList

section Spellings

variable {σ : Type} {c : CommandSpec σ} {p : Progress σ} {o : OptionSpec σ} {s : σ}
  {name v : String} {letter : Char} {back : List String}

/-- The option has the name and the letter, and can take the value now. -/
structure CommandSpec.Accepts (c : CommandSpec σ) (p : Progress σ) (o : OptionSpec σ)
    (name : String) (letter : Char) (v : String) (s : σ) : Prop where
  atRest : p.AtRest
  isLongName : IsLongName name
  long : c.long? name = some o
  isLetter : letter ≠ '-'
  short : c.short? letter = some o
  takes : o.Takes (some v) p.settings s
  fresh : o.repeats = true ∨ o.long ∉ p.seen

namespace CommandSpec.Accepts

variable (h : c.Accepts p o name letter v s)
include h

theorem exists_action : ∃ f, o.action = .value f := by
  have htakes := h.takes
  unfold OptionSpec.Takes at htakes
  split at htakes
  · next f _ hf _ => exact ⟨f, hf⟩
  · next heq => cases heq
  · exact htakes.elim

theorem store : p.store o v = .ok (p.after o s) :=
  Progress.store_eq_ok_iff.2 ⟨h.fresh, some v, s, by simp, h.takes, rfl⟩

theorem read_nameEquals :
    c.read p (Spelling.nameEquals.words name letter v ++ back) = c.read (p.after o s) back := by
  have hstep : c.step p (Given.mk name (some v)).word = .ok (p.after o s) :=
    step_word h.atRest h.isLongName h.long h.takes h.fresh
  rw [Spelling.words, List.singleton_append, read, hstep]
  rfl

theorem await : p.await o = .ok { p with pending := some (o, none) } := by
  rw [Progress.await, h.atRest.resolve]
  rfl

/-- The next word is the value if it does not look like an option. -/
theorem read_waiting (hv : v.toList.head? ≠ some '-') :
    c.read { p with pending := some (o, none) } (v :: back) = c.read (p.after o s) back := by
  have hstep : c.step { p with pending := some (o, none) } v =
      .ok { p with pending := some (o, some v) } := by
    rw [step, h.atRest.literal, Shape.ofWord_plain hv]
    rfl
  have hresolve : { p with pending := some (o, some v) }.resolve = .ok (p.after o s) := by
    have hp : { p with pending := none } = p := by rw [← h.atRest.pending]
    rw [← h.store, ← hp]
    rfl
  rw [read, hstep]
  exact read_of_resolve hresolve back

theorem read_nameApart (hv : v.toList.head? ≠ some '-') :
    c.read p (Spelling.nameApart.words name letter v ++ back) = c.read (p.after o s) back := by
  obtain ⟨f, hf⟩ := h.exists_action
  have hstep : c.step p (Given.mk name none).word = .ok { p with pending := some (o, none) } := by
    rw [← h.await, step, h.atRest.literal, Given.shape_word h.isLongName, h.atRest.takesAnyWord]
    simp only [Bool.false_eq_true, if_false, h.long, readLong, hf]
  rw [Spelling.words, List.cons_append, List.singleton_append, read, hstep]
  exact h.read_waiting hv

/-- Letters that are all known are options. -/
theorem step_letters {rest : List Char} (hrest : ∀ l ∈ rest, (c.short? l).isSome) :
    c.step p (String.ofList ('-' :: letter :: rest)) = c.readShorts p (letter :: rest) := by
  have hknown : (letter :: rest).any (fun l => (c.short? l).isNone) = false := by
    rw [List.any_eq_false]
    intro l hl
    rcases List.mem_cons.1 hl with rfl | hl
    · simp [h.short]
    · simpa [Option.isSome_iff_ne_none] using hrest l hl
  rw [step, h.atRest.literal, Shape.ofWord_letters h.isLetter, h.atRest.takesAnyWord]
  simp only [Bool.false_eq_true, if_false, hknown, Bool.and_false]

theorem read_letterApart (hv : v.toList.head? ≠ some '-') :
    c.read p (Spelling.letterApart.words name letter v ++ back) = c.read (p.after o s) back := by
  obtain ⟨f, hf⟩ := h.exists_action
  have hstep : c.step p (String.ofList ['-', letter]) =
      .ok { p with pending := some (o, none) } := by
    rw [h.step_letters (by simp)]
    simp only [readShorts, h.short, hf, if_true]
    exact h.await
  rw [Spelling.words, List.cons_append, List.singleton_append, read, hstep]
  exact h.read_waiting hv

theorem read_letterAttached (hne : v ≠ "") (hv : v.toList.head? ≠ some '=')
    (hknown : ∀ l ∈ v.toList, (c.short? l).isSome) :
    c.read p (Spelling.letterAttached.words name letter v ++ back) =
      c.read (p.after o s) back := by
  obtain ⟨f, hf⟩ := h.exists_action
  have hne' : v.toList ≠ [] := fun hnil => hne (String.toList_eq_nil_iff.1 hnil)
  have hstep : c.step p (String.ofList ('-' :: letter :: v.toList)) = .ok (p.after o s) := by
    rw [h.step_letters hknown]
    simp only [readShorts, h.short, hf, if_neg hne', attachedValue_toList hv, Progress.attached,
      h.atRest.resolve]
    exact h.store
  rw [Spelling.words, List.singleton_append, read, hstep]
  rfl

/-- A letter that no option has makes the whole word the first of the command. -/
theorem read_unknown {f : String → σ → σ} (hc : c.positional = .command f) {rest : List Char}
    {l : Char} (hl : l ∈ rest) (hnone : c.short? l = none) (back : List String) :
    ∃ q, c.read p (String.ofList ('-' :: letter :: rest) :: back) = .ok q ∧
      q.settings = (String.ofList ('-' :: letter :: rest) :: back).foldl (fun s w => f w s)
        p.settings := by
  have hunknown : (letter :: rest).any (fun l => (c.short? l).isNone) = true :=
    List.any_eq_true.2 ⟨l, List.mem_cons_of_mem _ hl, by rw [hnone]; rfl⟩
  have hstep : c.step p (String.ofList ('-' :: letter :: rest)) =
      .ok (p.afterWord (f (String.ofList ('-' :: letter :: rest)) p.settings)) := by
    rw [step, h.atRest.literal, Shape.ofWord_letters h.isLetter, h.atRest.takesAnyWord]
    simp only [Bool.false_eq_true, if_false, hunknown, hc, Positional.takesHyphens, Bool.and_self,
      if_true, readPlain, h.atRest.pending]
    exact readWord_command hc h.atRest.pending _
  have hnext : (p.afterWord (f (String.ofList ('-' :: letter :: rest)) p.settings)).pending =
      none := h.atRest.pending
  obtain ⟨q, hread, hq⟩ := read_literal hc back hnext rfl
  refine ⟨q, ?_, hq⟩
  rw [read, hstep]
  exact hread

end CommandSpec.Accepts

end Spellings

/-! ### The options of a submission -/

theorem keepsWords_submitSpec : submitSpec.KeepsWords := ⟨rfl, covers_submitSpec.words⟩

theorem letters_submitSpec :
    submitSpec.options.filterMap OptionSpec.short? = ['o', 'h', 'e', 'l'] := rfl

theorem isSome_short?_submitSpec {l : Char} :
    (submitSpec.short? l).isSome ↔ l ∈ ['e', 'l', 'o', 'h'] := by
  have hletters : (submitSpec.short? l).isSome ↔
      l ∈ submitSpec.options.filterMap OptionSpec.short? := by
    simp [CommandSpec.short?, List.find?_isSome, List.mem_filterMap]
  rw [hletters, letters_submitSpec]
  simp only [List.mem_cons, List.not_mem_nil, or_false]
  tauto

/-- The options with one more variable, or one more label. -/
def SubmitOptions.withEntry (name v : String) (o : SubmitOptions) : SubmitOptions :=
  match name with
  | "env" => { o with repeated := { o.repeated with env := o.repeated.env ++ [v] } }
  | "label" => { o with repeated := { o.repeated with label := o.repeated.label ++ [v] } }
  | _ => o

/-- The options of a submission that have a letter take any value, as often as they are given. -/
theorem exists_accepts {name v : String} {letter : Char}
    (hname : (name, letter) ∈ [("env", 'e'), ("label", 'l')])
    {p : Progress (Level SubmitOptions)} (hp : p.AtRest) :
    ∃ o, submitSpec.Accepts p o name letter v
      { p.settings with settings := p.settings.settings.withEntry name v } := by
  simp only [List.mem_cons, Prod.mk.injEq, List.not_mem_nil, or_false] at hname
  rcases hname with ⟨rfl, rfl⟩ | ⟨rfl, rfl⟩
  · exact ⟨_, hp, by decide, rfl, by decide, rfl, rfl, .inl rfl⟩
  · exact ⟨_, hp, by decide, rfl, by decide, rfl, rfl, .inl rfl⟩

section Submit

variable {front back : List String} {p q : Progress (Level SubmitOptions)} {name v : String}
  {letter : Char}

/-- What `submit` understands of its words. -/
def submitResult (p : Progress (Level SubmitOptions)) (ws : List String) :
    Except UsageError (Globals × Command) := do
  let l ← submitSpec.read p ws
  return (l.settings.globals, .submit l.settings.settings l.settings.words)

theorem submitResult_congr {p' : Progress (Level SubmitOptions)} {ws ws' : List String}
    (h : submitSpec.read p ws = submitSpec.read p' ws') :
    submitResult p ws = submitResult p' ws' := by
  rw [submitResult, h, submitResult]

theorem within_start : submitSpec.Within 0 (.start (.start .initial)) :=
  ⟨by simp [Progress.start], Nat.le_refl 0, fun _ => rfl⟩

/-- Words before the first of the command can be read on their own. -/
theorem read_submit_append (h : submitSpec.read (.start (.start .initial)) front = .ok q)
    (ws back : List String) :
    CommandName.submit.read (front ++ ws ++ back) = submitResult q (ws ++ back) := by
  rw [List.append_assoc, CommandName.read, CommandSpec.read_append h]
  rfl

theorem words_of_read (h : submitSpec.read (.start (.start .initial)) front = .ok q)
    (hlit : q.literal = false) : q.settings.words = [] :=
  (within_start.read keepsWords_submitSpec h).words_eq_nil hlit

section Accepted

variable {o : OptionSpec (Level SubmitOptions)} {l : Level SubmitOptions}
  (ha : submitSpec.Accepts p o name letter v l)
include ha

/-- A word with a letter that no option has is a word of the command, as is all that follows. -/
theorem submitResult_unknown (hwords : p.settings.words = []) {rest : List Char}
    (hrest : ∃ x ∈ rest, x ∉ ['e', 'l', 'o', 'h']) (back : List String) :
    submitResult p ([String.ofList ('-' :: letter :: rest)] ++ back) =
      .ok (p.settings.globals,
        .submit p.settings.settings ([String.ofList ('-' :: letter :: rest)] ++ back)) := by
  obtain ⟨x, hx, hunknown⟩ := hrest
  have hnone : submitSpec.short? x = none := by
    rwa [← isSome_short?_submitSpec, Option.not_isSome_iff_eq_none] at hunknown
  obtain ⟨t, ht, hsettings⟩ := ha.read_unknown rfl hx hnone back
  rw [Level.foldl_addWord, hwords, List.nil_append] at hsettings
  rw [List.singleton_append, submitResult, ht]
  simp only [bind, Except.bind, hsettings]
  rfl

theorem submitResult_after :
    submitResult (p.after o l) [] = .ok (l.globals, .submit l.settings l.words) := by
  rw [submitResult, CommandSpec.read, ha.atRest.after.resolve]
  rfl

/-- A word that was lost to the command leaves one more word than can follow the option. -/
theorem submitResult_ne (hwords : p.settings.words = []) {g : Globals} {t : SubmitOptions}
    {ws : List String} (hlength : back.length < ws.length) :
    .ok (g, .submit t ws) ≠ submitResult (p.after o l) back := by
  intro h
  obtain ⟨r, hread, hr⟩ := UsageError.bind_eq_ok_iff.1 h.symm
  have hafter : l.words = [] :=
    (covers_submitSpec.words o (List.mem_of_find?_eq_some ha.long) ha.takes).trans hwords
  have hstart : submitSpec.Within 0 (p.after o l) :=
    { pending_mem := by simp [ha.atRest.after.pending]
      words_le := by simp [Progress.after, hafter]
      words_eq_nil := fun _ => hafter }
  have hle := (hstart.read keepsWords_submitSpec hread).words_le
  cases hr
  omega

end Accepted

/-- **Which spellings agree.** After words that `submit` reads as options, an option with a letter
can be given with a value in three ways, whatever the value and whatever follows: `-e v`, `--env v`
and `--env=v`, and one more value is stored then. The way `-ev` is the same exactly if each
character of the value is itself a letter of an option, and `-e=v` is never the same: where it is
not, the word is the first of the command, to which all that follows belongs, and the value is not
stored. -/
theorem read_spellings (hfront : submitSpec.read (.start (.start .initial)) front = .ok q)
    (hlit : q.literal = false) (hname : (name, letter) ∈ [("env", 'e'), ("label", 'l')])
    (hne : v ≠ "") (hv : ∀ x ∈ v.toList.head?, x ≠ '-' ∧ x ≠ '=') (back : List String) :
    let read (s : Spelling) := CommandName.submit.read (front ++ s.words name letter v ++ back)
    CommandName.submit.read (front ++ Spelling.nameEquals.words name letter v) =
      .ok (q.settings.globals, .submit (q.settings.settings.withEntry name v) []) ∧
    read .letterApart = read .nameEquals ∧
    read .nameApart = read .nameEquals ∧
    (read .letterAttached = read .nameEquals ↔ ∀ x ∈ v.toList, x ∈ ['e', 'l', 'o', 'h']) ∧
    read .letterEquals ≠ read .nameEquals ∧
    ∀ s, s = .letterEquals ∨ s = .letterAttached ∧ (∃ x ∈ v.toList, x ∉ ['e', 'l', 'o', 'h']) →
      read s = .ok (q.settings.globals,
        .submit q.settings.settings (s.words name letter v ++ back)) := by
  intro read
  have hq : q.AtRest := ⟨CommandSpec.pending_of_read hfront, hlit⟩
  have hwords := words_of_read hfront hlit
  obtain ⟨o, ha⟩ := exists_accepts (v := v) hname hq
  have hhyphen : v.toList.head? ≠ some '-' := fun h => (hv '-' h).1 rfl
  have hequals : v.toList.head? ≠ some '=' := fun h => (hv '=' h).2 rfl
  -- each of the ways either stores the value, or is lost to the command
  have hread : ∀ s, read s = submitResult q (s.words name letter v ++ back) := fun s =>
    read_submit_append hfront _ back
  have hstored : read .nameEquals = submitResult (q.after o _) back :=
    (hread _).trans (submitResult_congr ha.read_nameEquals)
  have hlostEquals := (hread .letterEquals).trans
    (submitResult_unknown ha hwords ⟨'=', List.mem_cons_self, by decide⟩ back)
  have hlostAttached : (∃ x ∈ v.toList, x ∉ ['e', 'l', 'o', 'h']) → _ := fun h =>
    (hread .letterAttached).trans (submitResult_unknown ha hwords h back)
  refine ⟨?_, ?_, ?_, ⟨fun h => ?_, fun h => ?_⟩, ?_, ?_⟩
  · have hlast := read_submit_append hfront (Spelling.nameEquals.words name letter v) []
    rw [List.append_nil] at hlast
    rw [hlast, submitResult_congr ha.read_nameEquals, submitResult_after ha, hwords]
  · rw [hstored, hread, submitResult_congr (ha.read_letterApart hhyphen)]
  · rw [hstored, hread, submitResult_congr (ha.read_nameApart hhyphen)]
  · by_contra hunknown
    push Not at hunknown
    rw [hlostAttached hunknown, hstored] at h
    exact submitResult_ne ha hwords (by simp) h
  · have hknown : ∀ x ∈ v.toList, (submitSpec.short? x).isSome := fun x hx =>
      isSome_short?_submitSpec.2 (h x hx)
    rw [hstored, hread, submitResult_congr (ha.read_letterAttached hne hequals hknown)]
  · rw [hlostEquals, hstored]
    exact submitResult_ne ha hwords (by simp)
  · rintro s (rfl | ⟨rfl, hunknown⟩)
    · exact hlostEquals
    · exact hlostAttached hunknown

/-- A value with a digit and an equals sign, after an option and before a command. -/
theorem read_spellings_digit :
    let read (s : Spelling) :=
      CommandName.submit.read (["--name", "demo"] ++ s.words "env" 'e' "A=1" ++ ["sh"])
    read .letterApart = read .nameEquals ∧ read .nameApart = read .nameEquals ∧
      read .letterAttached ≠ read .nameEquals ∧ read .letterEquals ≠ read .nameEquals ∧
      read .letterAttached =
        .ok (.none, .submit { SubmitOptions.initial with name := "demo" } ["-eA=1", "sh"]) := by
  intro read
  have hfront : submitSpec.read (.start (.start .initial)) ["--name", "demo"] =
      .ok ⟨.start { SubmitOptions.initial with name := "demo" }, ["name"], none, 0, false⟩ := rfl
  have hname : ("env", 'e') ∈ [("env", 'e'), ("label", 'l')] := List.mem_cons_self
  have hne : "A=1" ≠ "" := by decide
  have hhead : "A=1".toList.head? = some 'A' := by decide
  have hv : ∀ x ∈ "A=1".toList.head?, x ≠ '-' ∧ x ≠ '=' := by
    intro x hx
    obtain rfl := Option.some.inj (hhead.symm.trans hx)
    decide
  have hdigit : '1' ∈ "A=1".toList ∧ '1' ∉ ['e', 'l', 'o', 'h'] := by decide
  obtain ⟨-, hletter, hlong, hattached, hequals, hwords⟩ :=
    read_spellings hfront rfl hname hne hv ["sh"]
  exact ⟨hletter, hlong, fun h => hdigit.2 (hattached.1 h '1' hdigit.1), hequals,
    hwords .letterAttached (.inr ⟨rfl, '1', hdigit⟩)⟩

/-- A value that is lost: its word is the first of a command. -/
theorem read_letterAttached_ne_letterApart :
    let attached := ["--name", "demo", "--image", "x", "-eA=1"]
    let apart := ["--name", "demo", "--image", "x", "-e", "A=1"]
    let o : SubmitOptions := { SubmitOptions.initial with name := "demo", image := "x" }
    let stored := { o with repeated := { RepeatedOptions.none with env := ["A=1"] } }
    CommandName.submit.read attached = .ok (.none, .submit o ["-eA=1"]) ∧
      CommandName.submit.read apart = .ok (.none, .submit stored []) ∧
      CommandName.submit.read attached ≠ CommandName.submit.read apart := by
  intro attached apart o stored
  have hattached : CommandName.submit.read attached = .ok (.none, .submit o ["-eA=1"]) := rfl
  have hapart : CommandName.submit.read apart = .ok (.none, .submit stored []) := rfl
  refine ⟨hattached, hapart, ?_⟩
  rw [hattached, hapart]
  simp

end Submit

end WrappedTraining.CommandLine
