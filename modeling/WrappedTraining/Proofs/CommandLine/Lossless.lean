import WrappedTraining.Proofs.CommandLine.Written

/-!
# Reading what is written

The options of a submission are written as words of a command line, and nothing of it is lost:
neither a value that is empty or looks like an option, nor a word of the command that does.

* `Writes.exists_levels` : which global options stand before the name of the command, and which
  after it;
* `Invocation.read_of_writes` : reading gives back what was written.
-/

namespace WrappedTraining.CommandLine

/-- At the start everything that is written is still to be given. -/
theorem pending_start {σ : Type} {fields : List (Field (Level σ))} {start goal : Level σ}
    {gs : List Given} (hknown : ∀ g ∈ gs, ∃ f ∈ fields, f.name = g.name)
    (h : ∀ f ∈ fields, (f.held start).Written (f.held goal) (occurrences f.name gs)) :
    Pending fields goal (.start start) gs where
  atRest := Progress.atRest_start start
  known := hknown
  holds f hf := (h f hf).giveAll_eq
  once f hf := (h f hf).once.imp_right (by simp [Progress.start])

theorem Level.foldl_addWord {σ : Type} (words : List String) (l : Level σ) :
    words.foldl (fun l w => l.addWord w) l = { l with words := l.words ++ words } := by
  induction words generalizing l with
  | nil => rw [List.append_nil]; rfl
  | cons w words ih => rw [List.foldl_cons, ih, addWord, List.append_assoc]; rfl

/-- The name of a command is no option. -/
theorem CommandName.head_ne_hyphen {w : String} {name : CommandName} (h : ofWord? w = some name) :
    w.toList.head? ≠ some '-' := by
  unfold ofWord? at h
  split_ifs at h <;> subst_vars <;> decide

theorem Invocation.readFrom_word {env? : Option String} {p : Progress (Level Unit)} {g : Given}
    (rest : List String) (hp : p.AtRest) (hname : IsLongName g.name) :
    readFrom env? p (g.word :: rest) = topSpec.step p g.word >>= (readFrom env? · rest) := by
  have hcommand : CommandName.ofWord? g.word = none := by
    cases h : CommandName.ofWord? g.word with
    | none => rfl
    | some name =>
      exact absurd (by rw [Given.toList_word]; rfl) (CommandName.head_ne_hyphen h)
  rw [readFrom, hcommand, hp.literal, hp.isWaiting, Given.shape_word hname]
  rfl

/-- The global options before the name of a command are put together with those after it. -/
theorem Invocation.readFrom_command {env? : Option String} {p : Progress (Level Unit)}
    (hp : p.AtRest) {w : String} {name : CommandName} (hname : CommandName.ofWord? w = some name)
    {rest : List String} {inner : Globals} {command : Command}
    (h : name.read rest = .ok (inner, command)) :
    readFrom env? p (w :: rest) = .ok (ofLevels p.settings.globals inner env? command) := by
  rw [readFrom, hp.literal, hp.isWaiting, hname]
  simp only [Bool.or_self, Bool.false_eq_true, if_false, h, hp.resolve]
  rfl

section

variable {front back : List Given} {output? : Option OutputFormat} {ns? : Option String}
  {o : SubmitOptions}

/-- Global options stand on either level, and the levels put together are what was written. -/
theorem Writes.exists_levels (h : Writes front back output? ns? o) :
    ∃ top inner : Globals,
      Pending (Level.fieldsWith []) ⟨top, (), []⟩ (.start (.start ())) front ∧
      Pending (Level.fieldsWith SubmitOptions.fields) ⟨inner, o, []⟩ (.start (.start .initial))
        back ∧
      inner.orElse top = ⟨output?, ns?⟩ := by
  obtain ⟨outerForm, innerForm, hform, hform', rfl⟩ :=
    Held.Written.exists_or .form (occurrences_append .. ▸ h.output) rfl
  obtain ⟨outerNs, innerNs, hns, hns', rfl⟩ :=
    Held.Written.exists_or .optional (occurrences_append .. ▸ h.ns) rfl
  refine ⟨⟨outerForm, outerNs⟩, ⟨innerForm, innerNs⟩, pending_start (fun g hg => ?_) ?_,
    pending_start (fun g hg => ?_) ?_, rfl⟩
  · exact List.mem_map.1 (h.front_names g hg)
  · intro f hf
    rcases Level.mem_fieldsWith.1 hf with rfl | rfl | ⟨f', hf', rfl⟩
    · exact hform
    · exact hns
    · exact absurd hf' List.not_mem_nil
  · have hname := h.back_names g hg
    rw [SubmitOptions.names_fields, ← Level.names_fieldsWith] at hname
    exact List.mem_map.1 hname
  · intro f hf
    rcases Level.mem_fieldsWith.1 hf with rfl | rfl | ⟨f', hf', rfl⟩
    · exact hform'
    · exact hns'
    · exact h.own f' hf'

/-- The options are read as written, and what follows them is left to the command. -/
theorem Writes.read_eq (h : Writes front back output? ns? o) {rest words : List String}
    (hrest : ∀ p : Progress (Level SubmitOptions), p.AtRest → ∃ q, submitSpec.read p rest = .ok q ∧
      q.settings = words.foldl (fun l w => l.addWord w) p.settings) :
    Invocation.read none (front.map Given.word ++ "submit" :: (back.map Given.word ++ rest)) =
      .ok ⟨output?.getD .human, ns?.getD Invocation.defaultNamespace, .submit o words⟩ := by
  obtain ⟨top, inner, htop, hinner, hlevels⟩ := h.exists_levels
  obtain ⟨p, hfront, hp, -⟩ := covers_topSpec.run (Invocation.readFrom none)
    Invocation.readFrom_word htop
  obtain ⟨q, hback, hq, hqwords⟩ := covers_submitSpec.run submitSpec.read (fun _ _ _ => rfl) hinner
  obtain ⟨r, hread, hr⟩ := hrest q hq.atRest
  have hglobals : p.settings.globals = top := (Level.globals_eq_of_held fun _ hf => hp.held_eq hf).1
  obtain ⟨hinnerGlobals, hown⟩ := Level.globals_eq_of_held fun _ hf => hq.held_eq hf
  have ho : q.settings.settings = o := SubmitOptions.eq_of_held (List.map_congr_left hown)
  rw [Level.foldl_addWord, hqwords] at hr
  have hcommand : CommandName.submit.read (back.map Given.word ++ rest) =
      .ok (inner, .submit o words) := by
    rw [CommandName.read, hback, hread]
    simp only [bind, Except.bind, hr, hinnerGlobals, ho]
    rfl
  rw [Invocation.read, hfront, Invocation.readFrom_command hp.atRest rfl hcommand, hglobals,
    Invocation.ofLevels, hlevels, Option.or_none]

/-- **Nothing is lost.** Options and words that are written as a command line are read as they were,
with the defaults for what is not written. After `--` the words can start with a hyphen. -/
theorem Invocation.read_of_writes (h : Writes front back output? ns? o) (words : List String) :
    ((∀ w ∈ words.head?, w.toList.head? ≠ some '-') →
      read none (front.map Given.word ++ "submit" :: (back.map Given.word ++ words)) =
        .ok ⟨output?.getD .human, ns?.getD defaultNamespace, .submit o words⟩) ∧
    read none (front.map Given.word ++ "submit" :: (back.map Given.word ++ "--" :: words)) =
      .ok ⟨output?.getD .human, ns?.getD defaultNamespace, .submit o words⟩ :=
  ⟨fun hwords => h.read_eq fun _ hp => CommandSpec.read_command rfl hwords hp,
   h.read_eq fun _ hp => CommandSpec.read_escape rfl words hp⟩

/-- Values that are empty or look like options, one option twice with others between, and a command
whose words look like options of its own. -/
theorem Invocation.read_of_writes_hyphens :
    let front : List Given := [⟨"ns", some "-x"⟩]
    let back : List Given :=
      [⟨"env", some "--rdma"⟩, ⟨"name", some ""⟩, ⟨"output", some "json"⟩, ⟨"rdma", none⟩,
       ⟨"gpus", some "-2147483648"⟩, ⟨"running-timeout", some "-1h30m"⟩,
       ⟨"use-svc-plugin", some "false"⟩, ⟨"env", some ""⟩]
    let o : SubmitOptions := { SubmitOptions.initial with
      name := ""
      gpus := -2147483648
      repeated := { RepeatedOptions.none with env := ["--rdma", ""] }
      rdma := true
      runningTimeout := .ofSeconds (-5400)
      task := { SubmitOptions.initial.task with useServicePlugin := some false } }
    Writes front back (some .json) (some "-x") o ∧
      read none ["--ns=-x", "submit", "--env=--rdma", "--name=", "--output=json", "--rdma",
        "--gpus=-2147483648", "--running-timeout=-1h30m", "--use-svc-plugin=false", "--env=",
        "sh", "--", "--ns=y", "-e"] = .ok ⟨.json, "-x", .submit o ["sh", "--", "--ns=y", "-e"]⟩ ∧
      read none ["--ns=-x", "submit", "--env=--rdma", "--name=", "--output=json", "--rdma",
        "--gpus=-2147483648", "--running-timeout=-1h30m", "--use-svc-plugin=false", "--env=",
        "--", "--gang", "--"] = .ok ⟨.json, "-x", .submit o ["--gang", "--"]⟩ := by
  intro front back o
  have h : Writes front back (some .json) (some "-x") o :=
    { front_names := by decide
      back_names := by decide +kernel
      output := .form none .json
      ns := .optional none "-x"
      own := by
        rw [← List.forall_iff_forall_mem]
        simp only [SubmitOptions.fields, List.Forall]
        and_intros
        any_goals exact .absent _
        · exact .texts ["--rdma", ""]
        · exact .text _ ""
        · exact .number _ (-2147483648)
        · exact .switch _
        · exact .span _ (by decide +kernel)
        · exact .truth _ false }
  exact ⟨h, (read_of_writes h ["sh", "--", "--ns=y", "-e"]).1 (by decide),
    (read_of_writes h ["--gang", "--"]).2⟩

end

end WrappedTraining.CommandLine
