import Mathlib.Data.List.Nodup
import WrappedTraining.CommandLine.Invocation
import WrappedTraining.Proofs.CommandLine.Words

/-!
# Options as fields of the settings

Each option of a command owns a field of the settings: it is all that the option changes. In a row
of options a field therefore depends on the occurrences of its own option alone, wherever the others
stand.

* `Held`, `Held.give` : what a field holds, and how an option that is given changes it;
* `Covers` : fields of a command, each with an option of its own;
* `Pending` : the invariant of a row of options, which speaks of what is still to be read;
* `Covers.run` : reading a row of options.
-/

namespace WrappedTraining.CommandLine

/-! ### What a field holds -/

/-- What a field of the settings holds. -/
inductive Held where
  | text (v : String)
  | number (n : Int32)
  | span (d : Span)
  | switch (on : Bool)
  | truth (b? : Option Bool)
  | texts (vs : List String)
  | form (f? : Option OutputFormat)
  | optional (v? : Option String)

namespace Held

/-- What the field holds after its option was given once more, if that is possible. -/
def give : Held → Option String → Option Held
  | .text _, some v => some (.text v)
  | .number _, some v => (Text.int32? v).map .number
  | .span _, some v => (Span.parse v).toOption.map .span
  | .switch _, none => some (.switch true)
  | .truth _, some v => (SubmitOptions.truth? v).map fun b => .truth (some b)
  | .texts vs, some v => some (.texts (vs ++ [v]))
  | .form _, some v => (OutputFormat.ofName? v).map fun f => .form (some f)
  | .optional _, some v => some (.optional (some v))
  | _, _ => none

/-- What the field holds after its option was given some more times. -/
def giveAll (h : Held) (values : List (Option String)) : Option Held := values.foldlM give h

/-- The option can be given more than once. -/
def repeats : Held → Bool
  | .texts _ => true
  | _ => false

theorem repeats_of_give {h h' : Held} {value? : Option String} (hg : h.give value? = some h') :
    h'.repeats = h.repeats := by
  cases h <;> cases value? <;> simp only [give, Option.map_eq_some_iff, Option.some.injEq,
    reduceCtorEq] at hg
  all_goals first | (subst hg; rfl) | (obtain ⟨_, -, rfl⟩ := hg; rfl)

end Held

/-- The values that an option is given, in order. -/
def occurrences (name : String) : List Given → List (Option String)
  | [] => []
  | g :: gs => if g.name = name then g.value? :: occurrences name gs else occurrences name gs

theorem occurrences_cons_self (g : Given) (gs : List Given) :
    occurrences g.name (g :: gs) = g.value? :: occurrences g.name gs := by
  rw [occurrences, if_pos rfl]

theorem occurrences_cons_of_ne {name : String} {g : Given} (h : g.name ≠ name)
    (gs : List Given) : occurrences name (g :: gs) = occurrences name gs := by
  rw [occurrences, if_neg h]

theorem occurrences_append (name : String) (gs gs' : List Given) :
    occurrences name (gs ++ gs') = occurrences name gs ++ occurrences name gs' := by
  induction gs with
  | nil => rfl
  | cons g gs ih =>
    by_cases h : g.name = name
    · simp [occurrences, h, ih]
    · simp [occurrences, h, ih]

/-! ### Fields of a command -/

/-- A field of the settings `σ`, under the name of its option. -/
structure Field (σ : Type) where
  name : String
  held : σ → Held

section

variable {σ : Type}

/-- The option changes the field as it is given, and no other field. -/
structure OptionSpec.Fills (o : OptionSpec σ) (fields : List (Field σ)) (f : Field σ) : Prop where
  repeats : ∀ s, o.repeats = (f.held s).repeats
  takes : ∀ {s value? h}, (f.held s).give value? = some h →
    ∃ s', o.Takes value? s s' ∧ f.held s' = h ∧
      ∀ e ∈ fields, e.name ≠ f.name → e.held s' = e.held s

/-- **Fields with an option each**; the options leave the words of the command alone. -/
structure Covers (c : CommandSpec (Level σ)) (fields : List (Field (Level σ))) : Prop where
  nodup : (fields.map Field.name).Nodup
  names : ∀ f ∈ fields, IsLongName f.name
  fills : ∀ f ∈ fields, ∃ o, c.long? f.name = some o ∧ o.Fills fields f
  words : ∀ o ∈ c.options, ∀ {value? l l'}, o.Takes value? l l' → l'.words = l.words

/-- **What is still to be given** leads from the progress `p` to what the fields hold in `goal`,
and gives no option too often. -/
structure Pending (fields : List (Field (Level σ))) (goal : Level σ) (p : Progress (Level σ))
    (gs : List Given) : Prop where
  atRest : p.AtRest
  known : ∀ g ∈ gs, ∃ f ∈ fields, f.name = g.name
  holds : ∀ f ∈ fields,
    (f.held p.settings).giveAll (occurrences f.name gs) = some (f.held goal)
  once : ∀ f ∈ fields, (f.held p.settings).repeats = true ∨
    p.seen.count f.name + (occurrences f.name gs).length ≤ 1

/-- Where names are unique, an option is found under its own. -/
theorem CommandSpec.long?_of_mem {c : CommandSpec σ} (hc : (c.options.map OptionSpec.long).Nodup)
    {o : OptionSpec σ} (ho : o ∈ c.options) : c.long? o.long = some o := by
  cases hfind : c.long? o.long with
  | none => exact absurd (List.find?_eq_none.1 hfind o ho) (by simp)
  | some o' =>
    have hlong : o'.long = o.long := by simpa using List.find?_some hfind
    rw [List.inj_on_of_nodup_map hc (List.mem_of_find?_eq_some hfind) ho hlong]

variable {c : CommandSpec (Level σ)} {fields : List (Field (Level σ))} {goal : Level σ}
  {p : Progress (Level σ)}

theorem Pending.held_eq (h : Pending fields goal p []) {f : Field (Level σ)} (hf : f ∈ fields) :
    f.held p.settings = f.held goal :=
  Option.some.inj (h.holds f hf)

/-- One option of a row is read, and the rest still leads to the goal. -/
theorem Covers.step (hc : Covers c fields) {g : Given} {gs : List Given}
    (h : Pending fields goal p (g :: gs)) :
    ∃ q, c.step p g.word = .ok q ∧ Pending fields goal q gs ∧
      q.settings.words = p.settings.words := by
  obtain ⟨f, hf, hname⟩ := h.known g List.mem_cons_self
  obtain ⟨o, ho, hfills⟩ := hc.fills f hf
  have hmem : o ∈ c.options := List.mem_of_find?_eq_some ho
  have hlong : o.long = f.name := by simpa using List.find?_some ho
  -- the field of this option goes one occurrence on its way, and all others stay
  have hholds := h.holds f hf
  have honce := h.once f hf
  rw [hname, occurrences_cons_self] at hholds honce
  rw [Held.giveAll, List.foldlM_cons] at hholds
  obtain ⟨h₁, hgive, hrest⟩ := Option.bind_eq_some_iff.1 hholds
  obtain ⟨l, htakes, hheld, hother⟩ := hfills.takes hgive
  have hfresh : o.repeats = true ∨ o.long ∉ p.seen := by
    refine honce.imp ((hfills.repeats p.settings).trans ·) fun hcount hseen => ?_
    have := List.count_pos_iff.2 hseen
    rw [List.length_cons, ← hname, ← hlong] at hcount
    omega
  have hnext : ∀ e ∈ fields,
      (e.held l).giveAll (occurrences e.name gs) = some (e.held goal) ∧
        ((e.held l).repeats = true ∨
          (o.long :: p.seen).count e.name + (occurrences e.name gs).length ≤ 1) := by
    intro e he
    by_cases hef : e.name = f.name
    · obtain rfl := List.inj_on_of_nodup_map hc.nodup he hf hef
      rw [hheld, Held.repeats_of_give hgive, hlong, List.count_cons_self, hname]
      rw [List.length_cons] at honce
      exact ⟨hrest, honce.imp_right (by omega)⟩
    · have hskip := occurrences_cons_of_ne (fun hg => hef (hg.symm.trans hname.symm)) gs
      rw [hother e he hef, hlong, List.count_cons_of_ne (Ne.symm hef), ← hskip]
      exact ⟨h.holds e he, h.once e he⟩
  refine ⟨p.after o l, ?_, ⟨h.atRest.after, ?_, ?_, ?_⟩, hc.words o hmem htakes⟩
  · exact CommandSpec.step_word h.atRest (hname ▸ hc.names f hf) (hname ▸ ho) htakes hfresh
  · exact fun g' hg' => h.known g' (List.mem_cons_of_mem _ hg')
  · exact fun e he => (hnext e he).1
  · exact fun e he => (hnext e he).2

/-- **A row of options** is read whatever follows it, by any reader that reads a word for an option
as a step of the command. -/
theorem Covers.run {α : Type} (hc : Covers c fields)
    (read : Progress (Level σ) → List String → Except UsageError α)
    (hread : ∀ {p : Progress (Level σ)} {g : Given} (rest : List String), p.AtRest →
      IsLongName g.name → read p (g.word :: rest) = c.step p g.word >>= (read · rest))
    {gs : List Given} (h : Pending fields goal p gs) :
    ∃ q, (∀ rest, read p (gs.map Given.word ++ rest) = read q rest) ∧
      Pending fields goal q [] ∧ q.settings.words = p.settings.words := by
  induction gs generalizing p with
  | nil => exact ⟨p, fun _ => rfl, h, rfl⟩
  | cons g gs ih =>
    obtain ⟨p₁, hstep, hnext, hwords⟩ := hc.step h
    obtain ⟨q, hrun, hdone, hwords'⟩ := ih hnext
    refine ⟨q, fun rest => ?_, hdone, hwords'.trans hwords⟩
    obtain ⟨f, hf, hname⟩ := h.known g List.mem_cons_self
    rw [List.map_cons, List.cons_append, hread _ h.atRest (hname ▸ hc.names f hf), hstep]
    exact hrun rest

end

/-! ### Fields of a level -/

namespace Level

variable {σ : Type}

/-- The fields of the global options. -/
def globalFields : List (Field (Level σ)) :=
  [⟨"output", fun l => .form l.globals.output?⟩,
   ⟨"ns", fun l => .optional l.globals.namespaceName?⟩]

/-- A field of the settings of a command. -/
def liftField (f : Field σ) : Field (Level σ) := ⟨f.name, fun l => f.held l.settings⟩

/-- The fields of a level whose command has its own fields. -/
def fieldsWith (own : List (Field σ)) : List (Field (Level σ)) := globalFields ++ own.map liftField

theorem mem_fieldsWith {own : List (Field σ)} {f : Field (Level σ)} :
    f ∈ fieldsWith own ↔
      f = ⟨"output", fun l => .form l.globals.output?⟩ ∨
      f = ⟨"ns", fun l => .optional l.globals.namespaceName?⟩ ∨ ∃ e ∈ own, liftField e = f := by
  simp only [fieldsWith, globalFields, List.mem_append, List.mem_cons, List.not_mem_nil, or_false,
    List.mem_map, or_assoc]

theorem names_fieldsWith (own : List (Field σ)) :
    (fieldsWith own).map Field.name = ["output", "ns"] ++ own.map Field.name := by
  rw [fieldsWith, List.map_append, List.map_map]
  rfl

theorem takes_lift {o : OptionSpec σ} {value? : Option String} {l l' : Level σ} :
    (lift o).Takes value? l l' ↔
      ∃ s, o.Takes value? l.settings s ∧ l' = { l with settings := s } := by
  unfold OptionSpec.Takes lift
  cases o.action with
  | switch set => cases value? <;> simp [eq_comm]
  | value store =>
    cases value? with
    | none => simp
    | some v =>
      cases h : store v l.settings with
      | ok s => simp [h, bind, Except.bind, pure, Except.pure, eq_comm]
      | error e => simp [h, bind, Except.bind]
  | stop reason => simp

theorem fills_lift {own : List (Field σ)} {o : OptionSpec σ} {f : Field σ} (h : o.Fills own f) :
    (lift o).Fills (fieldsWith own) (liftField f) := by
  refine ⟨fun l => h.repeats l.settings, fun {l value? held} hgive => ?_⟩
  obtain ⟨s, htakes, hheld, hother⟩ := h.takes hgive
  refine ⟨{ l with settings := s }, takes_lift.2 ⟨s, htakes, rfl⟩, hheld, fun e he hne => ?_⟩
  rcases mem_fieldsWith.1 he with rfl | rfl | ⟨e', he', rfl⟩
  · rfl
  · rfl
  · exact hother e' he' hne

/-- Each global option fills its own field. -/
theorem exists_global_fills (own : List (Field σ)) {f : Field (Level σ)} (hf : f ∈ globalFields) :
    ∃ o ∈ globalOptions, o.long = f.name ∧ o.Fills (fieldsWith own) f := by
  rcases List.mem_cons.1 hf with rfl | hf
  · refine ⟨_, List.mem_cons_self, rfl, fun _ => rfl, fun {l value? held} hgive => ?_⟩
    cases value? with
    | none => cases hgive
    | some v =>
      obtain ⟨form, hform, rfl⟩ := Option.map_eq_some_iff.1 hgive
      refine ⟨{ l with globals := { l.globals with output? := some form } },
        by simp only [OptionSpec.Takes, hform], rfl, fun e he hne => ?_⟩
      rcases mem_fieldsWith.1 he with rfl | rfl | ⟨_, _, rfl⟩
      · exact absurd rfl hne
      · rfl
      · rfl
  · obtain rfl := List.mem_singleton.1 hf
    refine ⟨_, List.mem_cons_of_mem _ List.mem_cons_self, rfl, fun _ => rfl,
      fun {l value? held} hgive => ?_⟩
    cases value? with
    | none => cases hgive
    | some v =>
      cases hgive
      refine ⟨{ l with globals := { l.globals with namespaceName? := some v } }, rfl, rfl,
        fun e he hne => ?_⟩
      rcases mem_fieldsWith.1 he with rfl | rfl | ⟨_, _, rfl⟩
      · rfl
      · exact absurd rfl hne
      · rfl

theorem words_of_takes_global {o : OptionSpec (Level σ)} (ho : o ∈ globalOptions)
    {value? : Option String} {l l' : Level σ} (h : o.Takes value? l l') : l'.words = l.words := by
  simp only [globalOptions, List.mem_cons, List.not_mem_nil, or_false] at ho
  rcases ho with rfl | rfl | rfl
  · cases value? with
    | none => cases h
    | some v =>
      simp only [OptionSpec.Takes] at h
      split at h <;> cases h
      rfl
  · cases value? <;> cases h
    rfl
  · cases value? <;> cases h

/-- A level has a field for each option if its command has. -/
theorem covers_of_fills (own : List (OptionSpec σ)) {fields : List (Field σ)}
    {c : CommandSpec (Level σ)} (hc : c.options = globalOptions ++ own.map lift)
    (hlongs : (c.options.map OptionSpec.long).Nodup)
    (hnodup : ((fieldsWith fields).map Field.name).Nodup)
    (hnames : ∀ f ∈ fieldsWith fields, IsLongName f.name)
    (hfills : ∀ f ∈ fields, ∃ o ∈ own, o.long = f.name ∧ o.Fills fields f) :
    Covers c (fieldsWith fields) := by
  refine ⟨hnodup, hnames, fun f hf => ?_, fun o ho value? l l' h => ?_⟩
  · obtain ⟨o, ho, hlong, h⟩ :
        ∃ o ∈ c.options, o.long = f.name ∧ o.Fills (fieldsWith fields) f := by
      rw [hc]
      rcases List.mem_append.1 hf with hf | hf
      · obtain ⟨o, ho, h⟩ := exists_global_fills fields hf
        exact ⟨o, List.mem_append_left _ ho, h⟩
      · obtain ⟨f', hf', rfl⟩ := List.mem_map.1 hf
        obtain ⟨o, ho, hlong, h⟩ := hfills f' hf'
        exact ⟨lift o, List.mem_append_right _ (List.mem_map_of_mem ho), hlong, fills_lift h⟩
    exact ⟨o, hlong ▸ CommandSpec.long?_of_mem hlongs ho, h⟩
  · rw [hc] at ho
    rcases List.mem_append.1 ho with ho | ho
    · exact words_of_takes_global ho h
    · obtain ⟨o, -, rfl⟩ := List.mem_map.1 ho
      obtain ⟨s, -, rfl⟩ := takes_lift.1 h
      rfl

theorem globals_eq_of_held {own : List (Field σ)} {l l' : Level σ}
    (h : ∀ f ∈ fieldsWith own, f.held l = f.held l') :
    l.globals = l'.globals ∧ ∀ f ∈ own, f.held l.settings = f.held l'.settings := by
  have hform := h _ (mem_fieldsWith.2 (.inl rfl))
  have hns := h _ (mem_fieldsWith.2 (.inr (.inl rfl)))
  refine ⟨?_, fun f hf => h _ (mem_fieldsWith.2 (.inr (.inr ⟨f, hf, rfl⟩)))⟩
  obtain ⟨⟨f, n⟩, s, ws⟩ := l
  obtain ⟨⟨f', n'⟩, s', ws'⟩ := l'
  cases hform
  cases hns
  rfl

end Level

end WrappedTraining.CommandLine
