import WrappedTraining.Proofs.CommandLine.SubmitFields
import WrappedTraining.Proofs.Text.Numeral

/-!
# Written options

What the options of a submission hold is written as a row of words, one for each value, in any order
that keeps the values of one option in theirs.

* `Held.Written` : the values that an option is given for what its field holds;
* `Writes` : options before and after the name of the command that write a submission;
* `exists_writes` : there are such options for every choice of values.
-/

namespace WrappedTraining.CommandLine

/-! ### Writing a field -/

/-- **How a field is written** by the occurrences of its option: not at all if it holds what it
holds anyway, else once, or once for each text of a list. -/
inductive Held.Written : Held → Held → List (Option String) → Prop
  | absent (d : Held) : Written d d []
  | text (d v : String) : Written (.text d) (.text v) [some v]
  | number (d n : Int32) : Written (.number d) (.number n) [some (Text.ofInt n.toInt)]
  | span (d : Span) {v : String} {t : Span} (h : Span.parse v = .ok t) :
      Written (.span d) (.span t) [some v]
  | switch (d : Bool) : Written (.switch d) (.switch true) [none]
  | truth (d : Option Bool) (b : Bool) :
      Written (.truth d) (.truth (some b)) [some (if b then "true" else "false")]
  | texts (vs : List String) : Written (.texts []) (.texts vs) (vs.map some)
  | form (d : Option OutputFormat) (f : OutputFormat) :
      Written (.form d) (.form (some f)) [some f.name]
  | optional (d : Option String) (v : String) :
      Written (.optional d) (.optional (some v)) [some v]

theorem OutputFormat.ofName?_name (f : OutputFormat) : ofName? f.name = some f := by
  cases f <;> decide

theorem SubmitOptions.truth?_text (b : Bool) :
    truth? (if b then "true" else "false") = some b := by
  cases b <;> decide

namespace Held

theorem giveAll_texts (us vs : List String) :
    giveAll (.texts us) (vs.map some) = some (.texts (us ++ vs)) := by
  induction vs generalizing us with
  | nil => rw [List.append_nil]; rfl
  | cons v vs ih =>
    have hstep := ih (us ++ [v])
    rw [List.append_assoc] at hstep
    exact hstep

namespace Written

variable {d h : Held} {values : List (Option String)}

/-- What is written is what the occurrences make of the field. -/
theorem giveAll_eq (hw : Written d h values) : d.giveAll values = some h := by
  cases hw with
  | absent => rfl
  | text d v => rfl
  | number d n =>
    have hread : (Held.number d).give (some (Text.ofInt n.toInt)) = some (.number n) := by
      rw [give, Text.int32?_ofInt, Option.map_some]
    rw [giveAll, List.foldlM_cons, hread]
    rfl
  | span d hparse =>
    rw [giveAll, List.foldlM_cons, give, hparse]
    rfl
  | switch d => rfl
  | truth d b =>
    rw [giveAll, List.foldlM_cons, give, SubmitOptions.truth?_text]
    rfl
  | texts vs => exact giveAll_texts [] vs
  | form d f =>
    rw [giveAll, List.foldlM_cons, give, OutputFormat.ofName?_name]
    rfl
  | optional d v => rfl

/-- Only lists are written with more than one occurrence. -/
theorem once (hw : Written d h values) : d.repeats = true ∨ values.length ≤ 1 := by
  cases hw with
  | texts vs => exact .inl rfl
  | absent => exact .inr (Nat.zero_le 1)
  | _ => exact .inr (Nat.le_refl 1)

/-- What is not a list is written in one place. -/
theorem front_or_back {front back : List (Option String)} (hw : Written d h (front ++ back))
    (hd : d.repeats = false) :
    Written d h front ∧ back = [] ∨ front = [] ∧ Written d h back := by
  have hlen := hw.once.resolve_left (by rw [hd]; exact Bool.false_ne_true)
  cases front with
  | nil => exact .inr ⟨rfl, hw⟩
  | cons v front =>
    obtain rfl : back = [] := by
      rw [List.length_append, List.length_cons] at hlen
      exact List.length_eq_zero_iff.1 (by omega)
    rw [List.append_nil] at hw
    exact .inl ⟨hw, rfl⟩

/-- What can be absent is put together from two places. -/
theorem exists_or {α : Type} (hold : Option α → Held) {a? : Option α}
    {front back : List (Option String)} (hw : Written (hold none) (hold a?) (front ++ back))
    (hd : (hold none).repeats = false) :
    ∃ outer inner, Written (hold none) (hold outer) front ∧
      Written (hold none) (hold inner) back ∧ inner.or outer = a? := by
  rcases hw.front_or_back hd with ⟨hfront, rfl⟩ | ⟨rfl, hback⟩
  · exact ⟨a?, none, hfront, .absent _, Option.none_or⟩
  · exact ⟨none, a?, .absent _, hback, Option.or_none⟩

end Written

end Held

/-! ### Writing a submission -/

/-- **A command line that writes** the options of a submission: global options `front` before the
name of the command and options `back` after it, in any order. What is not written is as at the
start. -/
structure Writes (front back : List Given) (output? : Option OutputFormat) (ns? : Option String)
    (o : SubmitOptions) : Prop where
  front_names : ∀ g ∈ front, g.name ∈ ["output", "ns"]
  back_names : ∀ g ∈ back, g.name ∈ ["output", "ns"] ++ SubmitOptions.table.map OptionSpec.long
  output : (Held.form none).Written (.form output?) (occurrences "output" (front ++ back))
  ns : (Held.optional none).Written (.optional ns?) (occurrences "ns" (front ++ back))
  own : ∀ f ∈ SubmitOptions.fields,
    (f.held .initial).Written (f.held o) (occurrences f.name back)

/-! ### Every choice can be written -/

theorem occurrences_eq_nil {name : String} {gs : List Given} (h : ∀ g ∈ gs, g.name ≠ name) :
    occurrences name gs = [] := by
  induction gs with
  | nil => rfl
  | cons g gs ih =>
    rw [occurrences_cons_of_ne (h g List.mem_cons_self)]
    exact ih fun g' hg' => h g' (List.mem_cons_of_mem _ hg')

/-- All the values that one option is given, in front of other options. -/
def withValues (name : String) (values : List (Option String)) (gs : List Given) : List Given :=
  values.map (Given.mk name) ++ gs

theorem mem_withValues {name : String} {values : List (Option String)} {gs : List Given} {g : Given}
    (h : g ∈ withValues name values gs) : g.name = name ∨ g ∈ gs := by
  refine (List.mem_append.1 h).imp_left fun hg => ?_
  obtain ⟨v, -, rfl⟩ := List.mem_map.1 hg
  rfl

theorem occurrences_withValues_self {name : String} {gs : List Given}
    (h : ∀ g ∈ gs, g.name ≠ name) (values : List (Option String)) :
    occurrences name (withValues name values gs) = values := by
  induction values with
  | nil => exact occurrences_eq_nil h
  | cons v values ih => exact (occurrences_cons_self ⟨name, v⟩ _).trans (congrArg (v :: ·) ih)

theorem occurrences_withValues_of_ne {name name' : String} (h : name ≠ name')
    (values : List (Option String)) (gs : List Given) :
    occurrences name' (withValues name values gs) = occurrences name' gs := by
  induction values with
  | nil => rfl
  | cons v values ih => exact (occurrences_cons_of_ne h _).trans ih

/-- Fields that can be written one by one can be written in a row. -/
theorem exists_row {σ : Type} {fields : List (Field σ)} {s s' : σ}
    (hnodup : (fields.map Field.name).Nodup)
    (h : ∀ f ∈ fields, ∃ values, (f.held s).Written (f.held s') values) :
    ∃ gs : List Given, (∀ g ∈ gs, ∃ f ∈ fields, f.name = g.name) ∧
      ∀ f ∈ fields, (f.held s).Written (f.held s') (occurrences f.name gs) := by
  induction fields with
  | nil =>
    exact ⟨[], fun _ hg => absurd hg List.not_mem_nil, fun _ hf => absurd hf List.not_mem_nil⟩
  | cons f fields ih =>
    obtain ⟨hf, hfields⟩ := List.nodup_cons.1 hnodup
    obtain ⟨values, hvalues⟩ := h f List.mem_cons_self
    obtain ⟨gs, hknown, hgs⟩ := ih hfields fun e he => h e (List.mem_cons_of_mem _ he)
    have hne : ∀ e ∈ fields, e.name ≠ f.name := fun e he hef =>
      hf (hef ▸ List.mem_map_of_mem he)
    refine ⟨withValues f.name values gs, fun g hg => ?_, fun e he => ?_⟩
    · rcases mem_withValues hg with hg | hg
      · exact ⟨f, List.mem_cons_self, hg.symm⟩
      · obtain ⟨e, he, hname⟩ := hknown g hg
        exact ⟨e, List.mem_cons_of_mem _ he, hname⟩
    · rcases List.mem_cons.1 he with rfl | he
      · have hother : ∀ g ∈ gs, g.name ≠ e.name := by
          intro g hg
          obtain ⟨e', he', hname⟩ := hknown g hg
          exact hname ▸ hne e' he'
        rw [occurrences_withValues_self hother]
        exact hvalues
      · rw [occurrences_withValues_of_ne (hne e he).symm]
        exact hgs e he

section

variable {o : SubmitOptions}

theorem exists_written (htimeout : ∃ v, Span.parse v = .ok o.runningTimeout)
    (httl : ∃ v, Span.parse v = .ok o.ttlAfterFinished) :
    ∀ f ∈ SubmitOptions.fields, ∃ values, (f.held .initial).Written (f.held o) values := by
  obtain ⟨v, hv⟩ := htimeout
  obtain ⟨w, hw⟩ := httl
  have hswitch : ∀ on, ∃ values, (Held.switch false).Written (.switch on) values
    | false => ⟨_, .absent _⟩
    | true => ⟨_, .switch _⟩
  have htruth : ∀ b?, ∃ values, (Held.truth none).Written (.truth b?) values
    | none => ⟨_, .absent _⟩
    | some b => ⟨_, .truth _ b⟩
  rw [← List.forall_iff_forall_mem]
  simp only [SubmitOptions.fields, List.Forall]
  and_intros
  any_goals exact ⟨_, .texts _⟩
  any_goals exact ⟨_, .text _ _⟩
  any_goals exact ⟨_, .number _ _⟩
  any_goals exact hswitch _
  · exact ⟨_, .span _ hv⟩
  · exact ⟨_, .span _ hw⟩
  · exact htruth _

/-- **Every choice of values has a command line** that writes it. -/
theorem exists_writes (output? : Option OutputFormat) (ns? : Option String)
    (htimeout : ∃ v, Span.parse v = .ok o.runningTimeout)
    (httl : ∃ v, Span.parse v = .ok o.ttlAfterFinished) :
    ∃ back, Writes [] back output? ns? o := by
  have hvalues : ∀ f ∈ Level.fieldsWith SubmitOptions.fields, ∃ values,
      (f.held (.start .initial)).Written (f.held ⟨⟨output?, ns?⟩, o, []⟩) values := by
    intro f hf
    rcases Level.mem_fieldsWith.1 hf with rfl | rfl | ⟨f', hf', rfl⟩
    · cases output? with
      | none => exact ⟨_, .absent _⟩
      | some form => exact ⟨_, .form _ form⟩
    · cases ns? with
      | none => exact ⟨_, .absent _⟩
      | some ns => exact ⟨_, .optional _ ns⟩
    · exact exists_written htimeout httl f' hf'
  obtain ⟨back, hknown, hback⟩ := exists_row covers_submitSpec.nodup hvalues
  refine ⟨back, fun _ hg => absurd hg List.not_mem_nil, fun g hg => ?_, ?_, ?_, fun f hf => ?_⟩
  · rw [SubmitOptions.names_fields, ← Level.names_fieldsWith]
    exact List.mem_map.2 (hknown g hg)
  · exact hback _ (Level.mem_fieldsWith.2 (.inl rfl))
  · exact hback _ (Level.mem_fieldsWith.2 (.inr (.inl rfl)))
  · exact hback _ (Level.mem_fieldsWith.2 (.inr (.inr ⟨f, hf, rfl⟩)))

end

end WrappedTraining.CommandLine
