import Mathlib.Data.List.Induction
import WrappedTraining.Proofs.CommandLine.Settings

/-!
# The settings that decide

Settings are given by methods, and each method has a slot of its own. Of the settings given by one
method a single one counts: the last that is accepted, or for the command the first. The job of a
list of settings therefore depends on nothing but these, and settings of different methods can
change places.

* `Setting.decisive?` : the setting of a method that counts;
* `Choices.makeAll_slot` : what a list of settings chooses for the slot of a method;
* `TrainingJob.ofSettings_eq_of_decisive` : lists with the same decisive settings describe the same
  job, or come to the same error.
-/

namespace WrappedTraining

namespace Setting

/-- A method by which settings are given. -/
inductive Method where
  | text (field : TextSetting)
  | count (field : CountSetting)
  | limit (field : LimitSetting)
  | deadlineSeconds
  | command
  | switchOn (field : SwitchSetting)
  | useServicePlugin
  | pairs (field : PairSetting)
  | list (field : ListSetting)
deriving DecidableEq

/-- The method by which a setting is given. -/
def method : Setting → Method
  | .text field _ => .text field
  | .count field _ => .count field
  | .limit field _ => .limit field
  | .deadlineSeconds _ => .deadlineSeconds
  | .command _ => .command
  | .switchOn field => .switchOn field
  | .useServicePlugin _ => .useServicePlugin
  | .pairs field _ => .pairs field
  | .list field _ => .list field

/-- The setting is not one that leaves the default in place. -/
def isAccepted : Setting → Bool
  | .text _ v => v ≠ ""
  | .count _ n => 0 < n
  | .limit _ n => 0 ≤ n
  | .deadlineSeconds n => 0 < n
  | .command words => commandText words ≠ ""
  | .switchOn _ => true
  | .useServicePlugin _ => true
  | .pairs _ ps => ps ≠ []
  | .list _ _ => true

/-- The settings given by a method, in order. -/
def callsTo (m : Method) (xs : List Setting) : List Setting := xs.filter fun x => x.method = m

/-- The setting that counts among those of a method: the last that is accepted, or for the command
the first. -/
def decisive? (m : Method) (xs : List Setting) : Option Setting :=
  if m = .command then ((callsTo m xs).filter isAccepted).head?
  else ((callsTo m xs).filter isAccepted).getLast?

/-- Each method gets the same settings in the same order: one list is the other with settings of
different methods in other places. -/
def Reorders (xs ys : List Setting) : Prop := ∀ m, callsTo m xs = callsTo m ys

/-- The slot that a method fills. -/
def Method.slot : Method → Slot
  | .text field => .text field
  | .count field => .count field
  | .limit field => .limit field
  | .deadlineSeconds => .deadlineSeconds
  | .command => .command
  | .switchOn field => .isOn field
  | .useServicePlugin => .useServicePlugin
  | .pairs field => .entries field.option
  | .list field => .entries field.option

/-! ### Every method has a slot of its own -/

theorem pairOption_injective {f g : PairSetting} (h : f.option = g.option) : f = g := by
  revert h
  cases f <;> cases g <;> decide

theorem listOption_injective {f g : ListSetting} (h : f.option = g.option) : f = g := by
  revert h
  cases f <;> cases g <;> decide

theorem pairOption_ne_listOption (f : PairSetting) (g : ListSetting) : f.option ≠ g.option := by
  cases f <;> cases g <;> decide

theorem Method.slot_injective {m m' : Method} (h : m.slot = m'.slot) : m = m' := by
  cases m <;> cases m' <;> simp only [slot, Slot.entries.injEq, reduceCtorEq] at h
  case pairs.pairs => rw [pairOption_injective h]
  case pairs.list => exact absurd h (pairOption_ne_listOption _ _)
  case list.pairs => exact absurd h.symm (pairOption_ne_listOption _ _)
  case list.list => rw [listOption_injective h]
  all_goals simp_all

/-! ### What a setting chooses -/

variable {x : Setting} {m : Method}

/-- A setting that is accepted chooses a value for the slot of its method. -/
theorem choice?_of_isAccepted (h : x.isAccepted) :
    ∃ v : x.method.slot.Value, x.choice? = some ⟨x.method.slot, v⟩ := by
  cases x with
  | text f v => exact ⟨v, if_neg (of_decide_eq_true h)⟩
  | count f n => exact ⟨n, if_pos (of_decide_eq_true h)⟩
  | limit f n => exact ⟨n, if_pos (of_decide_eq_true h)⟩
  | deadlineSeconds n => exact ⟨n, if_pos (of_decide_eq_true h)⟩
  | command words => exact ⟨commandText words, rfl⟩
  | switchOn f => exact ⟨true, rfl⟩
  | useServicePlugin on => exact ⟨some on, rfl⟩
  | pairs f ps => exact ⟨ps.map (entryOf f.separator), if_neg (of_decide_eq_true h)⟩
  | list f es => exact ⟨es, rfl⟩

/-- A setting that is not accepted chooses nothing; a command chooses the empty text. -/
theorem choice?_of_not_isAccepted (h : ¬x.isAccepted) (hx : x.method ≠ .command) :
    x.choice? = none := by
  cases x with
  | text f v => exact if_pos (Decidable.not_not.1 fun hv => h (decide_eq_true hv))
  | count f n => exact if_neg fun hn => h (decide_eq_true hn)
  | limit f n => exact if_neg fun hn => h (decide_eq_true hn)
  | deadlineSeconds n => exact if_neg fun hn => h (decide_eq_true hn)
  | command words => exact absurd rfl hx
  | pairs f ps => exact if_pos (Decidable.not_not.1 fun hps => h (decide_eq_true hps))
  | switchOn | useServicePlugin | list => exact absurd rfl h

/-- A setting chooses for the slot of its method, if it chooses anything. -/
theorem fst_of_choice? {p : Choice} (h : x.choice? = some p) : p.1 = x.method.slot := by
  by_cases hx : x.isAccepted
  · obtain ⟨v, hv⟩ := choice?_of_isAccepted hx
    rw [← Option.some.inj (hv.symm.trans h)]
  · cases x with
    | command words => rw [← Option.some.inj h]; rfl
    | _ => cases (choice?_of_not_isAccepted hx nofun).symm.trans h

/-! ### The setting that counts -/

theorem callsTo_append (m : Method) (xs ys : List Setting) :
    callsTo m (xs ++ ys) = callsTo m xs ++ callsTo m ys := List.filter_append ..

/-- A later setting takes the place of an earlier one, but for the command. -/
theorem decisive?_concat_of_isAccepted (xs : List Setting) (h : x.isAccepted) :
    decisive? x.method (xs ++ [x]) =
      if x.method = .command then (decisive? x.method xs).or (some x) else some x := by
  have hx : (callsTo x.method [x]).filter isAccepted = [x] := by simp [callsTo, h]
  unfold decisive?
  rw [callsTo_append, List.filter_append, hx]
  split <;> simp

/-- The setting that counts is one of the method, and accepted. -/
theorem of_decisive? {xs : List Setting} (h : decisive? m xs = some x) :
    x.method = m ∧ x.isAccepted := by
  have hmem : x ∈ (callsTo m xs).filter isAccepted := by
    unfold decisive? at h
    split at h
    · exact List.mem_of_head? h
    · exact List.mem_of_getLast? h
  obtain ⟨hcall, hx⟩ := List.mem_filter.1 hmem
  exact ⟨of_decide_eq_true (List.mem_filter.1 hcall).2, hx⟩

theorem exists_words (hm : x.method = .command) (hx : x.isAccepted) :
    ∃ words, x = .command words ∧ commandText words ≠ "" := by
  cases x with
  | command words => exact ⟨words, rfl, of_decide_eq_true hx⟩
  | _ => cases hm

/-- A setting of another method, or one that is not accepted, does not count. -/
theorem decisive?_concat_of_not (xs : List Setting) (h : ¬(x.method = m ∧ x.isAccepted)) :
    decisive? m (xs ++ [x]) = decisive? m xs := by
  have hx : (callsTo m [x]).filter isAccepted = [] := by
    by_cases hm : x.method = m <;> simp_all [callsTo]
  unfold decisive?
  rw [callsTo_append, List.filter_append, hx, List.append_nil]

theorem Reorders.decisive?_eq {xs ys : List Setting} (h : Reorders xs ys) (m : Method) :
    decisive? m xs = decisive? m ys := by
  unfold decisive?
  rw [h m]

/-- The first and the last item of a list with the items of an option. -/
theorem ends_eq_of_mem_iff {α : Type} {l : List α} {a? : Option α}
    (h : ∀ a, a ∈ l ↔ a? = some a) : l.head? = a? ∧ l.getLast? = a? := by
  cases a? with
  | none =>
    obtain rfl : l = [] := List.eq_nil_iff_forall_not_mem.2 fun a ha => nomatch (h a).1 ha
    exact ⟨rfl, rfl⟩
  | some a =>
    have hne : l ≠ [] := List.ne_nil_of_mem ((h a).2 rfl)
    rw [List.head?_eq_some_head hne, List.getLast?_eq_some_getLast hne]
    exact ⟨((h _).1 (List.head_mem hne)).symm, ((h _).1 (List.getLast_mem hne)).symm⟩

/-- The settings that count are those that count among themselves. -/
theorem decisive?_filterMap {ms : List Method} {xs : List Setting}
    (hms : ∀ m, m ∉ ms → decisive? m xs = none) (m : Method) :
    decisive? m (ms.filterMap fun m => decisive? m xs) = decisive? m xs := by
  have hmem : ∀ x, x ∈ (callsTo m (ms.filterMap fun m => decisive? m xs)).filter isAccepted ↔
      decisive? m xs = some x := by
    intro x
    rw [List.mem_filter, callsTo, List.mem_filter, List.mem_filterMap, decide_eq_true_eq]
    constructor
    · rintro ⟨⟨⟨m', -, hx⟩, rfl⟩, -⟩
      rwa [(of_decisive? hx).1]
    · intro hx
      obtain ⟨hm, haccepted⟩ := of_decisive? hx
      have hmem : m ∈ ms := by
        by_contra h
        cases (hms m h).symm.trans hx
      exact ⟨⟨⟨m, hmem, hx⟩, hm⟩, haccepted⟩
  obtain ⟨hhead, hlast⟩ := ends_eq_of_mem_iff hmem
  rw [decisive?.eq_def m (ms.filterMap _), hhead, hlast, ite_self]

end Setting

namespace Choices

open Setting

variable {c : Choices} {x : Setting} {m : Method}

/-! ### What the settings of a method come to -/

theorem make_of_ne {p : Choice} {i : Slot} (hx : x.choice? = some p) (hi : i ≠ p.1) :
    c.make x i = c i := by
  simp only [make, hx, choose]
  split
  · rfl
  · exact Function.update_of_ne hi _ _

/-- A setting leaves the slots of other methods alone, and its own if it is not accepted. -/
theorem make_slot_of_not (h : ¬(x.method = m ∧ x.isAccepted)) : c.make x m.slot = c m.slot := by
  by_cases hm : x.method = m
  · subst hm
    have hx : ¬x.isAccepted := fun ha => h ⟨rfl, ha⟩
    cases x with
    | command words =>
      -- an empty command replaces an empty one
      have hempty : commandText words = "" := Decidable.not_not.1 fun hw => hx (decide_eq_true hw)
      rw [make_command, hempty]
      split
      · rename_i hc
        exact (Function.update_self ..).trans hc.symm
      · rfl
    | _ => rw [make_of_none (choice?_of_not_isAccepted hx nofun)]
  · cases hx : x.choice? with
    | none => rw [make_of_none hx]
    | some p =>
      have hp : m.slot ≠ p.1 := fun hp =>
        hm (Method.slot_injective ((fst_of_choice? hx).symm.trans hp.symm))
      exact make_of_ne hx hp

/-- An accepted setting fills its slot whatever stands there, but for the command. -/
theorem make_slot (d : Choices) (hx : x.isAccepted) (hm : x.method ≠ .command) :
    c.make x x.method.slot = d.make x x.method.slot := by
  obtain ⟨v, hv⟩ := choice?_of_isAccepted hx
  have hslot : x.method.slot ≠ .command := fun h => hm (Method.slot_injective h)
  rw [make_of_some hv hslot, make_of_some hv hslot, Function.update_self, Function.update_self]

theorem make_command_slot (words : List String) :
    c.make (.command words) .command =
      if c .command = "" then commandText words else c .command := by
  rw [make_command]
  split
  · exact Function.update_self ..
  · rfl

/-- Of commands that are accepted one after the other the first stays. -/
theorem make_of_first {d : Choices} {first? : Option Setting} (hc : c .command = "")
    (hfirst : ∀ y ∈ first?, y.method = .command ∧ y.isAccepted)
    (hd : d .command = (first?.elim c c.make) .command) (hm : x.method = .command)
    (hx : x.isAccepted) : d.make x .command = ((first?.or (some x)).elim c c.make) .command := by
  obtain ⟨words, rfl, -⟩ := exists_words hm hx
  cases first? with
  | none =>
    have hd : d .command = "" := hd.trans hc
    show _ = c.make (.command words) .command
    rw [make_command_slot, make_command_slot, if_pos hd, if_pos hc]
  | some y =>
    obtain ⟨hy, haccepted⟩ := hfirst y rfl
    obtain ⟨words', rfl, hwords⟩ := exists_words hy haccepted
    have hd : d .command = commandText words' := by
      rw [hd, Option.elim_some, make_command_slot, if_pos hc]
    show _ = c.make (.command words') .command
    rw [make_command_slot, make_command_slot, if_pos hc, hd, if_neg hwords]

/-- **What settings choose for the slot of a method** is what the setting that counts chooses on
its own. -/
theorem makeAll_slot (hc : c .command = "") (m : Method) (xs : List Setting) :
    c.makeAll xs m.slot = ((decisive? m xs).elim c c.make) m.slot := by
  -- from the end: the last setting either decides or leaves the matter to those before it
  induction xs using List.reverseRecOn with
  | nil => cases m <;> rfl
  | append_singleton xs x ih =>
    have hlast : c.makeAll (xs ++ [x]) = (c.makeAll xs).make x := by simp [makeAll]
    rw [hlast]
    by_cases hx : x.method = m ∧ x.isAccepted
    · obtain ⟨rfl, hx⟩ := hx
      rw [decisive?_concat_of_isAccepted xs hx]
      split
      · rename_i hm
        rw [hm] at ih ⊢
        exact make_of_first hc (fun y hy => of_decisive? hy) ih hm hx
      · rename_i hm
        exact make_slot c hx hm
    · rw [make_slot_of_not hx, ih, decisive?_concat_of_not xs hx]

/-- Settings leave a slot that belongs to no method alone. -/
theorem makeAll_of_no_method {i : Slot} (hi : ∀ m, Method.slot m ≠ i) (xs : List Setting) :
    c.makeAll xs i = c i := by
  induction xs generalizing c with
  | nil => rfl
  | cons x xs ih =>
    refine (ih (c := c.make x)).trans ?_
    cases hx : x.choice? with
    | none => rw [make_of_none hx]
    | some p =>
      have hp : i ≠ p.1 := fun hp => hi x.method ((fst_of_choice? hx).symm.trans hp.symm)
      exact make_of_ne hx hp

/-- Settings with the same settings that count choose the same. -/
theorem makeAll_congr (hc : c .command = "") {xs ys : List Setting}
    (h : ∀ m, decisive? m xs = decisive? m ys) : c.makeAll xs = c.makeAll ys := by
  funext i
  by_cases hi : ∃ m, Method.slot m = i
  · obtain ⟨m, rfl⟩ := hi
    rw [makeAll_slot hc, makeAll_slot hc, h m]
  · have hi : ∀ m, Method.slot m ≠ i := fun m hm => hi ⟨m, hm⟩
    rw [makeAll_of_no_method hi, makeAll_of_no_method hi]

end Choices

/-! ### Builders with the same choices -/

theorem Submission.reconcile_congr {a b : Bag}
    (hdeadline : a.span? "running-timeout" = b.span? "running-timeout")
    (httl : a.span? "ttl-after-finished" = b.span? "ttl-after-finished") (s : Submission) :
    s.reconcile a = s.reconcile b := by
  unfold reconcile setRunPolicy
  rw [hdeadline, httl]

namespace Builder

variable {a b : Bag}

/-- Builders with deferred options that come to the same, lengths of time included, finish alike. -/
theorem finish_congr (h : a.Alike b) (hspan : ∀ k, a.span? k = b.span? k) (s : Submission) :
    finish ⟨s, a⟩ = finish ⟨s, b⟩ := by
  rw [finish_eq, finish_eq, Submission.addDataSets_congr h]
  congr 1
  funext u
  have hbags := h.insert Bag.dataSetMounts (.dict u.job.dataSets)
  have hspans : ∀ k, k ≠ Bag.dataSetMounts →
      (a.insert Bag.dataSetMounts (.dict u.job.dataSets)).span? k =
        (b.insert Bag.dataSetMounts (.dict u.job.dataSets)).span? k := fun k hk => by
    rw [Bag.span?_insert_of_ne hk, Bag.span?_insert_of_ne hk, hspan]
  refine result_congr (f := id) ?_ fun v => ?_
  · rw [Submission.fragments_congr hbags, ← Outcome.result_map]
    rfl
  · exact Submission.reconcile_congr (hspans _ (by decide)) (hspans _ (by decide)) v

/-- Builders with the same choices finish alike. -/
theorem finish_eq_of_describes {c : Choices} {b b' : Builder} (h : c.Describes b)
    (h' : c.Describes b') : b.finish = b'.finish := by
  have hbag : b.bag.Alike b'.bag :=
    { pairs := fun k _ => by rw [h.texts, h'.texts]
      texts := fun k _ => by rw [h.texts, h'.texts]
      dict? := fun k => by rw [h.dict?, h'.dict?] }
  have hspan : ∀ k, b.bag.span? k = b'.bag.span? k := fun k => by rw [h.span?, h'.span?]
  obtain ⟨s, bag⟩ := b
  obtain ⟨s', bag'⟩ := b'
  obtain rfl : s = s' := h.submission.trans h'.submission.symm
  exact finish_congr hbag hspan s

end Builder

namespace TrainingJob

open Setting

/-- Settings with the same settings that count describe the same job. -/
theorem ofSettings_congr {xs ys : List Setting} (h : ∀ m, decisive? m xs = decisive? m ys) :
    ofSettings xs = ofSettings ys := by
  have hx := CommandLine.describes_defaultChoices.applyAll xs
  have hy := CommandLine.describes_defaultChoices.applyAll ys
  rw [Choices.makeAll_congr rfl h] at hx
  unfold ofSettings ofBuilder
  rw [Builder.finish_eq_of_describes hx hy]

/-- **One setting of each method decides.** Settings of different methods can change places as long
as the settings of each method keep their order, and lists of settings in which the same setting of
each method counts describe the same job or come to the same error. So do the settings that count
on their own, one for each method, in whatever order of the methods. -/
theorem ofSettings_eq_of_decisive (xs ys : List Setting) :
    (Reorders xs ys → ofSettings xs = ofSettings ys) ∧
    ((∀ m, decisive? m xs = decisive? m ys) → ofSettings xs = ofSettings ys) ∧
    ∀ ms : List Method, (∀ m, m ∉ ms → decisive? m xs = none) →
      ofSettings (ms.filterMap fun m => decisive? m xs) = ofSettings xs := by
  refine ⟨fun h => ?_, ofSettings_congr, fun ms hms => ?_⟩
  · exact ofSettings_congr h.decisive?_eq
  · exact ofSettings_congr (decisive?_filterMap hms)

/-- A name and a command that are given twice, an empty command and a count of zero. -/
theorem ofSettings_eq_of_decisive_twice :
    let xs : List Setting :=
      [.text .name "first", .command [], .text .image "trainer:2", .command ["python", "train.py"],
       .count .gpus 4, .text .name "demo", .count .gpus 0, .list .tolerations ["all"],
       .list .tolerations [], .command ["bash"], .text .name ""]
    let ys : List Setting :=
      [.count .gpus 4, .list .tolerations ["all"], .text .name "first", .text .name "demo",
       .command [], .command ["python", "train.py"], .list .tolerations [], .count .gpus 0,
       .text .name "", .command ["bash"], .text .image "trainer:2"]
    let zs : List Setting :=
      [.count .gpus 4, .text .image "trainer:2", .text .name "demo",
       .command ["python", "train.py"], .list .tolerations []]
    let ms : List Method := [.list .tolerations, .text .image, .command, .count .gpus, .text .name]
    Reorders xs ys ∧ ofSettings xs = ofSettings ys ∧
      (∀ m, decisive? m xs = decisive? m zs) ∧ ofSettings xs = ofSettings zs ∧
      (∀ m, m ∉ ms → decisive? m xs = none) ∧
      ofSettings (ms.filterMap fun m => decisive? m xs) = ofSettings xs ∧
      (ofSettings xs).isOk := by
  intro xs ys zs ms
  have hreorders : Reorders xs ys := by
    intro m
    cases m with
    | deadlineSeconds | command | useServicePlugin => rfl
    | text f | count f | limit f | switchOn f | pairs f | list f => cases f <;> rfl
  have hdecisive : ∀ m, decisive? m xs = decisive? m zs := by
    intro m
    cases m with
    | deadlineSeconds | command | useServicePlugin => rfl
    | text f | count f | limit f | switchOn f | pairs f | list f => cases f <;> rfl
  have hmethods : ∀ m, decisive? m xs = none ∨ m ∈ ms := by
    intro m
    cases m with
    | deadlineSeconds | command | useServicePlugin => decide
    | text f | count f | limit f | switchOn f | pairs f | list f => cases f <;> decide
  have hnone : ∀ m, m ∉ ms → decisive? m xs = none := fun m hm => (hmethods m).resolve_right hm
  exact ⟨hreorders, (ofSettings_eq_of_decisive xs ys).1 hreorders, hdecisive,
    (ofSettings_eq_of_decisive xs zs).2.1 hdecisive, hnone,
    (ofSettings_eq_of_decisive xs []).2.2 ms hnone, by decide +kernel⟩

end TrainingJob

end WrappedTraining
