import WrappedTraining.Proofs.Submission.Acceptance
import WrappedTraining.Proofs.Submission.Decisive
import WrappedTraining.Proofs.Submission.Entries

/-!
# Settings that are given by pairs

The keys and values of a setting wait as texts, with a separator between key and value, and are cut
apart again when the job is built. A key with a separator in it does not come back.

* `Setting.Becomes` : what a pair becomes on its way, and `Setting.arrived_eq_self_iff` : when it
  comes back;
* `Setting.LastTo` : which of several pairs gives its value to a key;
* `TrainingJob.firstViolated_described_iff` : no pair is to blame when a job is not built;
* `TrainingJob.pairs_arrive` : what the pairs of settings come to in the job.
-/

namespace WrappedTraining

/-! ### Pairs and their entries -/

namespace Setting

variable {sep : Char} {p q : String × String} {ps : List (String × String)} {k v : String}

/-- **What a pair becomes on its way**: the texts before and behind the first separator of its
entry. -/
structure Becomes (sep : Char) (p q : String × String) : Prop where
  entry : entryOf sep p = entryOf sep q
  whole : sep ∉ q.1.toList

/-- What a pair becomes, by cutting its entry. -/
def arrived (sep : Char) (p : String × String) : String × String :=
  (Text.cut? sep (entryOf sep p)).getD p

/-- **The last pair that gives a value to a key.** -/
def LastTo (sep : Char) (ps : List (String × String)) (k v : String) : Prop :=
  ∃ before p after, ps = before ++ p :: after ∧ Becomes sep p (k, v) ∧
    ∀ later ∈ after, ∀ w, ¬Becomes sep later (k, w)

theorem toList_entryOf (sep : Char) (p : String × String) :
    (entryOf sep p).toList = p.1.toList ++ sep :: p.2.toList := by
  simp [entryOf]

theorem mem_entryOf (sep : Char) (p : String × String) : sep ∈ (entryOf sep p).toList := by
  simp [toList_entryOf]

theorem cut?_entryOf_eq_some_iff : Text.cut? sep (entryOf sep p) = some q ↔ Becomes sep p q := by
  obtain ⟨key, value⟩ := q
  rw [Text.cut?_eq_some_iff, ← toList_entryOf sep (key, value), String.toList_inj]
  exact ⟨fun h => ⟨h.1, h.2⟩, fun h => ⟨h.entry, h.whole⟩⟩

theorem cut?_entryOf (sep : Char) (p : String × String) :
    Text.cut? sep (entryOf sep p) = some (arrived sep p) := by
  cases h : Text.cut? sep (entryOf sep p) with
  | none => exact absurd (mem_entryOf sep p) (Text.cut?_eq_none_iff.1 h)
  | some q => rw [arrived, h, Option.getD_some]

/-- A pair becomes one thing. -/
theorem becomes_iff : Becomes sep p q ↔ q = arrived sep p := by
  rw [← cut?_entryOf_eq_some_iff, cut?_entryOf, Option.some.injEq, eq_comm]

theorem becomes_arrived (sep : Char) (p : String × String) : Becomes sep p (arrived sep p) :=
  becomes_iff.2 rfl

/-- **A pair comes back** exactly if its key has no separator. -/
theorem arrived_eq_self_iff : arrived sep p = p ↔ sep ∉ p.1.toList := by
  rw [eq_comm, ← becomes_iff]
  exact ⟨Becomes.whole, fun h => ⟨rfl, h⟩⟩

theorem valueIn?_entryOf : valueIn? sep k (entryOf sep p) = some v ↔ Becomes sep p (k, v) := by
  rw [← cut?_entryOf_eq_some_iff, valueIn?_eq_some_iff, Text.cut?_eq_some_iff]

theorem given?_entries :
    given? sep k (ps.map (entryOf sep)) = some v ↔ LastTo sep ps k v := by
  rw [given?_eq_some_iff]
  simp only [← valueIn?_eq_some_iff]
  constructor
  · rintro ⟨before, entry, after, hentries, hvalue, hafter⟩
    obtain ⟨before, rest, rfl, -, hrest⟩ := List.map_eq_append_iff.1 hentries
    obtain ⟨p, after, rfl, rfl, rfl⟩ := List.map_eq_cons_iff.1 hrest
    refine ⟨before, p, after, rfl, valueIn?_entryOf.1 hvalue, fun later hlater w hw => ?_⟩
    have hnone := hafter _ (List.mem_map_of_mem hlater)
    rw [valueIn?_entryOf.2 hw] at hnone
    cases hnone
  · rintro ⟨before, p, after, rfl, hvalue, hafter⟩
    refine ⟨before.map (entryOf sep), entryOf sep p, after.map (entryOf sep), by simp,
      valueIn?_entryOf.2 hvalue, List.forall_mem_map.2 fun later hlater => ?_⟩
    exact Option.eq_none_iff_forall_ne_some.2 fun w hw =>
      hafter later hlater w (valueIn?_entryOf.1 hw)

/-- Something is given to the key of every pair. -/
theorem exists_given? (hp : p ∈ ps) (h : Becomes sep p q) :
    ∃ v, given? sep q.1 (ps.map (entryOf sep)) = some v := by
  refine Option.ne_none_iff_exists'.1 fun hnone => ?_
  have hentry := given?_eq_none_iff.1 hnone _ (List.mem_map_of_mem hp)
  rw [valueIn?_entryOf.2 h] at hentry
  cases hentry

/-- Entries of pairs are read in full. -/
theorem readUntil_entries (fault : String → Submission.Error) (ps : List (String × String)) :
    readUntil (colonPair fault) (ps.map (entryOf ':')) = (ps.map (arrived ':'), none) := by
  induction ps with
  | nil => rfl
  | cons p ps ih =>
    have hread : colonPair fault (entryOf ':' p) = .ok (arrived ':' p) := by
      rw [colonPair, cut?_entryOf]
    rw [List.map_cons, readUntil, hread]
    simp only [ih, List.map_cons]

/-! ### Settings -/

/-- The setting is given by pairs. -/
def isPairs : Setting → Bool
  | .pairs _ _ => true
  | _ => false

/-- The settings that are not given by pairs. -/
def withoutPairs (xs : List Setting) : List Setting := xs.filter fun x => !x.isPairs

/-- The pairs of a field: those of the last setting that has any. -/
def pairsOfField (field : PairSetting) (xs : List Setting) : List (String × String) :=
  match decisive? (.pairs field) xs with
  | some (.pairs _ ps) => ps
  | _ => []

/-- The builder that settings describe. -/
def described (xs : List Setting) : Builder := xs.foldl apply (.new .initial)

/-- The builder has the choices that the settings make. -/
theorem describes_described (xs : List Setting) :
    (CommandLine.defaultChoices.makeAll xs).Describes (described xs) :=
  CommandLine.describes_defaultChoices.applyAll xs

variable {m : Method}

/-- **The entries that wait for a field** are those of its pairs. -/
theorem texts_described (field : PairSetting) (xs : List Setting) :
    (described xs).bag.texts field.option =
      (pairsOfField field xs).map (entryOf field.separator) := by
  have hslot := Choices.makeAll_slot (c := CommandLine.defaultChoices) rfl (.pairs field) xs
  rw [(describes_described xs).texts]
  refine hslot.trans ?_
  rw [pairsOfField]
  cases hx : decisive? (.pairs field) xs with
  | none => exact (CommandLine.describes_defaultChoices.texts field.option).symm
  | some x =>
    obtain ⟨hmethod, haccepted⟩ := of_decisive? hx
    cases x with
    | pairs f ps =>
      cases hmethod
      have hps : ps ≠ [] := of_decide_eq_true haccepted
      have hchoice : choice? (.pairs field ps) =
          some ⟨.entries field.option, ps.map (entryOf field.separator)⟩ := if_neg hps
      rw [Option.elim_some, Choices.make_of_some hchoice nofun]
      exact Function.update_self ..
    | _ => cases hmethod

theorem callsTo_withoutPairs (hm : ∀ field, m ≠ .pairs field) (xs : List Setting) :
    callsTo m (withoutPairs xs) = callsTo m xs := by
  rw [callsTo, withoutPairs, List.filter_filter, callsTo]
  refine List.filter_congr fun x _ => ?_
  cases x with
  | pairs f ps => simp [isPairs, method, (hm f).symm]
  | _ => simp [isPairs]

end Setting

/-! ### Choices apart from pairs -/

namespace Choices

open Setting

variable {c d : Choices}

/-- The submission does not depend on the entries that are chosen. -/
theorem submission_congr (h : ∀ i, (∀ k, i ≠ .entries k) → c i = d i) :
    c.submission = d.submission := by
  simp [submission, h]

/-- Settings that are not given by pairs choose the same on their own. -/
theorem makeAll_withoutPairs (hc : c .command = "") {i : Slot}
    (hi : ∀ field : PairSetting, i ≠ .entries field.option) (xs : List Setting) :
    c.makeAll (withoutPairs xs) i = c.makeAll xs i := by
  by_cases h : ∃ m, Method.slot m = i
  · obtain ⟨m, rfl⟩ := h
    have hm : ∀ field, m ≠ .pairs field := by
      rintro field rfl
      exact hi field rfl
    rw [makeAll_slot hc, makeAll_slot hc, decisive?, decisive?, callsTo_withoutPairs hm]
  · have h : ∀ m, Method.slot m ≠ i := fun m hm => h ⟨m, hm⟩
    rw [makeAll_of_no_method h, makeAll_of_no_method h]

end Choices

namespace Setting

theorem submission_described_withoutPairs (xs : List Setting) :
    (described (withoutPairs xs)).submission = (described xs).submission := by
  rw [(describes_described _).submission, (describes_described _).submission]
  exact Choices.submission_congr fun i hi => Choices.makeAll_withoutPairs rfl (fun _ => hi _) xs

theorem tolerations_described_withoutPairs (xs : List Setting) :
    (described (withoutPairs xs)).bag.texts "toleration" =
      (described xs).bag.texts "toleration" := by
  have hi : ∀ field : PairSetting, Slot.entries "toleration" ≠ .entries field.option := by
    intro field
    cases field <;> decide
  rw [(describes_described _).texts, (describes_described _).texts,
    Choices.makeAll_withoutPairs rfl hi]

theorem span?_described (xs : List Setting) (k : String) : (described xs).bag.span? k = none :=
  (describes_described xs).span? k

end Setting

/-! ### Rules that pairs keep -/

/-- Entries of pairs have their colon. -/
theorem colonRules_hold (fault : String → Submission.Error) (field : PairSetting)
    (hfield : field.separator = ':') (xs : List Setting) :
    ∀ ρ ∈ colonRules fault ((Setting.described xs).bag.texts field.option), ρ.holds := by
  rw [Setting.texts_described, hfield, colonRules, List.map_map]
  exact List.forall_mem_map.2 fun p _ => Setting.mem_entryOf ':' p

namespace Builder

/-- What is asked of a builder apart from the entries of pairs. -/
def otherRules (b : Builder) : List Rule :=
  nameRules b.submission.job.name ++ tolerationRules (b.bag.texts "toleration") ++
    (b.submission.sync.rules ++ b.submission.dashboard.rules ++
      (b.submission.reconcile b.bag).checkRules)

/-- Entries with a colon are not to blame. -/
theorem firstViolated_rules_iff {b : Builder} {e : Submission.Error}
    (hdata : ∀ ρ ∈ colonRules .dataSet (b.bag.texts "data"), ρ.holds)
    (hdirs : ∀ ρ ∈ colonRules .dataDir (b.bag.texts "data-dir"), ρ.holds)
    (hfiles : ∀ ρ ∈ colonRules .configFile (b.bag.texts "config-file"), ρ.holds) :
    FirstViolated b.rules e ↔ FirstViolated b.otherRules e := by
  have hrules : b.rules = [] ++ (colonRules .dataSet (b.bag.texts "data") ++
      (nameRules b.submission.job.name ++ tolerationRules (b.bag.texts "toleration") ++
        (colonRules .dataDir (b.bag.texts "data-dir") ++
          (colonRules .configFile (b.bag.texts "config-file") ++
            (b.submission.sync.rules ++ b.submission.dashboard.rules ++
              (b.submission.reconcile b.bag).checkRules))))) := by
    simp [rules, Submission.buildRules, Submission.partRules]
  rw [hrules, FirstViolated.append_iff_of_forall hdata, List.nil_append,
    FirstViolated.append_iff_of_forall hdirs, FirstViolated.append_iff_of_forall hfiles]
  rfl

end Builder

namespace TrainingJob

open Setting

/-- **No pair is to blame** when a job is not built. -/
theorem firstViolated_described_iff (xs : List Setting) (e : Submission.Error) :
    FirstViolated (described xs).rules e ↔ FirstViolated (described xs).otherRules e :=
  Builder.firstViolated_rules_iff (colonRules_hold .dataSet .dataSets rfl xs)
    (colonRules_hold .dataDir .dataDirs rfl xs) (colonRules_hold .configFile .configFiles rfl xs)

theorem otherRules_withoutPairs (xs : List Setting) :
    (described (withoutPairs xs)).otherRules = (described xs).otherRules := by
  have hpolicy : (described xs).submission.reconcile (described (withoutPairs xs)).bag =
      (described xs).submission.reconcile (described xs).bag :=
    Submission.reconcile_congr (by rw [span?_described, span?_described])
      (by rw [span?_described, span?_described]) _
  rw [Builder.otherRules, submission_described_withoutPairs, tolerations_described_withoutPairs,
    hpolicy]
  rfl

theorem ofSettings_eq_error_iff (xs : List Setting) (e : Submission.Error) :
    ofSettings xs = .error e ↔ FirstViolated (described xs).rules e := by
  rw [← Builder.finish_eq_error_iff]
  show (described xs).finish.map ofSubmission = .error e ↔ _
  cases (described xs).finish with
  | error e' => simp [Except.map]
  | ok s => simp [Except.map]

/-- Without the settings that are given by pairs the same happens. -/
theorem ofSettings_withoutPairs_eq_error_iff (xs : List Setting) (e : Submission.Error) :
    ofSettings (withoutPairs xs) = .error e ↔ ofSettings xs = .error e := by
  rw [ofSettings_eq_error_iff, ofSettings_eq_error_iff, firstViolated_described_iff,
    firstViolated_described_iff, otherRules_withoutPairs]

theorem exists_ofSettings_withoutPairs_iff (xs : List Setting) :
    (∃ t, ofSettings (withoutPairs xs) = .ok t) ↔ ∃ t, ofSettings xs = .ok t := by
  have hok : ∀ r : Except Submission.Error TrainingJob, (∃ t, r = .ok t) ↔ ∀ e, r ≠ .error e := by
    intro r
    cases r <;> simp
  simp only [hok, ne_eq, ofSettings_withoutPairs_eq_error_iff]

end TrainingJob

/-! ### What pairs come to -/

/-- The map of a job that is filled from the pairs of a field; volumes are no map. -/
def PairSetting.map? (j : JobSpec) : PairSetting → Option (Dict String)
  | .envs => some j.envs
  | .nodeSelectors => some j.nodeSelectors
  | .annotations => some j.annotations
  | .labels => some j.labels
  | .dataSets => some j.dataSets
  | .dataDirs => none
  | .devices => some j.devices
  | .configFiles => some j.configFiles

/-- What a submission derives for the map of a field. -/
def PairSetting.derived? (s : Submission) (k : String) : PairSetting → Option String
  | .envs => s.derivedEnv? k
  | .annotations => s.derivedAnnotation? k
  | _ => none

/-- **A map has what pairs give it.** A derived value comes first, and then what the last pair says
that gives a value to the key. The key of every pair is there. -/
structure Dict.Takes (d : Dict String) (derived? : String → Option String) (sep : Char)
    (ps : List (String × String)) : Prop where
  value : ∀ k v, d.get? k = some v ↔
    derived? k = some v ∨ derived? k = none ∧ Setting.LastTo sep ps k v
  kept : ∀ p ∈ ps, ∀ q, Setting.Becomes sep p q → q.1 ∈ d.keys

/-- **Volumes are made of pairs**, in their order and with their numbers. -/
structure JobSpec.MadeOf (volumes : List HostVolume) (ps : List (String × String)) : Prop where
  length : volumes.length = ps.length
  volume : ∀ i p, ps[i]? = some p → ∃ q, Setting.Becomes ':' p q ∧
    volumes[i]? = some (⟨"training-data-" ++ Text.ofNat i, q.1, q.2⟩ : HostVolume)

namespace Builder

variable {b : Builder} {r : Submission}

/-- What a map holds that starts empty and is filled from pairs. -/
theorem Fills.get?_map {j : JobSpec} (h : b.Fills j) {field : PairSetting} {d : Dict String}
    (hd : field.map? j = some d) (hstart : ∀ d ∈ field.map? b.submission.job, d = .empty)
    (k : String) : d.get? k = (field.derived? b.submission k).or
      (given? field.separator k (b.bag.texts field.option)) := by
  have hmerged : ∀ {sep option} {start : Dict String}, start = .empty →
      b.merged? sep option start k = given? sep k (b.bag.texts option) := by
    rintro sep option _ rfl
    exact Option.or_none
  cases field <;> cases hd
  case envs => exact (h.envs k).trans (congrArg _ (hmerged (hstart _ rfl)))
  case annotations => exact (h.annotations k).trans (congrArg _ (hmerged (hstart _ rfl)))
  case nodeSelectors => exact (h.nodeSelectors k).trans (hmerged (hstart _ rfl))
  case labels => exact (h.labels k).trans (hmerged (hstart _ rfl))
  case dataSets => exact (h.dataSets k).trans (hmerged (hstart _ rfl))
  case devices => exact (h.devices k).trans (hmerged (hstart _ rfl))
  case configFiles => exact (h.configFiles k).trans (hmerged (hstart _ rfl))

theorem dataDirs_of_finish (h : b.finish = .ok r) : r.job.dataDirs = b.submission.job.dataDirs ++
    JobSpec.volumesOf (readUntil (colonPair .dataDir) (b.bag.texts "data-dir")).1 := by
  obtain ⟨u, hu, rfl⟩ := reconciled_of_finish h
  exact hu.view_publish fun _ _ _ _ _ _ => rfl

end Builder

namespace Setting

variable {sep : Char} {ps : List (String × String)}

theorem takes_entries {d : Dict String} {derived? : String → Option String}
    (h : ∀ k, d.get? k = (derived? k).or (given? sep k (ps.map (entryOf sep)))) :
    d.Takes derived? sep ps where
  value k v := by
    rw [h k, Option.or_eq_some_iff, given?_entries]
  kept p hp q hq := by
    obtain ⟨v, hv⟩ := exists_given? hp hq
    rw [Dict.mem_keys_iff, h q.1, hv]
    cases derived? q.1 <;> simp

theorem madeOf_arrived (ps : List (String × String)) :
    JobSpec.MadeOf (JobSpec.volumesOf (ps.map (arrived ':'))) ps where
  length := by simp [JobSpec.volumesOf]
  volume i p hp := by
    refine ⟨arrived ':' p, becomes_arrived ':' p, ?_⟩
    simp [JobSpec.volumesOf, hp]

/-- Settings put no map and no volume into a submission, they defer them. -/
theorem maps_described (field : PairSetting) (xs : List Setting) :
    (∀ d ∈ field.map? (described xs).submission.job, d = .empty) ∧
      (described xs).submission.job.dataDirs = [] := by
  rw [(describes_described xs).submission]
  constructor
  · intro d hd
    cases field <;> cases hd <;> rfl
  · rfl

end Setting

namespace TrainingJob

open Setting

theorem finish_described {xs : List Setting} {t : TrainingJob} (h : ofSettings xs = .ok t) :
    (described xs).finish = .ok t.submission := by
  change (described xs).finish.map ofSubmission = .ok t at h
  cases hfinish : (described xs).finish with
  | error e =>
    rw [hfinish] at h
    cases h
  | ok s =>
    rw [hfinish] at h
    cases h
    rfl

/-- **What the pairs of settings come to.** Settings that are given by pairs never decide whether a
job is built, nor why it is not. A pair becomes the two sides of the first separator of its entry,
and it comes back exactly if its key has none. In a job that is built, every map has what the pairs
give it, and the volumes are made of the pairs, one of each. -/
theorem pairs_arrive (xs : List Setting) :
    ((∃ t, ofSettings xs = .ok t) ↔ ∃ t, ofSettings (withoutPairs xs) = .ok t) ∧
    (∀ e, ofSettings xs = .error e ↔ ofSettings (withoutPairs xs) = .error e) ∧
    (∀ sep p, ∃ q, Becomes sep p q ∧ (∀ q', Becomes sep p q' → q' = q) ∧
      (q = p ↔ sep ∉ p.1.toList)) ∧
    ∀ t, ofSettings xs = .ok t →
      (∀ (field : PairSetting) d, field.map? t.submission.job = some d →
        d.Takes (fun k => field.derived? (described xs).submission k) field.separator
          (pairsOfField field xs)) ∧
      JobSpec.MadeOf t.submission.job.dataDirs (pairsOfField .dataDirs xs) := by
  refine ⟨(exists_ofSettings_withoutPairs_iff xs).symm,
    fun e => (ofSettings_withoutPairs_eq_error_iff xs e).symm, fun sep p => ?_, fun t ht => ?_⟩
  · exact ⟨arrived sep p, becomes_arrived sep p, fun q' => becomes_iff.1, arrived_eq_self_iff⟩
  have hfinish := finish_described ht
  constructor
  · intro field d hd
    obtain ⟨u, hu, hpublish⟩ := Builder.reconciled_of_finish hfinish
    rw [hpublish] at hd
    refine takes_entries fun k => ?_
    rw [← texts_described]
    exact hu.fills.get?_map hd (maps_described field xs).1 k
  · have hentries : (described xs).bag.texts "data-dir" =
        (pairsOfField .dataDirs xs).map (entryOf ':') := texts_described .dataDirs xs
    rw [Builder.dataDirs_of_finish hfinish, (maps_described .dataDirs xs).2, hentries,
      readUntil_entries, List.nil_append]
    exact madeOf_arrived _

/-- Keys with a separator, a key that is given twice, a derived one, and a setting that replaces
another. -/
theorem pairs_arrive_colliding :
    let xs : List Setting :=
      [.text .name "demo", .pairs .envs [("A", "0")], .text .image "x",
       .pairs .envs [("A", "1"), ("A=B", "2"), ("workers", "9"), ("", "")], .pairs .envs [],
       .pairs .dataDirs [("/a", "/b"), ("/h:1", "/c")]]
    ∃ t, ofSettings xs = .ok t ∧ t.submission.job.envs.get? "A" = some "B=2" ∧
      t.submission.job.envs.get? "" = some "" ∧ t.submission.job.envs.get? "workers" = some "1" ∧
      ∃ q, Becomes ':' ("/h:1", "/c") q ∧
        t.submission.job.dataDirs[1]? = some ⟨"training-data-1", q.1, q.2⟩ := by
  intro xs
  have hbuilt : (ofSettings xs).isOk := by decide +kernel
  obtain ⟨t, ht⟩ : ∃ t, ofSettings xs = .ok t := by
    cases h : ofSettings xs with
    | error e => simp [h, Except.isOk, Except.toBool] at hbuilt
    | ok t => exact ⟨t, rfl⟩
  obtain ⟨-, -, -, harrive⟩ := pairs_arrive xs
  obtain ⟨hmaps, hvolumes⟩ := harrive t ht
  have henvs := hmaps .envs _ rfl
  refine ⟨t, ht, ?_, ?_, ?_, hvolumes.volume 1 _ rfl⟩
  · exact (henvs.value "A" "B=2").2 (.inr ⟨by decide, given?_entries.1 (by decide)⟩)
  · exact (henvs.value "" "").2 (.inr ⟨by decide, given?_entries.1 (by decide)⟩)
  · exact (henvs.value "workers" "1").2 (.inl (by decide +kernel))

end TrainingJob

end WrappedTraining
