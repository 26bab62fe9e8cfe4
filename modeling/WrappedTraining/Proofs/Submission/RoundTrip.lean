import WrappedTraining.Proofs.Json.RoundTrip
import WrappedTraining.Submission.Record

/-!
# Submissions that read back as they were written

`Submission.fields` is one flat table of about sixty fields, of which many are left out when they
are empty. It is complete: the keys are distinct, and every part of a submission is in a field that
reads back what it wrote.

* `Toleration.ofJson?_toJson`, `HostVolume.ofJson?_toJson` : the records inside a submission;
* `Submission.readBack?_jobFields` and its siblings : which part of a submission each group of
  fields carries;
* `Submission.complete_fields` : together they carry all of it;
* `Submission.reads_back_of_perm` : a submission is read back from its record, also in another order
  and among unknown fields, and no two submissions have the same record.
-/

namespace WrappedTraining

open Json (readBack? readBack?_append)

namespace Toleration

theorem field?_toJson (t : Toleration) (k : String) :
    t.toJson.field? k =
      if "key" = k then some (.str t.key) else
      (if "value" = k then t.value.map .str else none).or
      ((if "effect" = k then t.effect.map fun e => .str e.name else none).or
      ((if "operator" = k then t.operator.map fun o => .str o.name else none).or
      (if "tolerationSeconds" = k then t.seconds.map .ofInt64 else none))) := by
  simp [toJson, Json.field?, Dict.lookup?_append, Json.lookup?_optional, Dict.lookup?]

theorem ofJson?_toJson (t : Toleration) : ofJson? t.toJson = some t := by
  -- every part is looked up under its own key, where a part without a value is missing
  have hrecord : t.toJson.record? keys = some t.toJson := rfl
  have hkey : t.toJson.field? "key" = some (.str t.key) := by simp [field?_toJson]
  have hvalue : t.toJson.nullable? "value" Json.str? = some t.value :=
    Json.nullable?_of_field? (by simp [field?_toJson]) Json.str?_str nofun
  have heffect : (t.toJson.nullable? "effect" fun v =>
      (v.choice? Json.isNothing).bind TaintEffect.ofName?) = some t.effect := by
    have hfield : t.toJson.field? "effect" = t.effect.map fun e => .str e.name := by
      simp [field?_toJson]
    exact Json.nullable?_of_field? hfield (by rintro (_ | _ | _) <;> decide) nofun
  have hoperator : (t.toJson.nullable? "operator" fun v =>
      (v.choice? Json.isNothing).bind MatchOperator.ofName?) = some t.operator := by
    have hfield : t.toJson.field? "operator" = t.operator.map fun o => .str o.name := by
      simp [field?_toJson]
    exact Json.nullable?_of_field? hfield (by rintro (_ | _) <;> decide) nofun
  have hseconds : t.toJson.nullable? "tolerationSeconds" Json.int64? = some t.seconds :=
    Json.nullable?_of_field? (by simp [field?_toJson]) Json.int64?_ofInt64 nofun
  simp only [ofJson?, hrecord, hkey, hvalue, heffect, hoperator, hseconds, Json.str?_str,
    Option.bind_eq_bind, Option.bind_some]
  rfl

end Toleration

namespace HostVolume

theorem complete_fields : Json.Complete fields where
  keys := by decide +kernel
  readBack r a := by simp [fields, readBack?]

theorem ofJson?_toJson (v : HostVolume) : ofJson? v.toJson = some v := by
  have hrecord : v.toJson.record? (fields.map (·.key)) = some v.toJson := rfl
  rw [ofJson?, Json.readRecord?, hrecord, Option.bind_some]
  exact complete_fields.readAll?_writeAll _ v

end HostVolume

namespace Submission

/-! ### What each group of fields carries -/

theorem readBack?_resources (r a : Submission) :
    readBack? [.textOrEmpty "cpu" (·.cpu) fun s x => { s with cpu := x },
      .textOrEmpty "memory" (·.memory) fun s x => { s with memory := x }] r a =
        some { a with cpu := r.cpu, memory := r.memory } := by
  simp [readBack?]

theorem readBack?_jobFields (r a : Submission) :
    readBack? jobFields r a = some { a with job := r.job } := by
  simp [jobFields, readBack?, Json.Field.read_write_list Toleration.ofJson?_toJson,
    Json.Field.read_write_list HostVolume.ofJson?_toJson,
    Json.Field.read_write_list Json.str?_str, setJob, Json.Field.required, Json.choice?]

theorem readBack?_dashboardFields (r a : Submission) :
    readBack? dashboardFields r a = some { a with dashboard := r.dashboard } := by
  simp [dashboardFields, readBack?]

theorem readBack?_syncFields (r a : Submission) :
    readBack? syncFields r a = some { a with sync := r.sync } := by
  simp [syncFields, readBack?]

theorem readBack?_policyFields (r a : Submission) :
    readBack? policyFields r a = some { a with policy := r.policy } := by
  simp [policyFields, readBack?, Json.Field.read_write_required Json.int64?_ofInt64]

theorem readBack?_faultFields (r a : Submission) :
    readBack? faultFields r a = some { a with queueName := r.queueName, faults := r.faults } := by
  simp [faultFields, readBack?]

theorem readBack?_innerFields (r a : Submission) :
    readBack? innerFields r a = some { a with
      innerType := r.innerType
      task := r.task
      topology := r.topology
      totalPartitions := r.totalPartitions
      partitionSize := r.partitionSize
      partitionTopology := r.partitionTopology
      ringController := r.ringController } := by
  -- the service plugin is written as a truth value only if it is set
  cases hplugin : r.task.useServicePlugin <;>
    simp [innerFields, readBack?, Json.Field.omitted, Json.isNull, Json.bool?, hplugin] <;>
    rw [← hplugin]

theorem complete_fields : Json.Complete fields where
  keys := by decide +kernel
  readBack r a := by
    -- the groups one after the other, each adding its part of `r` to what was read so far
    unfold fields
    rw [readBack?_append, readBack?_append, readBack?_append, readBack?_append, readBack?_append,
      readBack?_append, readBack?_resources, Option.bind_some, readBack?_jobFields,
      Option.bind_some, readBack?_dashboardFields, Option.bind_some, readBack?_syncFields,
      Option.bind_some, readBack?_policyFields, Option.bind_some, readBack?_faultFields,
      Option.bind_some, readBack?_innerFields]

/-! ### The whole record -/

theorem ofJson?_toJson (s : Submission) : ofJson? s.toJson = some s :=
  complete_fields.readAll?_writeAll initial s

theorem toJson_injective : Function.Injective toJson := by
  intro s t h
  have : some s = some t := by rw [← ofJson?_toJson s, ← ofJson?_toJson t, h]
  exact Option.some.inj this

/-- **A submission is determined by its record and read back from it**: from the object that is
written, and from an object with the same fields in any order to which fields with unknown keys
were added. -/
theorem reads_back_of_perm (s : Submission) {extra es : List (String × Json)}
    (hextra : ∀ e ∈ extra, e.1 ∉ fields.map (·.key))
    (hes : es.Perm (Json.writeFields fields s ++ extra)) :
    ofJson? s.toJson = some s ∧ ofJson? (.obj es) = some s ∧ Function.Injective toJson :=
  ⟨ofJson?_toJson s, complete_fields.readAll? initial s hextra hes, toJson_injective⟩

/-- A submission with fields of every kind, and an unknown field before those that were written. -/
theorem reads_back_of_perm_unknown_first :
    let s : Submission := { initial with
      cpu := "4"
      job := { initial.job with
        devices := Dict.empty.insert "nvidia.com/gpu" "2"
        tolerations := [⟨"gpu", none, some .noSchedule, some .exist, some 30⟩]
        dataDirs := [⟨"data", "/srv/data", "/data"⟩] }
      policy := { initial.policy with ttlSecondsAfterFinished := -1 }
      task := { initial.task with useServicePlugin := some false } }
    let extra := [("comment", Json.str "nightly")]
    (∀ e ∈ extra, e.1 ∉ fields.map (·.key)) ∧
      (extra ++ Json.writeFields fields s).Perm (Json.writeFields fields s ++ extra) ∧
      ofJson? s.toJson = some s ∧
      ofJson? (.obj (extra ++ Json.writeFields fields s)) = some s ∧
      Function.Injective toJson := by
  intro s extra
  have hextra : ∀ e ∈ extra, e.1 ∉ fields.map (·.key) := by decide +kernel
  have hes : (extra ++ Json.writeFields fields s).Perm (Json.writeFields fields s ++ extra) :=
    List.perm_append_comm
  exact ⟨hextra, hes, reads_back_of_perm s hextra hes⟩

end Submission

end WrappedTraining
