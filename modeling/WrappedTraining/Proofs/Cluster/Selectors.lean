import WrappedTraining.Proofs.Text.Pieces
import WrappedTraining.Trainer

/-!
# What selectors accept

The selectors of a lookup are texts. Read back, they ask for the labels that they were written
for, as long as the name of the job has no comma.

* `Selector.terms_equals`, `Selector.terms_append` : the demands of a written selector;
* `Metadata.isSelected_controller`, `Metadata.isSelected_older`, `Metadata.isSelected_own`,
  `Metadata.isSelected_labelled` : the objects that the selectors of a lookup choose.
-/

namespace WrappedTraining

namespace Selector

/-! ### Demands -/

/-- The demands of two selectors with a comma between them. -/
theorem terms_append {a : String} (h : ',' ∉ a.toList) (b : String) :
    terms (a ++ "," ++ b) = terms a ++ terms b := by
  have hpieces : Text.pieces ',' (a ++ "," ++ b) = Text.pieces ',' a ++ Text.pieces ',' b := by
    rw [Text.pieces_of_notMem h]
    exact Text.pieces_append h b
  unfold terms
  rw [hpieces, List.filter_append, List.map_append]

/-- A demand for the value of a label; the value can have an equals sign of its own. -/
theorem terms_equals {k v : String} (hk : ',' ∉ k.toList) (heq : '=' ∉ k.toList)
    (hv : ',' ∉ v.toList) : terms (k ++ "=" ++ v) = [.equals k v] := by
  have htoList : (k ++ "=" ++ v).toList = k.toList ++ '=' :: v.toList := by simp
  have hcomma : ',' ∉ (k ++ "=" ++ v).toList := by
    rw [htoList]
    simp [hk, hv]
  have hcut : Text.cut? '=' (k ++ "=" ++ v) = some (k, v) :=
    Text.cut?_eq_some_iff.2 ⟨htoList, heq⟩
  have hne : k ++ "=" ++ v ≠ "" := by
    intro h
    rw [h] at htoList
    exact List.append_ne_nil_of_right_ne_nil _ (List.cons_ne_nil _ _) htoList.symm
  unfold terms
  rw [Text.pieces_of_notMem hcomma]
  simp [hne, hcut]

/-- A demand for a label. -/
theorem terms_present {k : String} (hk : ',' ∉ k.toList) (heq : '=' ∉ k.toList) (hne : k ≠ "") :
    terms k = [.present k] := by
  have hcut : Text.cut? '=' k = none := Text.cut?_eq_none_iff.2 heq
  unfold terms
  rw [Text.pieces_of_notMem hk]
  simp [hne, hcut]

theorem terms_own : terms Trainer.ownSelector = [.equals Labels.app Submission.trainer] :=
  terms_equals (by decide) (by decide) (by decide)

end Selector

namespace Metadata

variable (m : Metadata) (ns? : Option String)

/-! ### Objects that the selectors of a lookup choose -/

/-- The object lies in the namespace, if one is given. -/
def isIn : Bool := ns?.isNone || m.namespaceName? = ns?

theorem isSelected_own :
    m.isSelected ns? Trainer.ownSelector =
      (m.isIn ns? && m.hasLabel Labels.app Submission.trainer) := by
  unfold isSelected Selector.accepts
  rw [Selector.terms_own]
  simp [isIn, hasLabel, Selector.Term.holds]

/-- The selector with a label's name alone asks for the label, whatever its value. -/
theorem isSelected_labelled :
    m.isSelected ns? Labels.envelopeName =
      (m.isIn ns? && (m.labels.get? Labels.envelopeName).isSome) := by
  unfold isSelected Selector.accepts
  rw [Selector.terms_present (by decide) (by decide) (by decide)]
  simp [isIn, Selector.Term.holds]

variable {name : String}

theorem isSelected_controller (h : ',' ∉ name.toList) :
    m.isSelected ns? (Trainer.controllerSelector name) =
      (m.isIn ns? && m.hasLabel Labels.envelopeName name) := by
  unfold isSelected Selector.accepts Trainer.controllerSelector
  rw [Selector.terms_equals (by decide) (by decide) h]
  simp [isIn, hasLabel, Selector.Term.holds]

theorem isSelected_older (h : ',' ∉ name.toList) :
    m.isSelected ns? (Trainer.olderSelector name) =
      (m.isIn ns? && (m.hasLabel Labels.release name &&
        m.hasLabel Labels.app Submission.trainer)) := by
  have hrelease : ',' ∉ (Labels.release ++ "=" ++ name).toList := by
    have hkey : ',' ∉ (Labels.release ++ "=").toList := by decide
    simp only [String.toList_append, List.mem_append, not_or] at hkey ⊢
    exact ⟨hkey, h⟩
  unfold isSelected Selector.accepts Trainer.olderSelector
  rw [Selector.terms_append hrelease, Selector.terms_equals (by decide) (by decide) h,
    Selector.terms_own]
  simp [isIn, hasLabel, Selector.Term.holds]

end Metadata

end WrappedTraining
