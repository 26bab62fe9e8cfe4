import WrappedTraining.Proofs.Submission.Stages

/-!
# Deferred options that come to the same

A submission reads its deferred options by name and kind, and skips an entry without an equals sign
where it looks for pairs. Bags can therefore differ in lengths of time, and in entries that are
skipped, without any of the parts that complete a submission on their own taking notice.

* `Bag.Alike` : bags that come to the same but for lengths of time;
* `Submission.fragments_congr` : the parts of a submission are completed alike.
-/

namespace WrappedTraining

/-- An entry without the separator makes no pair. -/
theorem pairsOf_filter (sep : Char) (entries : List String) :
    pairsOf sep (entries.filter fun e => e.toList.contains sep) = pairsOf sep entries := by
  unfold pairsOf
  rw [List.filterMap_filter]
  congr 1
  funext e
  split
  · rfl
  · rename_i h
    exact (Text.cut?_eq_none_iff.2 (by simpa using h)).symm

namespace Bag

/-- The options that are read as pairs with an equals sign. -/
def skippingOptions : List String := ["env", "selector", "annotation", "label", "device"]

/-- The bags come to the same but for lengths of time. -/
structure Alike (a b : Bag) : Prop where
  pairs : ∀ k ∈ skippingOptions, pairsOf '=' (a.texts k) = pairsOf '=' (b.texts k)
  texts : ∀ k ∉ skippingOptions, a.texts k = b.texts k
  dict? : ∀ k, a.dict? k = b.dict? k

theorem Alike.insert {a b : Bag} (h : a.Alike b) (k : String) (v : OptionValue) :
    (a.insert k v).Alike (b.insert k v) := by
  constructor
  · intro j hmem
    by_cases hj : j = k
    · simp [Bag.texts, Bag.insert, hj]
    · simpa [Bag.texts, Bag.insert, hj] using h.pairs j hmem
  · intro j hmem
    by_cases hj : j = k
    · simp [Bag.texts, Bag.insert, hj]
    · simpa [Bag.texts, Bag.insert, hj] using h.texts j hmem
  · intro j
    by_cases hj : j = k
    · simp [Bag.dict?, Bag.insert, hj]
    · simpa [Bag.dict?, Bag.insert, hj] using h.dict? j

/-! ### Options of another kind -/

theorem texts_insert_span (b : Bag) (name k : String) (d : Span) :
    (b.insert name (.span d)).texts k = if k = name then [] else b.texts k := by
  by_cases h : k = name <;> simp [Bag.texts, Bag.insert, h]

theorem span?_insert_texts (b : Bag) (name k : String) (values : List String) :
    (b.insert name (.texts values)).span? k = if k = name then none else b.span? k := by
  by_cases h : k = name <;> simp [Bag.span?, Bag.insert, h]

theorem dict?_insert_texts (b : Bag) (name k : String) (values : List String) :
    (b.insert name (.texts values)).dict? k = if k = name then none else b.dict? k := by
  by_cases h : k = name <;> simp [Bag.dict?, Bag.insert, h]

theorem dict?_insert_span (b : Bag) (name k : String) (d : Span) :
    (b.insert name (.span d)).dict? k = if k = name then none else b.dict? k := by
  by_cases h : k = name <;> simp [Bag.dict?, Bag.insert, h]

end Bag

namespace Submission

variable {a b : Bag}

theorem addDataSets_congr (h : a.Alike b) : addDataSets a = addDataSets b := by
  funext s
  unfold addDataSets
  rw [h.texts "data" (by decide)]

theorem addEntries_congr (h : a.Alike b) : JobSpec.addEntries a = JobSpec.addEntries b := by
  funext j
  unfold JobSpec.addEntries
  rw [h.pairs "env" (by decide), h.pairs "selector" (by decide),
    h.pairs "annotation" (by decide), h.pairs "label" (by decide)]

theorem addSecrets_congr (h : a.Alike b) : JobSpec.addSecrets a = JobSpec.addSecrets b := by
  funext j
  unfold JobSpec.addSecrets
  rw [h.texts "image-pull-secret" (by decide), h.pairs "device" (by decide)]

theorem addOptions_congr (h : a.Alike b) : addOptions a = addOptions b := by
  have htols : addTolerations a = addTolerations b := by
    funext s
    unfold addTolerations
    rw [h.texts "toleration" (by decide)]
  have hdirs : addDataDirs a = addDataDirs b := by
    funext s
    unfold addDataDirs
    rw [h.texts "data-dir" (by decide)]
  have hfiles : addConfigFiles a = addConfigFiles b := by
    funext s
    unfold addConfigFiles
    rw [h.texts "config-file" (by decide)]
  funext s
  simp only [addOptions, addEntries_congr h, addSecrets_congr h, htols, hdirs, hfiles]

theorem buildDashboard_congr (h : a.Alike b) : buildDashboard a = buildDashboard b := by
  have hlogs : logsOnDataSet a = logsOnDataSet b := by
    funext s
    unfold logsOnDataSet
    rw [h.dict?]
  have hplace : placeLogs a = placeLogs b := by
    funext s
    unfold placeLogs
    rw [hlogs]
  funext s
  unfold buildDashboard
  rw [hplace]

/-- **Parts of a submission are completed alike** with deferred options that come to the same. -/
theorem fragments_congr (h : a.Alike b) : fragments a = fragments b := by
  funext s
  rw [fragments_eq, fragments_eq, addOptions_congr h]
  unfold derive services
  rw [buildDashboard_congr h]

end Submission

end WrappedTraining
