import Mathlib.Data.List.Forall2
import WrappedTraining.Proofs.Text.Pieces
import WrappedTraining.Report

/-!
# Columns of a listing

A line shows texts at certain places with blanks around them. `LaidOut` says so without filling
cells, and the places of the columns are read off from it: they are those of the header in every
row up to the status. The cell of the status is as wide as its text, so every later text of a row
stands before its heading by what this cell lacks.

* `Report.laidOut_row` : where the cells of a line stand;
* `Report.LaidOut.places_unique` : there is one way to read a line whose texts start with ink;
* `Report.LinesUp` : header and rows share their columns;
* `Report.columns_of_table` : where the texts of a listing stand, and that header and rows never
  share their columns.
-/

namespace WrappedTraining.Report

/-! ### Texts on a line -/

/-- **Texts on a line**, each at its place: blanks and nothing else stand before, between and behind
them. The characters are those from the place `n` on. -/
inductive LaidOut : Nat → List Nat → List String → List Char → Prop
  | blanks (n k : Nat) : LaidOut n [] [] (List.replicate k ' ')
  | text {n place : Nat} {places : List Nat} {t : String} {ts : List String} {cs : List Char} :
    n ≤ place → LaidOut (place + t.length) places ts cs →
    LaidOut n (place :: places) (t :: ts) (List.replicate (place - n) ' ' ++ (t.toList ++ cs))

/-- The texts stand on the line at these places, counted in characters from its start. -/
def StandAt (places : List Nat) (texts : List String) (line : String) : Prop :=
  LaidOut 0 places texts line.toList

namespace LaidOut

variable {n k : Nat} {places starts : List Nat} {texts : List String} {cs : List Char}

/-- More blanks in front of a line make no difference to where its texts stand. -/
theorem skip (h : LaidOut (n + k) places texts cs) :
    LaidOut n places texts (List.replicate k ' ' ++ cs) := by
  cases h with
  | blanks _ j =>
    rw [List.replicate_append_replicate]
    exact .blanks n (k + j)
  | @text _ place _ t _ cs hle hrest =>
    have hfront : List.replicate k ' ' ++ List.replicate (place - (n + k)) ' ' =
        List.replicate (place - n) ' ' := by
      rw [List.replicate_append_replicate]
      congr 1
      omega
    rw [← List.append_assoc, hfront]
    exact .text (by omega) hrest

/-- A line has the characters of its texts and blanks. -/
theorem notMem {c : Char} (hc : c ≠ ' ') (h : LaidOut n places texts cs)
    (htexts : ∀ t ∈ texts, c ∉ t.toList) : c ∉ cs := by
  induction h with
  | blanks n k => exact fun hmem => hc (List.eq_of_mem_replicate hmem)
  | text hle hrest ih =>
    obtain ⟨ht, hts⟩ := List.forall_mem_cons.1 htexts
    rw [List.mem_append, List.mem_append, not_or, not_or]
    exact ⟨fun hmem => hc (List.eq_of_mem_replicate hmem), ht, ih hts⟩

/-- The characters of a text are those from its place on. -/
theorem getElem?_place {i place j : Nat} {t : String} (h : LaidOut n places texts cs)
    (hplace : places[i]? = some place) (ht : texts[i]? = some t) (hj : j < t.length) :
    n ≤ place ∧ cs[place - n + j]? = t.toList[j]? := by
  induction h generalizing i with
  | blanks n k => cases hplace
  | @text n first places t' ts cs hle hrest ih =>
    cases i with
    | zero =>
      obtain rfl : first = place := Option.some.inj hplace
      obtain rfl : t' = t := Option.some.inj ht
      refine ⟨hle, ?_⟩
      rw [List.getElem?_append_right (by simp), List.length_replicate, Nat.add_sub_cancel_left,
        List.getElem?_append_left (by rw [String.length_toList]; exact hj)]
    | succ i =>
      obtain ⟨hbehind, hchar⟩ := ih hplace ht
      refine ⟨by omega, ?_⟩
      rw [List.getElem?_append_right (by rw [List.length_replicate]; omega), List.length_replicate,
        List.getElem?_append_right (by rw [String.length_toList]; omega), String.length_toList,
        ← hchar]
      congr 1
      omega

/-- The first ink behind blanks is where the text starts. -/
theorem findIdx_ink {ts : List Char} (hink : ts.head?.any (· ≠ ' ')) (m : Nat) (cs : List Char) :
    (List.replicate m ' ' ++ (ts ++ cs)).findIdx (· ≠ ' ') = m := by
  obtain ⟨c, hc, hblank⟩ := (Option.any_eq_true _ _).1 hink
  obtain ⟨rest, rfl⟩ := List.head?_eq_some_iff.1 hc
  induction m with
  | zero => simp [List.findIdx_cons, of_decide_eq_true hblank]
  | succ m ih =>
    rw [List.replicate_succ, List.cons_append, List.findIdx_cons, ih]
    rfl

/-- **There is one way to read a line** whose texts start with ink. -/
theorem places_unique (h : LaidOut n places texts cs) (h' : LaidOut n starts texts cs)
    (hink : ∀ t ∈ texts, t.toList.head?.any (· ≠ ' ')) : places = starts := by
  induction h generalizing starts with
  | blanks n k =>
    generalize List.replicate k ' ' = line at h'
    cases h'
    rfl
  | @text n place places t ts cs hle hrest ih =>
    obtain ⟨ht, hts⟩ := List.forall_mem_cons.1 hink
    generalize hline : List.replicate (place - n) ' ' ++ (t.toList ++ cs) = line at h'
    cases h' with
    | @text _ start starts _ _ cs' hle' hrest' =>
      have hfront := congrArg (List.findIdx (· ≠ ' ')) hline
      rw [findIdx_ink ht, findIdx_ink ht] at hfront
      obtain rfl : place = start := by omega
      obtain rfl : cs = cs' := List.append_cancel_left (List.append_cancel_left hline)
      rw [ih hrest' hts]

end LaidOut

/-! ### Cells -/

/-- Where cells of these widths start, the first of them at `n`. -/
def placesFrom (n : Nat) : List Nat → List Nat
  | [] => []
  | w :: ws => n :: placesFrom (n + w + 1) ws

theorem toList_cell (width : Nat) (t : String) :
    (cell width t).toList = t.toList ++ List.replicate (width - t.length) ' ' := by
  simp [cell]

/-- **Where the cells of a line stand**, if every text fits its cell. -/
theorem laidOut_row {widths : List Nat} {texts : List String}
    (h : List.Forall₂ (fun w (t : String) => t.length ≤ w) widths texts) (n : Nat) :
    LaidOut n (placesFrom n widths) texts (row (List.zipWith cell widths texts)).toList := by
  induction h generalizing n with
  | nil => exact .blanks n 0
  | @cons w t ws ts ht hrest ih =>
    have hself : List.replicate (n - n) ' ' = [] := by simp
    cases hrest with
    | nil =>
      show LaidOut n [n] [t] (row [cell w t]).toList
      have hchars : (row [cell w t]).toList =
          List.replicate (n - n) ' ' ++ (t.toList ++ List.replicate (w - t.length) ' ') := by
        simp [row, Text.joined, Text.joinList, toList_cell]
      rw [hchars]
      exact .text (Nat.le_refl n) (.blanks _ _)
    | @cons w' t' ws ts ht' hrest =>
      have hchars : (row (List.zipWith cell (w :: w' :: ws) (t :: t' :: ts))).toList =
          List.replicate (n - n) ' ' ++ (t.toList ++ (List.replicate (w - t.length + 1) ' ' ++
            (row (List.zipWith cell (w' :: ws) (t' :: ts))).toList)) := by
        rw [row, List.zipWith_cons_cons, List.zipWith_cons_cons, Text.joined_cons_cons, toList_cell,
          hself, List.replicate_succ']
        simp [row]
      rw [hchars]
      have hwidth : n + t.length + (w - t.length + 1) = n + w + 1 := by omega
      exact .text (Nat.le_refl n) (LaidOut.skip (hwidth ▸ ih (n + w + 1)))

/-- The places of the cells move with the place of the first. -/
theorem placesFrom_add (n d : Nat) (widths : List Nat) :
    placesFrom (n + d) widths = (placesFrom n widths).map (· + d) := by
  induction widths generalizing n with
  | nil => rfl
  | cons w ws ih =>
    have hnext : n + d + w + 1 = n + w + 1 + d := by omega
    rw [placesFrom, placesFrom, List.map_cons, hnext, ih]

/-- A cell that is narrower than its column pulls everything behind it forward. -/
theorem placesFrom_set {widths : List Nat} {i width k : Nat} (hi : widths[i]? = some width)
    (hk : k ≤ width) (n : Nat) :
    placesFrom n (widths.set i k) =
      (placesFrom n widths).mapIdx fun j p => if j ≤ i then p else p - (width - k) := by
  induction widths generalizing i n with
  | nil => cases hi
  | cons w ws ih =>
    cases i with
    | zero =>
      obtain rfl : w = width := Option.some.inj hi
      have hwidth : n + w + 1 = n + k + 1 + (w - k) := by omega
      rw [List.set_cons_zero, placesFrom, placesFrom, List.mapIdx_cons, hwidth,
        placesFrom_add (n + k + 1)]
      refine congrArg (n :: ·) (List.ext_getElem? fun j => ?_)
      simp [List.getElem?_mapIdx, Function.comp_def]
    | succ i =>
      rw [List.set_cons_succ, placesFrom, placesFrom, List.mapIdx_cons, ih hi]
      simp

theorem forall₂_set {R : Nat → String → Prop} {widths : List Nat} {texts : List String}
    (h : List.Forall₂ R widths texts) {i k : Nat} {t : String} (ht : texts[i]? = some t)
    (hk : R k t) : List.Forall₂ R (widths.set i k) texts := by
  induction h generalizing i with
  | nil => exact .nil
  | @cons _ t' _ _ hw hrest ih =>
    cases i with
    | zero =>
      obtain rfl : t' = t := Option.some.inj ht
      exact .cons hk hrest
    | succ i => exact .cons hw (ih ht)

/-! ### Lines -/

theorem lines_cons (l : String) (ls : List String) : lines (l :: ls) = l ++ "\n" ++ lines ls := by
  have hfrom : ∀ (ls : List String) (out : String),
      ls.foldl (fun out l => out ++ l ++ "\n") out = out ++ lines ls := by
    intro ls
    induction ls with
    | nil => simp [lines]
    | cons l ls ih =>
      intro out
      rw [lines, List.foldl_cons, List.foldl_cons, ih, ih]
      simp [String.append_assoc]
  rw [lines, List.foldl_cons, hfrom, String.empty_append]

/-- Lines come apart into themselves, with nothing behind the last end of a line. -/
theorem pieces_lines {ls : List String} (h : ∀ l ∈ ls, '\n' ∉ l.toList) :
    Text.pieces '\n' (lines ls) = ls ++ [""] := by
  induction ls with
  | nil => rfl
  | cons l ls ih =>
    obtain ⟨hl, hls⟩ := List.forall_mem_cons.1 h
    rw [lines_cons]
    exact (Text.pieces_append hl (lines ls)).trans (congrArg (l :: ·) (ih hls))

/-! ### The columns of a listing -/

/-- The width of the status column. -/
def statusWidth : Nat := 10

/-- A column of a listing. -/
structure Column where
  heading : String
  width : Nat

/-- The columns, with or without the namespace. -/
def columns (withNamespace : Bool) : List Column :=
  (if withNamespace then [⟨"NAMESPACE", namespaceWidth⟩] else []) ++
    [⟨"NAME", 32⟩, ⟨"STATUS", statusWidth⟩, ⟨"TRAINER", 14⟩, ⟨"DURATION", 10⟩, ⟨"GPU(R)", 8⟩,
      ⟨"GPU(A)", 8⟩, ⟨"NODE", 16⟩]

/-- The headings of the columns. -/
def headings (withNamespace : Bool) : List String := (columns withNamespace).map (·.heading)

/-- The widths of the columns. -/
def widths (withNamespace : Bool) : List Nat := (columns withNamespace).map (·.width)

/-- What a summary shows in the columns. -/
def texts (withNamespace : Bool) (s : JobSummary) : List String :=
  (if withNamespace then [s.namespaceName] else []) ++
    [s.name, s.status.name, trainerName, age (.ofSeconds s.durationSeconds),
      Text.ofInt s.requestedGpus, Text.ofInt s.allocatedGpus, s.hostIp]

/-- Every text of the summary fits its column and has no end of a line. -/
def Fits (withNamespace : Bool) (s : JobSummary) : Prop :=
  List.Forall₂ (fun width (t : String) => t.length ≤ width ∧ '\n' ∉ t.toList)
    (widths withNamespace) (texts withNamespace s)

/-- The place of the status among the columns. -/
def statusIndex (withNamespace : Bool) : Nat := if withNamespace then 2 else 1

/-- What the name of the status lacks to fill its column. -/
def lack (s : JobSummary) : Nat := statusWidth - s.status.name.length

/-- Where the columns start. -/
def places (withNamespace : Bool) : List Nat := placesFrom 0 (widths withNamespace)

/-- Where the texts of a summary start: what stands behind the status is too far to the left by
what the status lacks. -/
def rowPlaces (withNamespace : Bool) (s : JobSummary) : List Nat :=
  (places withNamespace).mapIdx fun i p => if i ≤ statusIndex withNamespace then p else p - lack s

variable {withNamespace : Bool} {s : JobSummary}

theorem tableHeader_eq (withNamespace : Bool) : tableHeader withNamespace =
    row (List.zipWith cell (widths withNamespace) (headings withNamespace)) := by
  cases withNamespace <;> rfl

theorem cell_length (t : String) : cell t.length t = t := by
  simp [cell]

/-- The cell of the status is as wide as its text. -/
theorem tableRow_eq (withNamespace : Bool) (s : JobSummary) : tableRow withNamespace s =
    row (List.zipWith cell ((widths withNamespace).set (statusIndex withNamespace)
      s.status.name.length) (texts withNamespace s)) := by
  cases withNamespace <;> simp [tableRow, widths, columns, statusIndex, texts, cell_length]

theorem length_name_lt (status : JobStatus) : status.name.length < statusWidth := by
  cases status <;> decide

theorem getElem?_widths (withNamespace : Bool) :
    (widths withNamespace)[statusIndex withNamespace]? = some statusWidth := by
  cases withNamespace <;> rfl

theorem getElem?_texts (withNamespace : Bool) (s : JobSummary) :
    (texts withNamespace s)[statusIndex withNamespace]? = some s.status.name := by
  cases withNamespace <;> rfl

/-- The headings stand where the columns start. -/
theorem standAt_header (withNamespace : Bool) :
    StandAt (places withNamespace) (headings withNamespace) (tableHeader withNamespace) := by
  rw [tableHeader_eq]
  refine laidOut_row ?_ 0
  cases withNamespace <;> decide

/-- The texts of a summary that fits stand at its own places. -/
theorem standAt_row (h : Fits withNamespace s) :
    StandAt (rowPlaces withNamespace s) (texts withNamespace s) (tableRow withNamespace s) := by
  have hfit : List.Forall₂ (fun width (t : String) => t.length ≤ width)
      (widths withNamespace) (texts withNamespace s) := h.imp fun _ _ ht => ht.1
  have hrow := laidOut_row
    (forall₂_set hfit (getElem?_texts withNamespace s) (Nat.le_refl s.status.name.length)) 0
  have hname : s.status.name.length ≤ statusWidth := Nat.le_of_lt (length_name_lt s.status)
  rw [placesFrom_set (getElem?_widths withNamespace) hname] at hrow
  rw [tableRow_eq]
  exact hrow

theorem notMem_header (withNamespace : Bool) : '\n' ∉ (tableHeader withNamespace).toList := by
  refine (standAt_header withNamespace).notMem (by decide) ?_
  cases withNamespace <;> decide

theorem notMem_row (h : Fits withNamespace s) : '\n' ∉ (tableRow withNamespace s).toList := by
  refine (standAt_row h).notMem (by decide) fun t ht => ?_
  obtain ⟨i, hi, rfl⟩ := List.getElem_of_mem ht
  exact (h.get (by rw [h.length_eq]; exact hi) hi).2

/-- The headings stand nowhere else. -/
theorem eq_places {starts : List Nat}
    (h : StandAt starts (headings withNamespace) (tableHeader withNamespace)) :
    starts = places withNamespace := by
  refine h.places_unique (standAt_header withNamespace) ?_
  cases withNamespace <;> decide

/-- The word for the kind of job does not read the same from where the status would have ended. -/
theorem trainerName_moved (s : JobSummary) :
    lack s < trainerName.length ∧ trainerName.toList[lack s]? ≠ trainerName.toList[0]? := by
  rw [lack]
  cases s.status <;> decide

theorem getElem?_trainerName (withNamespace : Bool) (s : JobSummary) :
    (texts withNamespace s)[statusIndex withNamespace + 1]? = some trainerName := by
  cases withNamespace <;> rfl

theorem exists_getElem?_places (withNamespace : Bool) :
    ∃ place, (places withNamespace)[statusIndex withNamespace + 1]? = some place ∧
      statusWidth ≤ place := by
  cases withNamespace
  · exact ⟨44, rfl, by decide⟩
  · exact ⟨61, rfl, by decide⟩

/-- **No row lines up with the header**: the kind of job does not stand under its heading. -/
theorem not_lined_up (h : Fits withNamespace s) {starts : List Nat}
    (hheader : StandAt starts (headings withNamespace) (tableHeader withNamespace)) :
    ¬ StandAt starts (texts withNamespace s) (tableRow withNamespace s) := by
  intro hrow
  rw [eq_places hheader] at hrow
  obtain ⟨place, hplace, hbehind⟩ := exists_getElem?_places withNamespace
  have hmoved : (rowPlaces withNamespace s)[statusIndex withNamespace + 1]? =
      some (place - lack s) := by
    rw [rowPlaces, List.getElem?_mapIdx, hplace, Option.map_some, if_neg (Nat.not_succ_le_self _)]
  have hlack : lack s ≤ place := Nat.le_trans (Nat.sub_le ..) hbehind
  have htext := getElem?_trainerName withNamespace s
  obtain ⟨hinside, hdiffers⟩ := trainerName_moved s
  -- the same character of the line, counted from the two places
  have hink : 0 < trainerName.length := Nat.lt_of_le_of_lt (Nat.zero_le (lack s)) hinside
  obtain ⟨-, hstart⟩ := hrow.getElem?_place hplace htext hink
  obtain ⟨-, hmid⟩ := (standAt_row h).getElem?_place hmoved htext hinside
  rw [Nat.sub_zero, Nat.sub_add_cancel hlack] at hmid
  exact hdiffers (hmid.symm.trans hstart)

/-- **Header and rows share their columns**: on each line of the listing, the texts of the columns
start at the same places. -/
def LinesUp (withNamespace : Bool) (summaries : List JobSummary) : Prop :=
  ∃ (starts : List Nat) (header : String) (rows : List String),
    Text.pieces '\n' (table withNamespace summaries) = header :: rows ++ [""] ∧
    StandAt starts (headings withNamespace) header ∧
    List.Forall₂ (fun s row => StandAt starts (texts withNamespace s) row) summaries rows

variable {summaries : List JobSummary}

/-- Every summary that fits has its line. -/
theorem pieces_table (h : ∀ s ∈ summaries, Fits withNamespace s) :
    Text.pieces '\n' (table withNamespace summaries) =
      tableHeader withNamespace :: summaries.map (tableRow withNamespace) ++ [""] := by
  refine pieces_lines ?_
  rw [List.forall_mem_cons, List.forall_mem_map]
  exact ⟨notMem_header withNamespace, fun s hs => notMem_row (h s hs)⟩

theorem linesUp_iff (h : ∀ s ∈ summaries, Fits withNamespace s) :
    LinesUp withNamespace summaries ↔ summaries = [] := by
  constructor
  · rintro ⟨starts, header, rows, hpieces, hheader, hrows⟩
    rw [pieces_table h] at hpieces
    obtain ⟨rfl, rfl⟩ := List.cons.inj (List.append_cancel_right hpieces)
    rw [List.forall₂_map_right_iff, List.forall₂_same] at hrows
    refine List.eq_nil_iff_forall_not_mem.2 fun s hs => ?_
    exact not_lined_up (h s hs) hheader (hrows s hs)
  · rintro rfl
    exact ⟨places withNamespace, tableHeader withNamespace, [], pieces_table h,
      standAt_header withNamespace, .nil⟩

/-- **The columns of a listing** whose texts fit. Every summary has its line. The headings stand
where the columns start, and so do the texts up to the status, while what is behind the status is
too far to the left by what the status lacks. So header and rows share their columns only if there
is no row. -/
theorem columns_of_table (h : ∀ s ∈ summaries, Fits withNamespace s) :
    Text.pieces '\n' (table withNamespace summaries) =
      tableHeader withNamespace :: summaries.map (tableRow withNamespace) ++ [""] ∧
    StandAt (places withNamespace) (headings withNamespace) (tableHeader withNamespace) ∧
    (∀ s ∈ summaries, 0 < lack s ∧
      StandAt (rowPlaces withNamespace s) (texts withNamespace s) (tableRow withNamespace s)) ∧
    (LinesUp withNamespace summaries ↔ summaries = []) := by
  refine ⟨pieces_table h, standAt_header withNamespace, fun s hs => ⟨?_, standAt_row (h s hs)⟩,
    linesUp_iff h⟩
  exact Nat.sub_pos_of_lt (length_name_lt s.status)

/-- A running job as a listing shows it. -/
def runningDemo : JobSummary where
  name := "demo"
  namespaceName := "ml"
  status := .running
  ageSeconds := 3600
  durationSeconds := 3540
  chief? := none
  podCount := 1
  requestedGpus := 2
  allocatedGpus := 2
  hostIp := "10.0.0.1"
  priorityClass := "default"
  retries := 0

theorem fits_runningDemo (withNamespace : Bool) : Fits withNamespace runningDemo := by
  rw [Fits]
  cases withNamespace <;> decide

/-- A listing of one running job. -/
theorem columns_of_table_running :
    (∀ s ∈ [runningDemo], Fits true s) ∧
      StandAt [0, 17, 50, 58, 73, 84, 93, 102] (texts true runningDemo)
        (tableRow true runningDemo) := by
  have hfit : ∀ s ∈ [runningDemo], Fits true s :=
    List.forall_mem_singleton.2 (fits_runningDemo true)
  obtain ⟨-, -, hrows, -⟩ := columns_of_table hfit
  exact ⟨hfit, (hrows runningDemo List.mem_cons_self).2⟩

/-- **A listing that is out of line**, with and without the namespace. -/
theorem listing_out_of_line :
    Fits true runningDemo ∧ ¬LinesUp true [runningDemo] ∧
      Fits false runningDemo ∧ ¬LinesUp false [runningDemo] := by
  have hout : ∀ withNamespace, ¬LinesUp withNamespace [runningDemo] := by
    intro withNamespace
    rw [linesUp_iff (List.forall_mem_singleton.2 (fits_runningDemo withNamespace))]
    exact List.cons_ne_nil _ _
  exact ⟨fits_runningDemo true, hout true, fits_runningDemo false, hout false⟩

end WrappedTraining.Report
