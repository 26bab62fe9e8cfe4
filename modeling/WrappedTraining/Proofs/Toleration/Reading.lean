import WrappedTraining.Proofs.Toleration.Notation

/-!
# How tolerations are read

Reading a toleration finds the notation that its text is written in.

* `Toleration.parsePaired_eq_ok_iff`, `Toleration.parseValued_eq_ok_iff`,
  `Toleration.exists_of_parseBare`, `Toleration.parseBare_eq_ok` : each notation on its own; a bare
  one of five or more pieces is read from its end (`Toleration.parseFromRight_eq_ok_iff`);
* `Toleration.parseParts_eq_ok_iff` : the three notations are read, and nothing else;
* `Toleration.parse_eq_ok_iff` : what is accepted, and that it has a single reading.
-/

namespace WrappedTraining

namespace Toleration

/-! ### Tokens -/

theorem bind_eq_ok_iff {α β : Type} {x : Except Error α} {f : α → Except Error β} {b : β} :
    (x >>= f) = .ok b ↔ ∃ a, x = .ok a ∧ f a = .ok b := by
  cases x <;> simp [bind, Except.bind]

theorem effectOf_effectToken (e : Option TaintEffect) : effectOf (effectToken e) = .ok e := by
  rcases e with _ | _ | _ | _ <;> rfl

theorem operatorOf_operatorToken (o : Option MatchOperator) :
    operatorOf (operatorToken o) = .ok o := by
  rcases o with _ | _ | _ <;> rfl

theorem effectOf_eq_ok_iff {token : String} {e : Option TaintEffect} :
    effectOf token = .ok e ↔ token = effectToken e := by
  refine ⟨fun h => ?_, fun h => h ▸ effectOf_effectToken e⟩
  unfold effectOf TaintEffect.ofName? at h
  grind [effectToken, TaintEffect.name]

theorem operatorOf_eq_ok_iff {token : String} {o : Option MatchOperator} :
    operatorOf token = .ok o ↔ token = operatorToken o := by
  refine ⟨fun h => ?_, fun h => h ▸ operatorOf_operatorToken o⟩
  unfold operatorOf MatchOperator.ofName? at h
  grind [operatorToken, MatchOperator.name]

theorem secondsOf_eq_ok_iff {n : String} {x : Int64} :
    secondsOf n = .ok x ↔ Text.int64? n = some x ∧ 0 ≤ x := by
  unfold secondsOf
  split
  · rename_i hnone
    simp [hnone]
  · rename_i y hy
    rw [hy]
    split
    · rename_i hneg
      refine iff_of_false nofun ?_
      rintro ⟨hx, hpos⟩
      obtain rfl := Option.some.inj hx
      exact Int64.not_le.2 hneg hpos
    · rename_i hpos
      constructor
      · rintro ⟨⟩
        exact ⟨rfl, Int64.not_lt.1 hpos⟩
      · rintro ⟨⟨⟩, -⟩
        rfl

theorem checkOperator_eq_ok_iff {t u : Toleration} :
    checkOperator t = .ok u ↔ t.Compatible ∧ u = t := by
  obtain ⟨key, value, effect, operator, seconds⟩ := t
  rcases value with _ | v <;> rcases operator with _ | _ | _ <;>
    simp [checkOperator, Compatible, eq_comm]

/-! ### The parts that follow one another -/

section Parts

variable {effect operator n : String} {t : Toleration}

theorem readEffect_eq_ok_iff {f : Option TaintEffect → Toleration} :
    (do let e ← effectOf effect; return f e) = .ok t ↔
      ∃ e, effect = effectToken e ∧ f e = t := by
  simp only [bind_eq_ok_iff, effectOf_eq_ok_iff, pure, Except.pure, Except.ok.injEq]

theorem readOperator_eq_ok_iff {f : Option TaintEffect → Option MatchOperator → Toleration} :
    (do let e ← effectOf effect; let o ← operatorOf operator; return f e o) = .ok t ↔
      ∃ e o, effect = effectToken e ∧ operator = operatorToken o ∧ f e o = t := by
  simp only [bind_eq_ok_iff, effectOf_eq_ok_iff, operatorOf_eq_ok_iff, pure, Except.pure,
    Except.ok.injEq, exists_and_left]

theorem readSeconds_eq_ok_iff
    {f : Option TaintEffect → Option MatchOperator → Option Int64 → Toleration} :
    (do let e ← effectOf effect; let o ← operatorOf operator; let x ← secondsOf n
        return f e o (some x)) = .ok t ↔
      ∃ e o, effect = effectToken e ∧ operator = operatorToken o ∧ IsSeconds n ∧
        f e o (Text.int64? n) = t := by
  simp only [bind_eq_ok_iff, effectOf_eq_ok_iff, operatorOf_eq_ok_iff, secondsOf_eq_ok_iff, pure,
    Except.pure, Except.ok.injEq, IsSeconds]
  constructor
  · rintro ⟨e, rfl, o, rfl, x, ⟨hn, hpos⟩, rfl⟩
    exact ⟨e, o, rfl, rfl, ⟨x, hn, hpos⟩, by rw [hn]⟩
  · rintro ⟨e, o, rfl, rfl, ⟨x, hn, hpos⟩, rfl⟩
    exact ⟨e, rfl, o, rfl, x, ⟨hn, hpos⟩, by rw [hn]⟩

end Parts

/-! ### The paired notation -/

theorem parsePaired_eq_ok_iff {input key rest : String} {t : Toleration} :
    parsePaired input key rest = .ok t ↔ ∃ value e o, ':' ∉ value.toList ∧
      rest = value ++ ":" ++ (effectToken e ++ "," ++ operatorToken o) ∧
      t = (Reading.paired key value e o).toleration := by
  unfold parsePaired
  constructor
  · intro h
    split at h
    · cases h
    · rename_i value tail hcolon
      split at h
      · cases h
      · rename_i effect operator hcomma
        obtain ⟨rfl, hvalue⟩ := Text.eq_of_cut? hcolon
        obtain ⟨rfl, -⟩ := Text.eq_of_cut? hcomma
        obtain ⟨e, o, rfl, rfl, rfl⟩ := readOperator_eq_ok_iff.1 h
        exact ⟨value, e, o, hvalue, rfl, rfl⟩
  · rintro ⟨value, e, o, hvalue, rfl, rfl⟩
    have hcolon : Text.cut? ':' (value ++ ":" ++ (effectToken e ++ "," ++ operatorToken o)) =
        some (value, effectToken e ++ "," ++ operatorToken o) := Text.cut?_append hvalue _
    have hcomma : Text.cut? ',' (effectToken e ++ "," ++ operatorToken o) =
        some (effectToken e, operatorToken o) :=
      Text.cut?_append (notMem_effectToken (by decide) e) _
    rw [hcolon]
    simp only [hcomma]
    exact readOperator_eq_ok_iff.2 ⟨e, o, rfl, rfl, rfl⟩

/-! ### The valued notation -/

theorem parseValued_eq_ok_iff {input key rest : String} {t : Toleration} :
    parseValued input key rest = .ok t ↔ ∃ value ending, ending ≠ Ending.none ∧ ending.Legal ∧
      Text.pieces ':' rest = value :: ending.tokens ∧
      t = (Reading.valued key value ending).toleration := by
  unfold parseValued
  constructor
  · intro h
    split at h
    · rename_i value effect hpieces
      obtain ⟨e, rfl, rfl⟩ := readEffect_eq_ok_iff.1 h
      exact ⟨value, .effect e, nofun, trivial, hpieces, rfl⟩
    · rename_i value effect operator hpieces
      obtain ⟨e, o, rfl, rfl, rfl⟩ := readOperator_eq_ok_iff.1 h
      exact ⟨value, .operator e o, nofun, trivial, hpieces, rfl⟩
    · rename_i value effect operator n hpieces
      obtain ⟨e, o, rfl, rfl, hn, rfl⟩ := readSeconds_eq_ok_iff.1 h
      exact ⟨value, .seconds e o n, nofun, hn, hpieces, rfl⟩
    · cases h
    · cases h
    · cases h
  · rintro ⟨value, ending, hne, hlegal, hpieces, rfl⟩
    rw [hpieces]
    cases ending with
    | none => exact absurd rfl hne
    | effect e => exact readEffect_eq_ok_iff.2 ⟨e, rfl, rfl⟩
    | operator e o => exact readOperator_eq_ok_iff.2 ⟨e, o, rfl, rfl, rfl⟩
    | seconds e o n => exact readSeconds_eq_ok_iff.2 ⟨e, o, rfl, rfl, hlegal, rfl⟩

/-! ### The bare notation -/

section FromRight

variable {last operator effect : String} {head : List String} {t : Toleration}

theorem parseFromRight_of_isSeconds (h : IsSeconds last) :
    parseFromRight (last :: operator :: effect :: head) = do
      let e ← effectOf effect
      let o ← operatorOf operator
      let x ← secondsOf last
      return ⟨Text.joined ':' head.reverse, none, e, o, some x⟩ := by
  obtain ⟨x, hx⟩ := h
  have hseconds : secondsOf last = .ok x := secondsOf_eq_ok_iff.2 hx
  rw [parseFromRight, hseconds]
  rfl

theorem parseFromRight_of_not_isSeconds (h : ¬IsSeconds last) :
    parseFromRight (last :: operator :: effect :: head) = do
      let e ← effectOf operator
      let o ← operatorOf last
      return ⟨Text.joined ':' (effect :: head).reverse, none, e, o, none⟩ := by
  rw [parseFromRight]
  cases hseconds : secondsOf last with
  | ok x => exact absurd ⟨x, secondsOf_eq_ok_iff.1 hseconds⟩ h
  | error c => rfl

/-- The last piece decides how the others are read: it is a number of seconds or an operator, and
never both. -/
theorem parseFromRight_eq_ok_iff :
    parseFromRight (last :: operator :: effect :: head) = .ok t ↔
      (∃ e o, effect = effectToken e ∧ operator = operatorToken o ∧ IsSeconds last ∧
        ⟨Text.joined ':' head.reverse, none, e, o, Text.int64? last⟩ = t) ∨
      ∃ e o, operator = effectToken e ∧ last = operatorToken o ∧
        ⟨Text.joined ':' (effect :: head).reverse, none, e, o, none⟩ = t := by
  by_cases hlast : IsSeconds last
  · have hno : ∀ o, last ≠ operatorToken o :=
      fun o ho => not_isSeconds_operatorToken o (ho ▸ hlast)
    rw [parseFromRight_of_isSeconds hlast, readSeconds_eq_ok_iff]
    refine ⟨.inl, ?_⟩
    rintro (h | ⟨e, o, -, ho, -⟩)
    · exact h
    · exact absurd ho (hno o)
  · rw [parseFromRight_of_not_isSeconds hlast, readOperator_eq_ok_iff]
    refine ⟨.inr, ?_⟩
    rintro (⟨e, o, -, -, hn, -⟩ | h)
    · exact absurd hn hlast
    · exact h

end FromRight

/-- Five or more pieces are read from the last one. -/
theorem parseBare_of_five {input : String} (h : 5 ≤ (Text.pieces ':' input).length) :
    parseBare input = parseFromRight (Text.pieces ':' input).reverse := by
  unfold parseBare
  split
  all_goals first | rfl | (rename_i hpieces; rw [hpieces] at h; simp at h)

theorem exists_of_five {rs : List String} (h : 5 ≤ rs.length) :
    ∃ last operator effect head, 2 ≤ head.length ∧ rs = last :: operator :: effect :: head := by
  match rs, h with
  | last :: operator :: effect :: head, h =>
    exact ⟨last, operator, effect, head, by simpa using h, rfl⟩

theorem pieces_of_colonFree {key : String} (h : key.toList.count ':' = 0) :
    Text.pieces ':' key = [key] :=
  Text.pieces_of_notMem (List.count_eq_zero.1 h)

variable {input key : String} {ending : Ending} {t : Toleration}

/-- The pieces in front of the other parts join to the key. -/
theorem Ending.follows_joined {ks : List String}
    (hpieces : Text.pieces ':' input = ks ++ ending.tokens) (hne : ks ≠ [])
    (hallows : ending.Allows (ks.length - 1)) (hlegal : ending.Legal) :
    ending.Follows (Text.joined ':' ks) input := by
  have hfree : ∀ p ∈ ks, ':' ∉ p.toList := fun p hp =>
    Text.notMem_of_mem_pieces (s := input) (hpieces ▸ List.mem_append_left _ hp)
  have hkey : Text.pieces ':' (Text.joined ':' ks) = ks := Text.pieces_joined hne hfree
  have hcount := Text.length_pieces ':' (Text.joined ':' ks)
  refine ⟨?_, hlegal, by rw [hkey, hpieces]⟩
  rw [hkey] at hcount
  rwa [hcount, Nat.add_sub_cancel] at hallows

theorem Ending.follows_single (hpieces : Text.pieces ':' input = key :: ending.tokens)
    (hallows : ending.Allows 0) (hlegal : ending.Legal) : ending.Follows key input := by
  have hkey : Text.joined ':' [key] = key := String.ofList_toList
  have hsingle : Text.pieces ':' input = [key] ++ ending.tokens := hpieces
  exact hkey ▸ follows_joined hsingle (List.cons_ne_nil key []) hallows hlegal

theorem exists_of_parseFromRight (hlen : 5 ≤ (Text.pieces ':' input).length)
    (h : parseFromRight (Text.pieces ':' input).reverse = .ok t) :
    ∃ key ending, Ending.Follows ending key input ∧ (Reading.bare key ending).toleration = t := by
  have hlen' : 5 ≤ (Text.pieces ':' input).reverse.length := by rwa [List.length_reverse]
  obtain ⟨last, operator, effect, head, hhead, hrev⟩ := exists_of_five hlen'
  have hpieces : Text.pieces ':' input = head.reverse ++ [effect, operator, last] := by
    rw [← List.reverse_reverse (Text.pieces ':' input), hrev]
    simp
  rw [hrev, parseFromRight_eq_ok_iff] at h
  rcases h with ⟨e, o, rfl, rfl, hn, rfl⟩ | ⟨e, o, rfl, rfl, rfl⟩
  · -- a number at the end: the two pieces before it are operator and effect
    have hne : head.reverse ≠ [] := by
      intro hnil
      rw [List.reverse_eq_nil_iff.1 hnil] at hhead
      cases hhead
    exact ⟨_, .seconds e o last, Ending.follows_joined hpieces hne trivial hn, rfl⟩
  · -- an operator at the end: one piece more belongs to the key
    have hkey : Text.pieces ':' input =
        (effect :: head).reverse ++ (Ending.operator e o).tokens := by
      rw [hpieces, List.reverse_cons, List.append_assoc]
      rfl
    have htwo : 2 ≤ (effect :: head).reverse.length - 1 := by simpa using hhead
    exact ⟨_, .operator e o, Ending.follows_joined hkey (by simp) (.inr htwo) trivial, rfl⟩

theorem exists_of_parseBare (h : parseBare input = .ok t) :
    ∃ key ending, Ending.Follows ending key input ∧ (Reading.bare key ending).toleration = t := by
  by_cases hlen : 5 ≤ (Text.pieces ':' input).length
  · exact exists_of_parseFromRight hlen (parseBare_of_five hlen ▸ h)
  · unfold parseBare at h
    split at h
    · rename_i key hpieces
      exact ⟨key, .none, Ending.follows_single hpieces rfl trivial, Except.ok.inj h⟩
    · rename_i key effect hpieces
      obtain ⟨e, rfl, rfl⟩ := readEffect_eq_ok_iff.1 h
      exact ⟨key, .effect e, Ending.follows_single hpieces rfl trivial, rfl⟩
    · rename_i key effect operator hpieces
      obtain ⟨e, o, rfl, rfl, rfl⟩ := readOperator_eq_ok_iff.1 h
      exact ⟨key, .operator e o, Ending.follows_single hpieces (.inl rfl) trivial, rfl⟩
    · rename_i key effect operator n hpieces
      obtain ⟨e, o, rfl, rfl, hn, rfl⟩ := readSeconds_eq_ok_iff.1 h
      exact ⟨key, .seconds e o n, Ending.follows_single hpieces trivial hn, rfl⟩
    · -- a text has a piece, and one to four of them were met above
      rename_i h₁ h₂ h₃ h₄
      match hpieces : Text.pieces ':' input with
      | [] => exact absurd hpieces (Text.pieces_ne_nil ':' input)
      | [a] => exact absurd hpieces (h₁ a)
      | [a, b] => exact absurd hpieces (h₂ a b)
      | [a, b, c] => exact absurd hpieces (h₃ a b c)
      | [a, b, c, d] => exact absurd hpieces (h₄ a b c d)
      | _ :: _ :: _ :: _ :: _ :: _ => simp [hpieces] at hlen

/-- A notation whose pieces are a key and other parts is read as they say. -/
theorem parseBare_eq_ok (h : ending.Follows key input) :
    parseBare input = .ok (Reading.bare key ending).toleration := by
  obtain ⟨hcolons, hlegal, hpieces⟩ := h
  have hlen : (Text.pieces ':' input).length = key.toList.count ':' + 1 + ending.tokens.length := by
    rw [hpieces, List.length_append, Text.length_pieces]
  by_cases hfree : key.toList.count ':' = 0
  · rw [pieces_of_colonFree hfree] at hpieces
    unfold parseBare
    rw [hpieces]
    cases ending with
    | none => rfl
    | effect e => exact readEffect_eq_ok_iff.2 ⟨e, rfl, rfl⟩
    | operator e o => exact readOperator_eq_ok_iff.2 ⟨e, o, rfl, rfl, rfl⟩
    | seconds e o n => exact readSeconds_eq_ok_iff.2 ⟨e, o, rfl, rfl, hlegal, rfl⟩
  · -- with a colon in the key there are at least five pieces
    have hkey : Text.joined ':' (Text.pieces ':' key).reverse.reverse = key := by
      rw [List.reverse_reverse, Text.joined_pieces]
    cases ending with
    | none => exact absurd hcolons hfree
    | effect e => exact absurd hcolons hfree
    | operator e o =>
      have hfive : 5 ≤ (Text.pieces ':' input).length := by
        have htwo := hcolons.resolve_left hfree
        simp only [Ending.tokens, List.length_cons, List.length_nil] at hlen
        omega
      obtain ⟨effect, head, hhead⟩ :
          ∃ effect head, (Text.pieces ':' key).reverse = effect :: head :=
        List.exists_cons_of_ne_nil (mt List.reverse_eq_nil_iff.1 (Text.pieces_ne_nil ':' key))
      have hrev : (Text.pieces ':' input).reverse =
          operatorToken o :: effectToken e :: effect :: head := by
        rw [hpieces, List.reverse_append, hhead]
        rfl
      rw [parseBare_of_five hfive, hrev, parseFromRight_eq_ok_iff]
      refine .inr ⟨e, o, rfl, rfl, ?_⟩
      rw [← hhead, hkey]
      rfl
    | seconds e o n =>
      have hfive : 5 ≤ (Text.pieces ':' input).length := by
        simp only [Ending.tokens, List.length_cons, List.length_nil] at hlen
        omega
      have hrev : (Text.pieces ':' input).reverse =
          n :: operatorToken o :: effectToken e :: (Text.pieces ':' key).reverse := by
        rw [hpieces, List.reverse_append]
        rfl
      rw [parseBare_of_five hfive, hrev, parseFromRight_eq_ok_iff]
      refine .inl ⟨e, o, rfl, rfl, hlegal, ?_⟩
      rw [hkey]
      rfl

/-! ### What is read -/

variable {s : String}

theorem exists_of_parseParts (h : parseParts s = .ok t) :
    ∃ r : Reading, r.text = s ∧ r.WellFormed ∧ r.toleration = t := by
  unfold parseParts at h
  split at h
  · rename_i key rest hcut
    obtain ⟨rfl, hkey⟩ := Text.eq_of_cut? hcut
    split at h
    · obtain ⟨value, e, o, hvalue, rfl, rfl⟩ := parsePaired_eq_ok_iff.1 h
      exact ⟨.paired key value e o, rfl, ⟨hkey, hvalue⟩, rfl⟩
    · rename_i hcomma
      obtain ⟨value, ending, hne, hlegal, hpieces, rfl⟩ := parseValued_eq_ok_iff.1 h
      have hrest : Text.joined ':' (value :: ending.tokens) = rest := by
        rw [← hpieces, Text.joined_pieces]
      have hvalue : ':' ∉ value.toList :=
        Text.notMem_of_mem_pieces (s := rest) (hpieces ▸ List.mem_cons_self)
      have hcommas : ∀ p ∈ value :: ending.tokens, ',' ∉ p.toList := by
        rw [← Text.notMem_joined_iff (by decide : ',' ≠ ':'), hrest]
        simpa using hcomma
      refine ⟨.valued key value ending, ?_,
        ⟨hkey, hvalue, hcommas value List.mem_cons_self, hne, hlegal⟩, rfl⟩
      rw [Reading.text, hrest]
      rfl
  · rename_i hcut
    obtain ⟨key, ending, hfollows, rfl⟩ := exists_of_parseBare h
    have hs : Text.joined ':' (key :: ending.tokens) = s := by
      have hpieces := Text.pieces_joined_cons key
        (Ending.notMem_of_mem_tokens hfollows.legal (by decide : ':' ∈ separators))
      exact Text.pieces_injective (hpieces.trans hfollows.pieces.symm)
    have hequals : ∀ p ∈ key :: ending.tokens, '=' ∉ p.toList := by
      rw [← Text.notMem_joined_iff (by decide : '=' ≠ ':'), hs]
      exact Text.cut?_eq_none_iff.1 hcut
    exact ⟨.bare key ending, hs,
      ⟨hequals key List.mem_cons_self, hfollows.allows, hfollows.legal⟩, rfl⟩

theorem parseParts_text {r : Reading} (h : r.WellFormed) :
    parseParts r.text = .ok r.toleration := by
  unfold parseParts
  rw [Reading.cut?_text h]
  cases r with
  | paired key value e o =>
    have hcomma : (value ++ ":" ++ (effectToken e ++ "," ++ operatorToken o)).toList.contains ','
        = true := by simp
    simp only [Reading.halves?, hcomma, if_true]
    exact parsePaired_eq_ok_iff.2 ⟨value, e, o, h.2, rfl, rfl⟩
  | valued key value ending =>
    obtain ⟨hcomma, hpieces⟩ := Reading.valued_rest h
    simp only [Reading.halves?, List.contains_iff_mem, hcomma, if_false]
    exact parseValued_eq_ok_iff.2 ⟨value, ending, h.2.2.2.1, h.2.2.2.2, hpieces, rfl⟩
  | bare key ending => exact parseBare_eq_ok (Reading.follows_text h)

/-- **The three notations are read, and nothing else**: a text is read as a toleration exactly if
some well-formed notation is written so. -/
theorem parseParts_eq_ok_iff :
    parseParts s = .ok t ↔ ∃ r : Reading, r.text = s ∧ r.WellFormed ∧ r.toleration = t := by
  refine ⟨exists_of_parseParts, ?_⟩
  rintro ⟨r, rfl, hr, rfl⟩
  exact parseParts_text hr

/-- **What is accepted as a toleration.** A text is accepted exactly if a well-formed notation is
written so whose operator goes with its value. The toleration has the parts of that notation, and
there is only one. -/
theorem parse_eq_ok_iff (s : String) (t : Toleration) :
    (parse s = .ok t ↔ ∃ r : Reading, r.Reads s ∧ r.toleration = t) ∧
      ∀ r r' : Reading, r.Reads s → r'.Reads s → r = r' := by
  constructor
  · unfold parse
    rw [bind_eq_ok_iff]
    constructor
    · rintro ⟨u, hu, hcheck⟩
      obtain ⟨hcompatible, rfl⟩ := checkOperator_eq_ok_iff.1 hcheck
      obtain ⟨r, htext, hr, rfl⟩ := parseParts_eq_ok_iff.1 hu
      exact ⟨r, ⟨htext, hr, hcompatible⟩, rfl⟩
    · rintro ⟨r, ⟨htext, hr, hcompatible⟩, rfl⟩
      exact ⟨r.toleration, parseParts_eq_ok_iff.2 ⟨r, htext, hr, rfl⟩,
        checkOperator_eq_ok_iff.2 ⟨hcompatible, rfl⟩⟩
  · intro r r' h h'
    exact Reading.text_injective h.wellFormed h'.wellFormed (h.text.trans h'.text.symm)

/-- With a single colon in the key, only seconds show where it ends. -/
example : parse "a:b:NoSchedule:Exists:30" =
    .ok ⟨"a:b", none, some .noSchedule, some .exist, some 30⟩ ∧
    parse "a:b:NoSchedule:Exists" = .error (.effect "b") := by decide +kernel

end Toleration

end WrappedTraining
