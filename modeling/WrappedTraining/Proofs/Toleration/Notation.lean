import WrappedTraining.Proofs.Text.Numeral
import WrappedTraining.Proofs.Text.Pieces
import WrappedTraining.Toleration

/-!
# The notations of a toleration

`Toleration.Reading` lists the notations of a toleration as data. Each says how it is written
(`Reading.text`), which parts it can be written with (`Reading.WellFormed`) and what it stands for
(`Reading.toleration`).

The notations share their separators, and the key of a bare one can hold colons, so that its parts
are counted from the end. Yet no text is written by two of them:

* `Toleration.Ending.Follows.unique` : where the key of a bare notation ends;
* `Toleration.Reading.text_injective` : the parts of every notation.
-/

namespace WrappedTraining

namespace Toleration

/-! ### Notations -/

/-- The text of an effect, which is empty for every effect. -/
def effectToken (e : Option TaintEffect) : String := (e.map TaintEffect.name).getD ""

/-- The text of an operator, which is empty for an absent one. -/
def operatorToken (o : Option MatchOperator) : String := (o.map MatchOperator.name).getD ""

/-- The text is a 64-bit integer that is not negative. -/
def IsSeconds (n : String) : Prop := ∃ x, Text.int64? n = some x ∧ 0 ≤ x

/-- What can follow a key or a value: nothing, an effect, an operator after that, and a number of
seconds after both. -/
inductive Ending where
  | none
  | effect (e : Option TaintEffect)
  | operator (e : Option TaintEffect) (o : Option MatchOperator)
  | seconds (e : Option TaintEffect) (o : Option MatchOperator) (n : String)

namespace Ending

/-- The parts as they are written. -/
def tokens : Ending → List String
  | .none => []
  | .effect e => [effectToken e]
  | .operator e o => [effectToken e, operatorToken o]
  | .seconds e o n => [effectToken e, operatorToken o, n]

/-- The seconds, if there are any, are a number of seconds. -/
def Legal : Ending → Prop
  | .seconds _ _ n => IsSeconds n
  | _ => True

/-- How many colons the key of a bare notation can have. With a single one its second half is
taken for the effect, unless seconds show where the key ends. -/
def Allows (colons : Nat) : Ending → Prop
  | .none => colons = 0
  | .effect _ => colons = 0
  | .operator _ _ => colons = 0 ∨ 2 ≤ colons
  | .seconds _ _ _ => True

/-- The toleration of a key and a value with this ending; `default` is the operator when none can
be written. -/
def toleration (key : String) (value : Option String) (default : MatchOperator) :
    Ending → Toleration
  | .none => ⟨key, value, Option.none, some default, Option.none⟩
  | .effect e => ⟨key, value, e, some default, Option.none⟩
  | .operator e o => ⟨key, value, e, o, Option.none⟩
  | .seconds e o n => ⟨key, value, e, o, Text.int64? n⟩

end Ending

/-- A notation with its parts. -/
inductive Reading where
  /-- `key=value:effect,operator` -/
  | paired (key value : String) (e : Option TaintEffect) (o : Option MatchOperator)
  /-- `key=value:effect[:operator[:seconds]]` -/
  | valued (key value : String) (ending : Ending)
  /-- `key[:effect[:operator[:seconds]]]` -/
  | bare (key : String) (ending : Ending)

namespace Reading

/-- How a notation is written. -/
def text : Reading → String
  | .paired key value e o =>
    key ++ "=" ++ (value ++ ":" ++ (effectToken e ++ "," ++ operatorToken o))
  | .valued key value ending => key ++ "=" ++ Text.joined ':' (value :: ending.tokens)
  | .bare key ending => Text.joined ':' (key :: ending.tokens)

/-- The parts that a notation can be written with. -/
def WellFormed : Reading → Prop
  | .paired key value _ _ => '=' ∉ key.toList ∧ ':' ∉ value.toList
  | .valued key value ending =>
    '=' ∉ key.toList ∧ ':' ∉ value.toList ∧ ',' ∉ value.toList ∧ ending ≠ .none ∧ ending.Legal
  | .bare key ending =>
    '=' ∉ key.toList ∧ ending.Allows (key.toList.count ':') ∧ ending.Legal

/-- The toleration that a notation stands for. -/
def toleration : Reading → Toleration
  | .paired key value e o => ⟨key, Text.nonEmpty? value, e, o, none⟩
  | .valued key value ending => ending.toleration key (Text.nonEmpty? value) .equal
  | .bare key ending => ending.toleration key none .exist

end Reading

/-- The operator `Equal` has a value, and the operator `Exists` has none. -/
def Compatible (t : Toleration) : Prop :=
  (t.operator = some .equal → t.value ≠ none) ∧ (t.operator = some .exist → t.value = none)

/-- **The text is written as the reading says**, and operator and value go together. -/
structure Reading.Reads (r : Reading) (s : String) : Prop where
  text : r.text = s
  wellFormed : r.WellFormed
  compatible : r.toleration.Compatible

/-! ### Separators in tokens -/

/-- The characters that a notation is cut at. -/
def separators : List Char := [':', ',', '=']

theorem comma_mem_separators : ',' ∈ separators := by decide

theorem notMem_effectToken {c : Char} (h : c ∈ separators) (e : Option TaintEffect) :
    c ∉ (effectToken e).toList := by
  simp only [separators, List.mem_cons, List.not_mem_nil, or_false] at h
  rcases h with rfl | rfl | rfl <;> rcases e with _ | _ | _ | _ <;> decide

theorem notMem_operatorToken {c : Char} (h : c ∈ separators) (o : Option MatchOperator) :
    c ∉ (operatorToken o).toList := by
  simp only [separators, List.mem_cons, List.not_mem_nil, or_false] at h
  rcases h with rfl | rfl | rfl <;> rcases o with _ | _ | _ <;> decide

theorem IsSeconds.notMem {n : String} (hn : IsSeconds n) {c : Char} (h : c ∈ separators) :
    c ∉ n.toList := by
  have hseparators : separators.all fun c => ¬(c.isDigit ∨ c = '+' ∨ c = '-') := by decide
  have hnumeral := of_decide_eq_true (List.all_eq_true.1 hseparators c h)
  obtain ⟨x, hx, -⟩ := hn
  exact fun hc => hnumeral (Text.isNumeral_of_int64? hx c hc)

/-- No text of an operator is a number. -/
theorem not_isSeconds_operatorToken (o : Option MatchOperator) : ¬IsSeconds (operatorToken o) := by
  rintro ⟨x, hx, -⟩
  rcases o with _ | _ | _ <;> cases hx

theorem Ending.notMem_of_mem_tokens {E : Ending} (hE : E.Legal) {c : Char}
    (h : c ∈ separators) : ∀ token ∈ E.tokens, c ∉ token.toList := by
  cases E with
  | none => simp [tokens]
  | effect e => simpa [tokens] using notMem_effectToken h e
  | operator e o =>
    simpa [tokens] using ⟨notMem_effectToken h e, notMem_operatorToken h o⟩
  | seconds e o n =>
    simpa [tokens] using ⟨notMem_effectToken h e, notMem_operatorToken h o, hE.notMem h⟩

/-! ### Pieces of a notation -/

variable {key s : String} {ending : Ending}

/-- The text has the pieces of the key in front of the other parts. -/
structure Ending.Follows (ending : Ending) (key input : String) : Prop where
  allows : ending.Allows (key.toList.count ':')
  legal : ending.Legal
  pieces : Text.pieces ':' input = Text.pieces ':' key ++ ending.tokens

namespace Reading

/-- The texts before and after the first equals sign. -/
def halves? : Reading → Option (String × String)
  | .paired key value e o =>
    some (key, value ++ ":" ++ (effectToken e ++ "," ++ operatorToken o))
  | .valued key value ending => some (key, Text.joined ':' (value :: ending.tokens))
  | .bare _ _ => none

/-- The pieces of a bare notation are those of the key and the other parts. -/
theorem follows_text (h : (bare key ending).WellFormed) :
    ending.Follows key (bare key ending).text := by
  obtain ⟨-, hallows, hlegal⟩ := h
  exact ⟨hallows, hlegal,
    Text.pieces_joined_cons key (Ending.notMem_of_mem_tokens hlegal (by decide))⟩

/-- What follows the equals sign of a valued notation has no comma, and its pieces are the value and
the other parts. -/
theorem valued_rest {value : String} (h : (valued key value ending).WellFormed) :
    ',' ∉ (Text.joined ':' (value :: ending.tokens)).toList ∧
      Text.pieces ':' (Text.joined ':' (value :: ending.tokens)) = value :: ending.tokens := by
  obtain ⟨-, hcolon, hcomma, -, hlegal⟩ := h
  constructor
  · rw [Text.notMem_joined_iff (by decide), List.forall_mem_cons]
    exact ⟨hcomma, Ending.notMem_of_mem_tokens hlegal (by decide)⟩
  · rw [Text.pieces_joined_cons value (Ending.notMem_of_mem_tokens hlegal (by decide)),
      Text.pieces_of_notMem hcolon]
    rfl

theorem cut?_text {r : Reading} (h : r.WellFormed) : Text.cut? '=' r.text = r.halves? := by
  cases r with
  | paired key value e o => exact Text.cut?_append h.1 _
  | valued key value ending => exact Text.cut?_append h.1 _
  | bare key ending =>
    refine Text.cut?_eq_none_iff.2 ?_
    rw [text, Text.notMem_joined_iff (by decide), List.forall_mem_cons]
    exact ⟨h.1, Ending.notMem_of_mem_tokens h.2.2 (by decide)⟩

end Reading

/-! ### One notation for each text -/

theorem effectToken_injective {e e' : Option TaintEffect} (h : effectToken e = effectToken e') :
    e = e' := by
  revert h
  rcases e with _ | _ | _ | _ <;> rcases e' with _ | _ | _ | _ <;> decide

theorem operatorToken_injective {o o' : Option MatchOperator}
    (h : operatorToken o = operatorToken o') : o = o' := by
  revert h
  rcases o with _ | _ | _ <;> rcases o' with _ | _ | _ <;> decide

theorem Ending.tokens_injective {E E' : Ending} (h : E.tokens = E'.tokens) : E = E' := by
  cases E <;> cases E' <;> simp only [tokens, List.cons.injEq, reduceCtorEq, and_false] at h
  · rfl
  · rw [effectToken_injective h.1]
  · rw [effectToken_injective h.1, operatorToken_injective h.2.1]
  · rw [effectToken_injective h.1, operatorToken_injective h.2.1, h.2.2.1]

/-- The longer of two endings would end in a number where the shorter one has an operator. -/
theorem Ending.Follows.length_le {E E' : Ending} {key key' : String} (h : E.Follows key s)
    (h' : E'.Follows key' s) : E'.tokens.length ≤ E.tokens.length := by
  have hpieces : Text.pieces ':' key ++ E.tokens = Text.pieces ':' key' ++ E'.tokens :=
    h.pieces.symm.trans h'.pieces
  have hlen := congrArg List.length hpieces
  simp only [List.length_append, Text.length_pieces] at hlen
  obtain ⟨hallows, -, -⟩ := h
  obtain ⟨hallows', hlegal', -⟩ := h'
  cases E <;> cases E' <;>
    simp only [tokens, Allows, List.length_cons, List.length_nil] at hlen hallows hallows' ⊢ <;>
    try omega
  -- the numbers of colons leave one case: an operator after one key, and seconds after the other
  rename_i e o e' o' n
  have hlast := congrArg List.getLast? hpieces
  simp only [tokens, List.getLast?_append, List.getLast?_cons_cons, List.getLast?_singleton,
    Option.some_or, Option.some.injEq] at hlast
  exact absurd (hlast ▸ hlegal') (not_isSeconds_operatorToken o)

theorem Ending.Follows.unique {E E' : Ending} {key key' : String} (h : E.Follows key s)
    (h' : E'.Follows key' s) : key = key' ∧ E = E' := by
  have hlen : E.tokens.length = E'.tokens.length :=
    Nat.le_antisymm (h'.length_le h) (h.length_le h')
  obtain ⟨hkey, htokens⟩ := List.append_inj' (h.pieces.symm.trans h'.pieces) hlen
  exact ⟨Text.pieces_injective hkey, tokens_injective htokens⟩

theorem Reading.paired_rest_injective {value value' : String} {e e' : Option TaintEffect}
    {o o' : Option MatchOperator} (hvalue : ':' ∉ value.toList) (hvalue' : ':' ∉ value'.toList)
    (h : value ++ ":" ++ (effectToken e ++ "," ++ operatorToken o) =
      value' ++ ":" ++ (effectToken e' ++ "," ++ operatorToken o')) :
    value = value' ∧ e = e' ∧ o = o' := by
  have hcolon := Text.cut?_append hvalue (effectToken e ++ "," ++ operatorToken o)
  have hcolon' := Text.cut?_append hvalue' (effectToken e' ++ "," ++ operatorToken o')
  obtain ⟨hv, htail⟩ := Prod.mk.inj (Option.some.inj (hcolon.symm.trans (h ▸ hcolon')))
  have hcomma := Text.cut?_append (notMem_effectToken comma_mem_separators e) (operatorToken o)
  have hcomma' := Text.cut?_append (notMem_effectToken comma_mem_separators e') (operatorToken o')
  obtain ⟨he, ho⟩ := Prod.mk.inj (Option.some.inj (hcomma.symm.trans (htail ▸ hcomma')))
  exact ⟨hv, effectToken_injective he, operatorToken_injective ho⟩

/-- What follows the equals sign tells the paired notation by its comma. -/
theorem Reading.paired_rest_ne_valued {value value' : String} {e : Option TaintEffect}
    {o : Option MatchOperator} (h : (valued key value' ending).WellFormed) :
    value ++ ":" ++ (effectToken e ++ "," ++ operatorToken o) ≠
      Text.joined ':' (value' :: ending.tokens) := by
  intro heq
  refine (valued_rest h).1 ?_
  rw [← heq]
  simp

/-- **No text has two readings.** -/
theorem Reading.text_injective {r r' : Reading} (hr : r.WellFormed) (hr' : r'.WellFormed)
    (h : r.text = r'.text) : r = r' := by
  have hhalves : r.halves? = r'.halves? := by rw [← cut?_text hr, ← cut?_text hr', h]
  cases r with
  | paired key value e o =>
    cases r' with
    | paired key' value' e' o' =>
      obtain ⟨rfl, hrest⟩ := Prod.mk.inj (Option.some.inj hhalves)
      obtain ⟨rfl, rfl, rfl⟩ := paired_rest_injective hr.2 hr'.2 hrest
      rfl
    | valued key' value' E' =>
      exact absurd (Prod.mk.inj (Option.some.inj hhalves)).2 (paired_rest_ne_valued hr')
    | bare key' E' => cases hhalves
  | valued key value E =>
    cases r' with
    | paired key' value' e' o' =>
      exact absurd (Prod.mk.inj (Option.some.inj hhalves)).2.symm (paired_rest_ne_valued hr)
    | valued key' value' E' =>
      obtain ⟨rfl, hrest⟩ := Prod.mk.inj (Option.some.inj hhalves)
      have hpieces := (valued_rest hr).2
      rw [hrest, (valued_rest hr').2] at hpieces
      obtain ⟨rfl, htokens⟩ := List.cons.inj hpieces
      rw [Ending.tokens_injective htokens]
    | bare key' E' => cases hhalves
  | bare key E =>
    cases r' with
    | paired key' value' e' o' => cases hhalves
    | valued key' value' E' => cases hhalves
    | bare key' E' =>
      obtain ⟨rfl, rfl⟩ := (follows_text hr).unique (h ▸ follows_text hr')
      rfl

end Toleration

end WrappedTraining
