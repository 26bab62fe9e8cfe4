import WrappedTraining.Json
import WrappedTraining.Text.Cut
import WrappedTraining.Text.Numeral

/-!
# Tolerations

A toleration lets pods run on nodes with a matching taint. Three notations are read, told apart by
the characters `=` and `,`:

* paired, `key=value:effect,operator`, when a comma follows the first `=`;
* valued, `key=value:effect[:operator[:seconds]]`, whose operator is `Equal` unless given;
* bare, `key[:effect[:operator[:seconds]]]` without `=`, whose operator is `Exists` unless given.
  With five or more pieces it is read from the right, so that a key may hold colons.

`Toleration.parse` reads all three, and `Toleration.Error` says why a text is refused. An empty
piece counts as absent.
-/

namespace WrappedTraining

/-- What a taint does to pods that do not tolerate it. -/
inductive TaintEffect where
  | noSchedule
  | preferNoSchedule
  | noExecute
deriving DecidableEq, Inhabited

namespace TaintEffect

/-- The name of an effect. -/
def name : TaintEffect → String
  | .noSchedule => "NoSchedule"
  | .preferNoSchedule => "PreferNoSchedule"
  | .noExecute => "NoExecute"

/-- The effect of a name. -/
def ofName? (s : String) : Option TaintEffect :=
  if s = "NoSchedule" then some .noSchedule
  else if s = "PreferNoSchedule" then some .preferNoSchedule
  else if s = "NoExecute" then some .noExecute
  else none

end TaintEffect

/-- How a toleration compares its key with that of a taint. -/
inductive MatchOperator where
  /-- The key is there, whatever its value. -/
  | exist
  /-- The key is there with the value of the toleration. -/
  | equal
deriving DecidableEq, Inhabited

namespace MatchOperator

/-- The name of an operator. -/
def name : MatchOperator → String
  | .exist => "Exists"
  | .equal => "Equal"

/-- The operator of a name. -/
def ofName? (s : String) : Option MatchOperator :=
  if s = "Exists" then some .exist
  else if s = "Equal" then some .equal
  else none

end MatchOperator

/-- A toleration; a part that is `none` was left out. -/
structure Toleration where
  /-- The taint's key; empty for every key. -/
  key : String
  /-- The taint's value, never empty. -/
  value : Option String
  /-- The tolerated effect; absent for every effect. -/
  effect : Option TaintEffect
  /-- How key and value are compared. -/
  operator : Option MatchOperator
  /-- How long a running pod stays. -/
  seconds : Option Int64
deriving DecidableEq

namespace Toleration

/-- The toleration of every taint. -/
def all : Toleration := ⟨"", none, none, some .exist, none⟩

/-! ### Errors -/

/-- The notations named when the pieces of a text do not fit. -/
inductive Shape where
  | paired
  | valued
  | valuedAtMost
deriving DecidableEq

/-- Why a text is no toleration. -/
inductive Error where
  | format (input : String) (expected : Shape)
  | effect (token : String)
  | operator (token : String)
  | secondsNotNumber (token : String)
  | secondsNegative (token : String)
  | equalWithoutValue
  | valueWithOperator (operator : MatchOperator)
deriving DecidableEq

/-- The notation as it is described to the user. -/
def Shape.description : Shape → String
  | .paired => "'key=value:effect,operator'"
  | .valued => "'key=value:effect:operator' or 'key=value:effect:operator:tolerationSeconds'"
  | .valuedAtMost =>
    "at most 'key=value:effect:operator:tolerationSeconds' (too many ':' separators after '=')"

/-- The text of an error. -/
def Error.message : Error → String
  | .format input expected =>
    "invalid toleration format: '" ++ input ++ "'. Expected " ++ expected.description
  | .effect token =>
    "invalid toleration effect '" ++ token ++
      "': must be NoSchedule, PreferNoSchedule, or NoExecute"
  | .operator token =>
    "invalid toleration operator '" ++ token ++ "': must be Exists or Equal"
  | .secondsNotNumber token => "invalid tolerationSeconds '" ++ token ++ "': must be a number"
  | .secondsNegative token => "invalid tolerationSeconds '" ++ token ++ "': must be >= 0"
  | .equalWithoutValue =>
    "operator 'Equal' requires a non-empty value. Use 'key=value:effect:Equal'"
  | .valueWithOperator o =>
    "operator '" ++ o.name ++ "' cannot be combined with a value. Use 'Equal' or omit the value"

/-! ### The pieces of a text -/

/-- The effect of a piece. -/
def effectOf (token : String) : Except Error (Option TaintEffect) :=
  if token = "" then .ok none
  else match TaintEffect.ofName? token with
    | some e => .ok (some e)
    | none => .error (.effect token)

/-- The operator of a piece. -/
def operatorOf (token : String) : Except Error (Option MatchOperator) :=
  if token = "" then .ok none
  else match MatchOperator.ofName? token with
    | some o => .ok (some o)
    | none => .error (.operator token)

/-- The seconds of a piece: a 64-bit integer that is not negative. -/
def secondsOf (token : String) : Except Error Int64 :=
  match Text.int64? token with
  | none => .error (.secondsNotNumber token)
  | some n => if n < 0 then .error (.secondsNegative token) else .ok n

/-! ### The three notations -/

/-- The paired notation, cut at its first `=` into `key` and `rest`. -/
def parsePaired (input key rest : String) : Except Error Toleration :=
  match Text.cut? ':' rest with
  | none => .error (.format input .paired)
  | some (value, tail) =>
    match Text.cut? ',' tail with
    | none => .error (.format input .paired)
    | some (effect, operator) => do
      let effect ← effectOf effect
      let operator ← operatorOf operator
      return ⟨key, Text.nonEmpty? value, effect, operator, none⟩

/-- The valued notation, cut at its first `=` into `key` and `rest`. -/
def parseValued (input key rest : String) : Except Error Toleration :=
  match Text.pieces ':' rest with
  | [value, effect] => do
    let effect ← effectOf effect
    return ⟨key, Text.nonEmpty? value, effect, some .equal, none⟩
  | [value, effect, operator] => do
    let effect ← effectOf effect
    let operator ← operatorOf operator
    return ⟨key, Text.nonEmpty? value, effect, operator, none⟩
  | [value, effect, operator, seconds] => do
    let effect ← effectOf effect
    let operator ← operatorOf operator
    let seconds ← secondsOf seconds
    return ⟨key, Text.nonEmpty? value, effect, operator, some seconds⟩
  | [] => .error (.format input .valued)
  | [_] => .error (.format input .valued)
  | _ => .error (.format input .valuedAtMost)

/-- A bare notation of five or more pieces, given with its last piece first: the last three are
effect, operator and seconds if the last is a number of seconds, else the last two are effect and
operator; the pieces before them are the key. -/
def parseFromRight : List String → Except Error Toleration
  | last :: operator :: effect :: head =>
    match secondsOf last with
    | .ok seconds => do
      let effect ← effectOf effect
      let operator ← operatorOf operator
      return ⟨Text.joined ':' head.reverse, none, effect, operator, some seconds⟩
    | .error _ => do
      let key := Text.joined ':' (effect :: head).reverse
      let effect ← effectOf operator
      let operator ← operatorOf last
      return ⟨key, none, effect, operator, none⟩
  | pieces => .ok ⟨Text.joined ':' pieces.reverse, none, none, some .exist, none⟩

/-- The bare notation. -/
def parseBare (input : String) : Except Error Toleration :=
  match Text.pieces ':' input with
  | [key] => .ok ⟨key, none, none, some .exist, none⟩
  | [key, effect] => do
    let effect ← effectOf effect
    return ⟨key, none, effect, some .exist, none⟩
  | [key, effect, operator] => do
    let effect ← effectOf effect
    let operator ← operatorOf operator
    return ⟨key, none, effect, operator, none⟩
  | [key, effect, operator, seconds] => do
    let effect ← effectOf effect
    let operator ← operatorOf operator
    let seconds ← secondsOf seconds
    return ⟨key, none, effect, operator, some seconds⟩
  | pieces => parseFromRight pieces.reverse

/-! ### Reading -/

/-- A value goes with the operator `Equal` and with no other. -/
def checkOperator (t : Toleration) : Except Error Toleration :=
  match t.value, t.operator with
  | none, some .equal => .error .equalWithoutValue
  | some _, some .exist => .error (.valueWithOperator .exist)
  | _, _ => .ok t

/-- Read a toleration before its value and operator are compared. -/
def parseParts (input : String) : Except Error Toleration :=
  match Text.cut? '=' input with
  | some (key, rest) =>
    if rest.toList.contains ',' then parsePaired input key rest else parseValued input key rest
  | none => parseBare input

/-- Read a toleration in any of the three notations. -/
def parse (input : String) : Except Error Toleration := do
  checkOperator (← parseParts input)

/-! ### Records -/

/-- The toleration as a record: the key always, other parts when present. -/
def toJson (t : Toleration) : Json :=
  .obj ([("key", .str t.key)]
    ++ Json.optional "value" (t.value.map .str)
    ++ Json.optional "effect" (t.effect.map fun e => .str e.name)
    ++ Json.optional "operator" (t.operator.map fun o => .str o.name)
    ++ Json.optional "tolerationSeconds" (t.seconds.map .ofInt64))

/-- The toleration as it stands in a pod: parts in alphabetical order, without an empty key. -/
def toPodJson (t : Toleration) : Json :=
  .obj (Json.optional "effect" (t.effect.map fun e => .str e.name)
    ++ Json.optional "key" ((Text.nonEmpty? t.key).map .str)
    ++ Json.optional "operator" (t.operator.map fun o => .str o.name)
    ++ Json.optional "tolerationSeconds" (t.seconds.map .ofInt64)
    ++ Json.optional "value" (t.value.map .str))

/-- The parts of a record in their order. -/
def keys : List String := ["key", "value", "effect", "operator", "tolerationSeconds"]

/-- The toleration of a record; a record needs a key, and unknown parts are ignored. -/
def ofJson? (j : Json) : Option Toleration := do
  let j ← j.record? keys
  let key ← (← j.field? "key").str?
  let value ← j.nullable? "value" Json.str?
  let effect ← j.nullable? "effect" fun v =>
    (v.choice? Json.isNothing).bind TaintEffect.ofName?
  let operator ← j.nullable? "operator" fun v =>
    (v.choice? Json.isNothing).bind MatchOperator.ofName?
  let seconds ← j.nullable? "tolerationSeconds" Json.int64?
  return ⟨key, value, effect, operator, seconds⟩

end Toleration

end WrappedTraining
