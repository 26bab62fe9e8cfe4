import WrappedTraining.Text.Numeral

/-!
# Scalars of a YAML document

A text in a document is written in the lightest `Style` that reads back as that text:

* a text with a line feed is a block of lines, if its blanks allow that;
* a text that would read as nothing, a truth value or a number is put between single quotes
  (`readsAsOther`);
* other texts stand as they are (`allowsPlain`), or between single quotes, or, if some character
  needs an escape, between double quotes.
-/

namespace WrappedTraining.Yaml

/-- How a text is written. -/
inductive Style where
  | plain
  | single
  | double
  /-- A block of lines below the place of the text. -/
  | block
deriving DecidableEq

/-! ### Characters -/

/-- The character ends a line. -/
def isBreak (c : Char) : Bool :=
  c = '\n' || c = '\r' || c = '\x85' || c = '\u2028' || c = '\u2029'

/-- The character can stand in a document without an escape. -/
def isShown (c : Char) : Bool :=
  c = '\n' || (0x20 ≤ c.toNat && c.toNat ≤ 0x7E) ||
    (0xA0 ≤ c.toNat && c.toNat ≠ 0xFEFF && c.toNat ≠ 0xFFFE && c.toNat ≠ 0xFFFF)

/-- A blank, the end of a line, or the end of the text. -/
def isGap : Option Char → Bool
  | none => true
  | some c => c = ' ' || c = '\t' || c = '\x00' || isBreak c

/-- Two neighbours where the first meets `p` and the second `q`. -/
def hasPair (p q : Char → Bool) : List Char → Bool
  | a :: b :: cs => (p a && q b) || hasPair p q (b :: cs)
  | _ => false

/-! ### Texts that read as something else -/

/-- Spellings of no value. -/
def nullWords : List String := ["", "~", "null", "Null", "NULL"]

/-- Spellings of truth values. Words such as `yes` and `off` are texts. -/
def truthWords : List String := ["true", "True", "TRUE", "false", "False", "FALSE"]

/-- Spellings of infinity, after an optional sign. -/
def infinityWords : List String := [".inf", ".Inf", ".INF"]

/-- Spellings of a number that is none. -/
def nanWords : List String := [".nan", ".NaN", ".NAN"]

/-- The value of a digit in a base up to sixteen. -/
def digit? (base : Nat) (c : Char) : Option Nat :=
  let v :=
    if '0' ≤ c ∧ c ≤ '9' then c.toNat - '0'.toNat
    else if 'a' ≤ c ∧ c ≤ 'f' then c.toNat - 'a'.toNat + 10
    else if 'A' ≤ c ∧ c ≤ 'F' then c.toNat - 'A'.toNat + 10
    else base
  if v < base then some v else none

/-- The value of digits in a base, added to `base` times what was read before. -/
def digitsValue? (base n : Nat) : List Char → Option Nat
  | [] => some n
  | c :: cs =>
    match digit? base c with
    | some v => digitsValue? base (base * n + v) cs
    | none => none

/-- The base that a letter after `0` stands for. -/
def base? : Char → Option Nat
  | 'x' => some 16
  | 'o' => some 8
  | 'b' => some 2
  | _ => none

/-- An integer in base 16, 8 or 2 that fits into 128 bits. -/
def isBasedInteger (isNegative : Bool) : List Char → Bool
  | '0' :: letter :: d :: ds =>
    match (base? letter).bind fun b => digitsValue? b 0 (d :: ds) with
    | some n => n ≤ if isNegative then Nat.pow 2 127 else Nat.pow 2 128 - 1
    | none => false
  | _ => false

/-- The least magnitude that no double is near to. -/
def doubleBound : Nat := Nat.pow 2 1024 - Nat.pow 2 970

/-- Whether `m * 10 ^ e` is below the bound of the doubles; `m` has `digits` decimal digits. -/
def isBelowBound (m digits : Nat) (e : Int) : Bool :=
  if m = 0 ∨ digits + e ≤ 308 then true
  else if 309 < digits + e then false
  else if 0 ≤ e then m * Nat.pow 10 e.toNat < doubleBound
  else m < doubleBound * Nat.pow 10 (-e).toNat

/-- The exponent of a decimal number, zero when there is none. -/
def exponent? : List Char → Option Int
  | [] => some 0
  | c :: cs => if c = 'e' ∨ c = 'E' then Text.integer? cs else none

/-- A decimal number without a sign: digits with an optional point, at least one digit, and an
optional exponent. Its value is one of a double. -/
def isDecimal (cs : List Char) : Bool :=
  let whole := cs.takeWhile Char.isDigit
  let rest := cs.dropWhile Char.isDigit
  let hasPoint := rest.head? = some '.'
  let places := if hasPoint then rest.tail.takeWhile Char.isDigit else []
  let rest := if hasPoint then rest.tail.dropWhile Char.isDigit else rest
  let digits := whole ++ places
  match exponent? rest with
  | some e =>
    digits ≠ [] && isBelowBound (Text.digitsValue digits) (digits.dropWhile (· = '0')).length
      (e - places.length)
  | none => false

/-- Digits that start with a zero. -/
def isZeroLed (cs : List Char) : Bool := cs.head? = some '0' && cs.all Char.isDigit

/-- A number after its sign. -/
def isUnsignedNumber (isNegative : Bool) (cs : List Char) : Bool :=
  isBasedInteger isNegative cs || isDecimal cs || isZeroLed cs ||
    infinityWords.contains (String.ofList cs)

/-- A number with an optional sign. -/
def isNumber : List Char → Bool
  | '-' :: cs => isUnsignedNumber true cs
  | '+' :: cs => isUnsignedNumber false cs
  | cs => isUnsignedNumber false cs || nanWords.contains (String.ofList cs)

/-- As it stands, the text would read as something else than a text. -/
def readsAsOther (s : String) : Bool :=
  nullWords.contains s || truthWords.contains s || isNumber s.toList

/-! ### The style of a text -/

/-- Characters that start something else than a text. -/
def indicators : List Char :=
  ['#', ',', '[', ']', '\x7b', '\x7d', '&', '*', '!', '|', '>', '\x27', '"', '%', '@', '\x60']

/-- The start of the text would read as the start of something else. -/
def startsOther : List Char → Bool
  | [] => false
  | '-' :: '-' :: '-' :: _ => true
  | '.' :: '.' :: '.' :: _ => true
  | c :: cs =>
    indicators.contains c || ((c = '?' || c = ':' || c = '-') && isGap cs.head?)

/-- Something else would start inside the text: a value after a colon, or a comment. The character
before the text is `before`. -/
def holdsOther (before : Char) : List Char → Bool
  | [] => false
  | c :: cs =>
    (c = ':' && isGap cs.head?) || (c = '#' && isGap (some before)) || holdsOther c cs

/-- The text can stand without quotes, if it reads as a text at all. -/
def allowsPlain (cs : List Char) : Bool :=
  cs.all isShown && !cs.any isBreak && cs.head? ≠ some ' ' && cs.getLast? ≠ some ' ' &&
    !startsOther cs &&
    match cs with
    | [] => true
    | c :: rest => !holdsOther c rest

/-- The text can stand between single quotes. -/
def allowsSingle (cs : List Char) : Bool :=
  cs.all isShown && !hasPair isBreak (· = ' ') cs && !hasPair (· = ' ') isBreak cs

/-- The text can stand as a block of lines. -/
def allowsBlock (cs : List Char) : Bool :=
  cs.all isShown && !hasPair (· = ' ') isBreak cs && cs.getLast? ≠ some ' '

/-- The style in which a text is written. -/
def styleOf (s : String) : Style :=
  let cs := s.toList
  if cs.contains '\n' then if allowsBlock cs then .block else .double
  else if readsAsOther s then .single
  else if allowsPlain cs then .plain
  else if allowsSingle cs then .single
  else .double

/-! ### Writing -/

/-- A number of blanks. -/
def blanks (n : Nat) : String := String.ofList (List.replicate n ' ')

/-- The inside of single quotes. A line after the first starts `indent` columns in; `isFresh` says
that a line was just ended. -/
def singleBody (indent : Nat) (isFresh : Bool) : List Char → String
  | [] => if isFresh then blanks indent else ""
  | c :: cs =>
    if isBreak c then c.toString ++ singleBody indent true cs
    else (if isFresh then blanks indent else "") ++
      (if c = '\x27' then "''" else c.toString) ++ singleBody indent false cs

/-- Hexadecimal digits in capitals, with zeros in front up to `width` of them. -/
def capitalHex (width n : Nat) : String :=
  let ds := (Nat.toDigits 16 n).map Char.toUpper
  String.ofList (List.replicate (width - ds.length) '0' ++ ds)

/-- One character between double quotes. -/
def doubleChar (c : Char) : String :=
  match c with
  | '\x00' => "\\0"
  | '\x07' => "\\a"
  | '\x08' => "\\b"
  | '\t' => "\\t"
  | '\n' => "\\n"
  | '\x0b' => "\\v"
  | '\x0c' => "\\f"
  | '\r' => "\\r"
  | '\x1b' => "\\e"
  | '"' => "\\\""
  | '\\' => "\\\\"
  | '\x85' => "\\N"
  | '\u2028' => "\\L"
  | '\u2029' => "\\P"
  | c =>
    if isShown c then c.toString
    else if c.toNat ≤ 0xFF then "\\x" ++ capitalHex 2 c.toNat
    else "\\u" ++ capitalHex 4 c.toNat

/-- What the head of a block says about the line ends behind its text: none, more than one, or
nothing for exactly one. -/
def chomping (cs : List Char) : String :=
  match cs.reverse with
  | [] => "-"
  | last :: before =>
    if !isBreak last then "-"
    else match before.head? with
      | none => "+"
      | some c => if isBreak c then "+" else ""

/-- The head of a block: its indent is stated if the text starts with a blank or an empty line. -/
def blockHead (cs : List Char) : String :=
  "|" ++ (if cs.head?.any fun c => c = ' ' || isBreak c then "2" else "") ++ chomping cs

/-- The lines of a block, `indent` columns in. An empty line is not indented. -/
def blockBody (indent : Nat) (isFresh : Bool) : List Char → String
  | [] => ""
  | c :: cs =>
    if isBreak c then c.toString ++ blockBody indent true cs
    else (if isFresh then blanks indent else "") ++ c.toString ++ blockBody indent false cs

/-- The text in its style; lines after the first start `indent` columns in. -/
def scalar (indent : Nat) (s : String) : String :=
  match styleOf s with
  | .plain => s
  | .single => "'" ++ singleBody indent false s.toList ++ "'"
  | .double => s.toList.foldl (fun out c => out ++ doubleChar c) "\"" ++ "\""
  | .block => blockHead s.toList ++ "\n" ++ blockBody indent true s.toList

end WrappedTraining.Yaml
