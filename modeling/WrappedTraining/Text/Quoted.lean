import WrappedTraining.Text.Unprintable

/-!
# Quoted text

`quoted` shows a text between double quotes so that every character can be told: quotes and
backslashes get a backslash, five controls have a letter, and other characters without a glyph
appear by code point, as in `\u{200b}`.
-/

namespace WrappedTraining.Text

/-- The lower-case hexadecimal digits of a number. -/
def hex (n : Nat) : String := String.ofList (Nat.toDigits 16 n)

/-- How one character is shown between quotes. -/
def quotedChar (c : Char) : String :=
  match c with
  | '"' => "\\\""
  | '\\' => "\\\\"
  | '\t' => "\\t"
  | '\n' => "\\n"
  | '\r' => "\\r"
  | '\x00' => "\\0"
  | c => if isPrintable c then c.toString else "\\u\x7b" ++ hex c.toNat ++ "\x7d"

/-- The text between double quotes, unprintable characters shown by code point. -/
def quoted (s : String) : String :=
  s.toList.foldl (fun out c => out ++ quotedChar c) "\"" ++ "\""

end WrappedTraining.Text
