import PropertyKeys.Text.Basic
import PropertyKeys.Unicode.Printable

/-!
# Quoted texts

Messages and reports show a text that comes from outside between quotation marks. What would end
the quotation or cannot be seen is written as an escape, so that the shown form is one line and can
be read back.
-/

namespace PropertyKeys.Text.Quoted

open Unicode

/-- The hexadecimal digits of a number, in small letters. -/
def hexDigits (n : Nat) : Text :=
  Nat.toDigits 16 n

/-- The shown form of one character: the common control characters, the quotation mark and the
backslash have an escape of two characters, and all else that is not printable is shown by its code
point in braces. -/
def escapeChar (c : Char) : Text :=
  match c with
  | '\x00' => ['\\', '0']
  | '\t' => ['\\', 't']
  | '\r' => ['\\', 'r']
  | '\n' => ['\\', 'n']
  | '"' => ['\\', '"']
  | '\\' => ['\\', '\\']
  | c => if isPrintable c then [c] else ['\\', 'u', '\x7b'] ++ hexDigits c.toNat ++ ['\x7d']

/-- A text between quotation marks. -/
def quote (text : Text) : Text :=
  '"' :: text.flatMap escapeChar ++ ['"']

end PropertyKeys.Text.Quoted
