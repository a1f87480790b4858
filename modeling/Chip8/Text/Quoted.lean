import Chip8.Text.Hex
import Chip8.Text.Printable

/-!
Quoted text: double quotes around the text, with a backslash form for every character that cannot
stand for itself.
-/

namespace Chip8.Text

/-- The letter after the backslash, for the characters that have one. -/
def escapeLetter? : Char → Option Char
  | '"' => some '"'
  | '\\' => some '\\'
  | '\n' => some 'n'
  | '\r' => some 'r'
  | '\t' => some 't'
  | '\x00' => some '0'
  | _ => none

/-- An unprintable character without a letter is written as its code point in braces. -/
def escape (c : Char) : List Char :=
  match escapeLetter? c with
  | some letter => ['\\', letter]
  | none =>
    if isPrintable c then [c] else "\\u\x7b".toList ++ hexDigits c.toNat ++ "\x7d".toList

def quote (s : String) : String := "\"" ++ String.ofList (s.toList.flatMap escape) ++ "\""

end Chip8.Text
