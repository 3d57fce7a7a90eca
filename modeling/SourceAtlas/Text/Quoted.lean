import SourceAtlas.Unicode.Property

/-!
# Quoted texts in messages

A message shows a text between double quotes. Quotes, backslashes and the common control
characters are escaped by a letter; other characters that would not show, or that would join the
character before them, by their code point.
-/

namespace SourceAtlas.Text

def hexDigits (n : Nat) : Text := Nat.toDigits 16 n

/-- One character inside the quotes. -/
def quoteChar (c : Char) : Text :=
  match c with
  | '"' => ['\\', '"']
  | '\\' => ['\\', '\\']
  | '\n' => ['\\', 'n']
  | '\r' => ['\\', 'r']
  | '\t' => ['\\', 't']
  | '\x00' => ['\\', '0']
  | c =>
    if Unicode.isGraphemeExtend c || !Unicode.isPrintable c then
      "\\u\x7b".toList ++ hexDigits c.toNat ++ ['}']
    else [c]

/-- A text as messages show it. -/
def quote (t : Text) : Text := '"' :: t.flatMap quoteChar ++ ['"']

end SourceAtlas.Text
