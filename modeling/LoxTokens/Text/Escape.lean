import LoxTokens.Text.Unprintable

/-!
Quoted text. One escape per character, so that a text can be told apart from every other text
by its quoted form: the usual letters after a backslash, and the code point in lower-case
hexadecimal for what does not print.
-/

namespace LoxTokens.Text

def escapeChar (c : Char) : List Char :=
  match c with
  | '\x00' => ['\\', '0']
  | '\t'   => ['\\', 't']
  | '\n'   => ['\\', 'n']
  | '\r'   => ['\\', 'r']
  | '\\'   => ['\\', '\\']
  | '\''   => ['\\', '\'']
  | '"'    => ['\\', '"']
  | _      => if isUnprintable c then ['\\', 'u', '{'] ++ Nat.toDigits 16 c.toNat ++ ['}'] else [c]

-- The quote that does not delimit the text stays plain.
def escapeBetween (delimiter c : Char) : List Char :=
  if (c = '\'' ∨ c = '"') ∧ c ≠ delimiter then [c] else escapeChar c

def quote (s : String) : String :=
  String.ofList ('"' :: s.toList.flatMap (escapeBetween '"') ++ ['"'])

def quoteChar (c : Char) : String :=
  String.ofList ('\'' :: escapeBetween '\'' c ++ ['\''])

end LoxTokens.Text
