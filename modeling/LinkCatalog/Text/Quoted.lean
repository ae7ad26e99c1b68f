import LinkCatalog.Text.Visible

/-!
# Quoted text

Text in double quotes, as error messages show values. Quotes, backslashes and characters without a
visible form of their own are written as escapes, so that two different texts never look the same.

## Main definitions

- `Text.escape` — a character within quotes
- `Text.quote` — a text in quotes
-/

namespace LinkCatalog.Text

/-- An escape that gives the code point of a character in hexadecimal digits, in braces. -/
def codePointEscape (c : Char) : List Char :=
  '\\' :: 'u' :: '\x7b' :: Nat.toDigits 16 c.toNat ++ ['\x7d']

/-- The characters that stand for `c` within quotes. -/
def escape (c : Char) : List Char :=
  match c with
  | '\x00' => ['\\', '0']
  | '\t' => ['\\', 't']
  | '\n' => ['\\', 'n']
  | '\r' => ['\\', 'r']
  | '"' => ['\\', '"']
  | '\\' => ['\\', '\\']
  | c => if isVisible c then [c] else codePointEscape c

/-- A text in double quotes. -/
def quote (text : String) : String :=
  String.ofList ('"' :: text.toList.flatMap escape ++ ['"'])

end LinkCatalog.Text
