import CollectiveChoice.Text.Concealed

/-!
# Quoted text in messages

Messages show a text between double quotes.  Quotes, backslashes and the common control
characters are written with a backslash; other characters without a shape of their own are shown
by their code point in hexadecimal, between braces.
-/

namespace CollectiveChoice.Text

set_option autoImplicit false

/-- How one character is shown inside a quoted text. -/
def quotedChar (c : Char) : List Char :=
  match c with
  | '"' => ['\\', '"']
  | '\\' => ['\\', '\\']
  | '\n' => ['\\', 'n']
  | '\r' => ['\\', 'r']
  | '\t' => ['\\', 't']
  | '\x00' => ['\\', '0']
  | c =>
    if isConcealed c then
      ['\\', 'u', '\x7b'] ++ Nat.toDigits 16 c.toNat ++ ['\x7d']
    else [c]

/-- A text between double quotes, as messages show it. -/
def quoted (text : String) : String :=
  String.ofList ('"' :: text.toList.flatMap quotedChar ++ ['"'])

end CollectiveChoice.Text
