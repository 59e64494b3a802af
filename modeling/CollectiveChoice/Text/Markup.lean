/-!
# Text inside markup

Text that is placed into a page must not open or close markup.  The five characters with a meaning
there are replaced by entities; every other character stands for itself.
-/

namespace CollectiveChoice.Text

set_option autoImplicit false

/-- How one character is written inside markup. -/
def markupChar (c : Char) : List Char :=
  match c with
  | '&' => ['&', 'a', 'm', 'p', ';']
  | '<' => ['&', 'l', 't', ';']
  | '>' => ['&', 'g', 't', ';']
  | '"' => ['&', 'q', 'u', 'o', 't', ';']
  | '\'' => ['&', '#', '3', '9', ';']
  | c => [c]

/-- A text as the content of an element or the value of an attribute. -/
def escapeMarkup (text : String) : String :=
  String.ofList (text.toList.flatMap markupChar)

end CollectiveChoice.Text
