import Copybook.Text

/-!
Text as the content of a markup page.
-/

namespace Copybook.Text

-- The characters with a meaning in markup as named references.
def markupChar : Char → Text
  | '&' => "&amp;".toList
  | '<' => "&lt;".toList
  | '>' => "&gt;".toList
  | '"' => "&quot;".toList
  | '\'' => "&#x27;".toList
  | c => [c]

def markup (s : Text) : Text :=
  s.flatMap markupChar

end Copybook.Text
