/-
  CodeFigure/Text/Alphanumeric.lean
  =================================
  **Letters and numbers.**

  The class behind variable names: letters and numbers of any script, without
  the marks and connectors that words also admit.
-/
import CodeFigure.Text.AlphanumericTable

namespace CodeFigure.Text

def isAlphanumeric (c : Char) : Bool := inClass Char.isAlphanum alphanumericsBeyondAscii c

end CodeFigure.Text
