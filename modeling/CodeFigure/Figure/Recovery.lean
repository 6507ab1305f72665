/-
  CodeFigure/Figure/Recovery.lean
  ===============================
  **Reading the code back off a figure.**

  A figure with the table of numbered lines holds its code in the last `<code>` element.
  In front of that anything may stand, since decorations and captions are foreign text, so
  the element is found from the end (`behindLast?`).  Inside it there are only tags and
  text, and the text is the code as it is shown (`shownIn?`).

  Taking the escapes back gives the code itself (`codeIn?`), if the code had no such escape
  of its own.
-/
import CodeFigure.Figure.Basic
import CodeFigure.Text.Lead

namespace CodeFigure

open CodeFigure.Text

/-- What follows the last `lead` in a text. -/
def Text.behindLast? (lead : String) : List Char → Option (List Char)
  | [] => none
  | c :: rest => (behindLast? lead rest).or (after? lead (c :: rest))

namespace Markup

/-- The text of markup, outside of its tags.  `inTag` says that a tag is open at the start. -/
def textFrom (inTag : Bool) : List Char → List Char
  | [] => []
  | c :: rest =>
    if inTag then textFrom (c != '>') rest
    else if c = '<' then textFrom true rest
    else c :: textFrom false rest

def textOf (s : List Char) : List Char := textFrom false s

end Markup

/-- Take the escapes of `Table.escapeLt` back. -/
def Table.unescapeLt : List Char → List Char
  | '&' :: 'l' :: 't' :: ';' :: rest => '<' :: unescapeLt rest
  | c :: rest => c :: unescapeLt rest
  | [] => []

namespace Figure

/-- The code that a figure shows, as it is shown. -/
def shownIn? (decorations : Decorations) (html : String) : Option (List Char) :=
  let figure := html.toList.take (html.length - (decorations.after.getD "").length)
  (behindLast? "<code>" figure).map Markup.textOf

def codeIn? (decorations : Decorations) (html : String) : Option (List Char) :=
  (shownIn? decorations html).map Table.unescapeLt

end Figure

end CodeFigure
