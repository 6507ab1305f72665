/-
  CodeFigure/Figure/Table.lean
  ============================
  **Code without highlighting: a table of numbered lines.**

  The code is trimmed, its `<` are escaped so that it cannot open markup, and
  it is cut into lines.  Each line keeps its line feed and stands in a span of
  its own; a column beside the lines counts them from 1.

  Nothing of the code is lost on the way: the lines are the code, cut behind
  every line feed (`flatten_lines`).
-/
import CodeFigure.Text.Blank
import CodeFigure.Text.Digit

namespace CodeFigure.Table

open CodeFigure.Text

/-! ### Lines -/

def prependToFirst (c : Char) : List (List Char) → List (List Char)
  | [] => [[c]]
  | line :: lines => (c :: line) :: lines

/-- `s` cut behind every line feed.  A last line without a line feed counts;
    nothing after a final line feed does not. -/
def lines : List Char → List (List Char)
  | [] => []
  | c :: rest => if c = '\n' then [c] :: lines rest else prependToFirst c (lines rest)

theorem flatten_prependToFirst (c : Char) (ls : List (List Char)) :
    (prependToFirst c ls).flatten = c :: ls.flatten := by
  cases ls <;> rfl

/-- The lines, one after the other, are the text. -/
theorem flatten_lines (s : List Char) : (lines s).flatten = s := by
  induction s with
  | nil => rfl
  | cons c rest ih =>
    simp only [lines]
    split
    · rw [List.flatten_cons, ih]; rfl
    · rw [flatten_prependToFirst, ih]

/-! ### Markup -/

def escapeLt (c : Char) : List Char := if c = '<' then "&lt;".toList else [c]

def shownCode (body : List Char) : List Char := (trim body).flatMap escapeLt

def numberSpan (number : Nat) : List Char :=
  "<span class='line-number'>".toList ++ decimal number ++ "</span>\n".toList

def lineSpan (line : List Char) : List Char :=
  "<span class='line'>".toList ++ line ++ "</span>".toList

def gutter (count : Nat) : List Char :=
  (List.range count).flatMap fun index => numberSpan (index + 1)

def frame (numbers code : List Char) : List Char :=
  "<div class='highlight'><table><tr><td class='gutter'><pre class='line-numbers'>".toList
    ++ numbers
    ++ "</pre></td><td class='code'><pre><code>".toList
    ++ code
    ++ "</code></pre></td></tr></table></div>".toList

def ofBody (body : List Char) : List Char :=
  let shown := lines (shownCode body)
  frame (gutter shown.length) (shown.flatMap lineSpan)

def markup (body : String) : String := String.ofList (ofBody body.toList)

end CodeFigure.Table
