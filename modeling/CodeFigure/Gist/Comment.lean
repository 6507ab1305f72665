/-
  CodeFigure/Gist/Comment.lean
  ============================
  **Errors as comments in the page.**

  Where a gist cannot be shown the page gets an HTML comment with the reason in
  it.  The reason may hold foreign text, so every `-->` in it is disarmed by
  writing its `>` as an entity.
-/
import CodeFigure.Text.Lead

namespace CodeFigure.Comment

/-- `s` with every `-->` written as `--&gt;`. -/
def disarm : List Char → List Char
  | '-' :: '-' :: '>' :: rest => "--&gt;".toList ++ disarm rest
  | c :: rest => c :: disarm rest
  | [] => []

def ofLines (lines : List String) : String :=
  "<!--\n" ++ String.ofList (disarm (String.intercalate "\n" lines).toList) ++ "\n-->\n"

end CodeFigure.Comment
