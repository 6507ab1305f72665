/-
  CodeFigure/Directive/Basic.lean
  ===============================
  **Directives: a code block as template source.**

  In the source of a page a code block is written between two tags, with its
  parameters inside the first:

      {% codeblock PARAMS %}
      BODY
      {% endcodeblock %}

  Template engines give `{`, `%` and `}` a meaning inside tags, so no directive
  has them in its parameters; and blanks around the parameters mean nothing, so
  a directive keeps none.  Both are part of the type.  The body is free: it may
  contain anything, closing tags included.
-/
import CodeFigure.Figure.Basic

namespace CodeFigure

open CodeFigure.Text

/-! ### Parameters that a tag can hold -/

/-- `c` has a meaning of its own inside a tag. -/
def isReserved (c : Char) : Bool := c == '{' || c == '%' || c == '}'

structure Directive where
  params : String
  body : String
  /-- No parameter character has a meaning to the template engine. -/
  unreserved : params.toList.any isReserved = false
  /-- There are no blanks around the parameters. -/
  trimmed : trim params.toList = params.toList
deriving DecidableEq

/-! ### Errors -/

inductive DirectiveError where
  | forbiddenCharacters (params : String)
  | missingOpen
  | missingClose
deriving DecidableEq, Repr

def DirectiveError.message : DirectiveError → String
  | .forbiddenCharacters params =>
    "codeblock parameters cannot contain % or \x7b or \x7d: " ++ quoted params
  | .missingOpen => "missing opening \x7b% codeblock %\x7d tag"
  | .missingClose => "missing closing \x7b% endcodeblock %\x7d tag"

namespace Directive

/-! ### Making and writing -/

theorem any_trim_eq_false {p : Char → Bool} {s : List Char} (h : s.any p = false) :
    (trim s).any p = false := by
  rw [List.any_eq_false] at h ⊢
  intro c hc
  exact h c (mem_of_mem_trim hc)

def make (params body : String) : Except DirectiveError Directive :=
  if h : params.toList.any isReserved = false then
    .ok
      { params := Text.trimmed params
        body := body
        unreserved := by
          rw [Text.trimmed, String.toList_ofList]
          exact any_trim_eq_false h
        trimmed := by
          rw [Text.trimmed, String.toList_ofList]
          exact trim_trim _ }
  else .error (.forbiddenCharacters params)

/-- The opening tag.  Without parameters there is one blank between the name
    of the tag and its end. -/
def openTag (params : String) : String :=
  match params.toList with
  | [] => "\x7b% codeblock %\x7d"
  | _ => "\x7b% codeblock " ++ params ++ " %\x7d"

def closeTag : String := "\x7b% endcodeblock %\x7d"

/-- The directive as source text: both tags and the body on lines of their own. -/
def source (directive : Directive) : String :=
  openTag directive.params ++ "\n" ++ directive.body ++ "\n" ++ closeTag ++ "\n"

def render (directive : Directive) (renderer : Renderer) : Rendered :=
  renderer.render directive.params directive.body

end Directive

end CodeFigure
