/-
  CodeFigure/Figure/Basic.lean
  ============================
  **Figures: a code block with its caption.**

  A figure is the caption, if there is one, followed by the code: highlighted
  when the parameters name a file type and the highlighter succeeds on it, and
  the table of numbered lines in every other case.  A highlighter that fails is
  reported in the log and the reader still gets the code.

  The highlighter sees the body untouched; only the table trims it.  Decorations
  are markup of the caller's that is put around the figure as it is.

  Rendering uses the highlighter at most once, and `Rendered` says so: beside
  the markup it lists the uses and the log entries.
-/
import CodeFigure.Params.Basic
import CodeFigure.Highlight.Basic
import CodeFigure.Figure.Table

namespace CodeFigure

/-! ### Decorations -/

structure Decorations where
  /-- Put in front of the figure. -/
  before : Option String
  /-- Put behind the figure. -/
  after : Option String
deriving DecidableEq, Repr

namespace Decorations

def empty : Decorations := ⟨none, none⟩

def wrap (decorations : Decorations) (figure : String) : String :=
  decorations.before.getD "" ++ figure ++ decorations.after.getD ""

end Decorations

/-! ### Rendering -/

structure Rendered where
  html : String
  /-- The uses of the highlighter, in order. -/
  calls : List HighlightCall
  /-- What was reported, in order. -/
  log : List LogEntry
deriving DecidableEq, Repr

namespace Figure

def fallbackEntry (error : HighlightError) (fileType body raw : String) : LogEntry where
  level := .warn
  message := "Highlighting failed, rendering plain code"
  fields := [("error", error.message), ("details", error.details),
    ("cause", String.intercalate ": " error.causes), ("file_type", fileType), ("body", body),
    ("params", raw)]

/-- The figure around code that is already markup. -/
def assemble (caption : Option String) (code : String) (decorations : Decorations) : String :=
  decorations.wrap ("<figure class='code'>" ++ caption.getD "" ++ code ++ "</figure>")

def plain (caption : Option String) (body : String) (decorations : Decorations) : String :=
  assemble caption (Table.markup body) decorations

def render (body : String) (params : Params) (highlighter : Highlighter)
    (decorations : Decorations) : Rendered :=
  match params.fileType with
  | none => ⟨plain params.caption body decorations, [], []⟩
  | some fileType =>
    match highlighter body fileType with
    | .ok code => ⟨assemble params.caption code decorations, [⟨body, fileType⟩], []⟩
    | .error error =>
      ⟨plain params.caption body decorations, [⟨body, fileType⟩],
        [fallbackEntry error fileType body params.raw]⟩

end Figure

/-! ### Renderers -/

/-- A highlighter and decorations that serve any number of code blocks. -/
structure Renderer where
  highlighter : Highlighter
  decorations : Decorations := Decorations.empty
  /-- Without highlighting every figure shows the table of numbered lines. -/
  highlighting : Bool := true

namespace Renderer

def renderParsed (renderer : Renderer) (body : String) (params : Params) : Rendered :=
  if renderer.highlighting then
    Figure.render body params renderer.highlighter renderer.decorations
  else
    Figure.render body { params with fileType := none } renderer.highlighter renderer.decorations

def render (renderer : Renderer) (raw body : String) : Rendered :=
  renderer.renderParsed body (Params.parse raw)

end Renderer

end CodeFigure
