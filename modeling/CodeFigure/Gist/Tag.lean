/-
  CodeFigure/Gist/Tag.lean
  ========================
  **Gists in a page.**

  A tag turns the text of a reference into markup: it reads the reference, asks
  the host for the file, writes the file as a directive captioned with its name
  and the page of the gist, and renders that directive.  Each step may fail, and
  the first failure is the result (`tryRender`).

  `render` never fails: it puts the error into a comment, with all that it came from
  below it, and reports it.

  All effects of a run are listed in `Attempt`: the requests, the uses of the
  highlighter and the log entries.
-/
import CodeFigure.Directive.Parse
import CodeFigure.Gist.Comment
import CodeFigure.Gist.Resolver

namespace CodeFigure

/-! ### Files -/

structure GistFile where
  code : String
  /-- The page of the gist. -/
  gistUrl : String
  filename : Option String
deriving DecidableEq, Repr

def GistFile.params (file : GistFile) : String :=
  match file.filename with
  | some name => name ++ " " ++ file.gistUrl
  | none => file.gistUrl

def GistFile.toDirective (file : GistFile) : Except DirectiveError Directive :=
  Directive.make file.params file.code

/-! ### Errors -/

inductive GistError where
  | reference (error : ReferenceError)
  | remote (reason attemptedUrl : String)
  | transport (error : TransportError)
  | directive (error : DirectiveError)
deriving DecidableEq, Repr

namespace GistError

def message : GistError → String
  | .reference error => error.message
  | .remote reason _ => reason
  | .transport _ => "failed to download gist"
  | .directive _ => "failed to build codeblock for gist"

/-- The error that this one came from.  A reference error is passed on as it is, so what is
    behind it is what it came from itself. -/
def source? : GistError → Option Fault
  | .reference error => error.source?
  | .remote _ _ => none
  | .transport error => some error.fault
  | .directive error => some (.bare error.message)

/-- The messages of all that the error came from, outermost first. -/
def causes (error : GistError) : List String := Fault.walkFrom [] error.source?

def comment (error : GistError) : String :=
  Comment.ofLines (Fault.walkFrom [error.message] error.source?)

/-- The message comes first, whatever the error came from. -/
theorem comment_eq_ofLines (error : GistError) :
    error.comment = Comment.ofLines (error.message :: error.causes) := by
  rw [comment, Fault.walkFrom_eq_append]
  rfl

end GistError

/-! ### Tags -/

/-- A result, and everything that happened on the way to it. -/
structure Attempt (α : Type) where
  result : α
  /-- The addresses asked, in order. -/
  requests : List String
  /-- The uses of the highlighter, in order. -/
  calls : List HighlightCall
  /-- What was reported, in order. -/
  log : List LogEntry

/-- A host to download from and a renderer for what comes back. -/
structure GistTag where
  resolver : Resolver
  renderer : Renderer

namespace GistTag

def renderingEntry (reference : Reference) : LogEntry where
  level := .debug
  message := "Rendering gist as codeblock"
  fields := [("reference", reference.text)]

def failedEntry (text : String) (error : GistError) : LogEntry where
  level := .error
  message := "Failed to render gist"
  fields := [("reference", text), ("error", error.message)]

/-- What the outcome of a download means for the page. -/
def fileOf (prettyUrl : String) (filename : Option String) :
    Except TransportError Outcome → Except GistError GistFile
  | .error error => .error (.transport error)
  | .ok (.failure reason attemptedUrl) => .error (.remote reason attemptedUrl)
  | .ok (.success body) => .ok ⟨body, prettyUrl, filename⟩

/-- Download the file of `reference`, after the requests in `past`. -/
def download (tag : GistTag) (past : List String) (reference : Reference) :
    Attempt (Except GistError GistFile) :=
  let resolution := tag.resolver.resolve past reference
  ⟨fileOf (tag.resolver.prettyUrl reference) reference.filename resolution.outcome,
    resolution.requests, [], resolution.log⟩

/-- Render a downloaded file by way of its source text. -/
def renderFile (tag : GistTag) (reference : Reference) (file : GistFile) :
    Attempt (Except GistError String) :=
  match file.toDirective with
  | .error error => ⟨.error (.directive error), [], [], []⟩
  | .ok written =>
    match Directive.parse written.source with
    | .error error => ⟨.error (.directive error), [], [], [renderingEntry reference]⟩
    | .ok directive =>
      let rendered := directive.render tag.renderer
      ⟨.ok rendered.html, [], rendered.calls, renderingEntry reference :: rendered.log⟩

/-- Render the gist that `text` refers to, after the requests in `past`. -/
def tryRender (tag : GistTag) (past : List String) (text : String) :
    Attempt (Except GistError String) :=
  match Reference.parse text with
  | .error error => ⟨.error (.reference error), [], [], []⟩
  | .ok reference =>
    let downloaded := tag.download past reference
    match downloaded.result with
    | .error error => ⟨.error error, downloaded.requests, [], downloaded.log⟩
    | .ok file =>
      let shown := tag.renderFile reference file
      ⟨shown.result, downloaded.requests, shown.calls, downloaded.log ++ shown.log⟩

/-- Render the gist that `text` refers to, or the comment that says why not. -/
def render (tag : GistTag) (past : List String) (text : String) : Attempt String :=
  let attempt := tag.tryRender past text
  match attempt.result with
  | .ok html => ⟨html, attempt.requests, attempt.calls, attempt.log⟩
  | .error error =>
    ⟨error.comment, attempt.requests, attempt.calls, attempt.log ++ [failedEntry text error]⟩

end GistTag

end CodeFigure
