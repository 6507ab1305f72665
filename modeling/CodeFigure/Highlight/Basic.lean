/-
  CodeFigure/Highlight/Basic.lean
  ===============================
  **Highlighters, and how they fail.**

  A highlighter turns code into markup for a file type, or fails.  To the rest
  of the library it is any function of that kind: nothing is assumed about the
  markup it returns, and every failure is one that rendering can work around.

  An error is a cause with a message of its own, and it may have come from another
  error (`source?`).  `details` tells the causes apart in full, for the log.
-/
import CodeFigure.Fault
import CodeFigure.Log
import CodeFigure.Text.Quoted

namespace CodeFigure

open CodeFigure.Text

/-! ### Errors -/

inductive GrammarFailure where
  | mainContextPopped
  | readFailed (reason : String)
deriving DecidableEq, Repr

inductive HighlightError where
  | unknownFileType (fileType : String)
  | grammar (failure : GrammarFailure)
  | other (message : String)
deriving DecidableEq, Repr

def GrammarFailure.reason : GrammarFailure → String
  | .mainContextPopped => "Somehow main context was popped from the stack"
  | .readFailed reason => reason

def GrammarFailure.message : GrammarFailure → String
  | .mainContextPopped => "Parsing error: " ++ GrammarFailure.mainContextPopped.reason
  | .readFailed reason => "IO Error: " ++ reason

def GrammarFailure.details : GrammarFailure → String
  | .mainContextPopped => "ParsingError(MissingMainContext)"
  | .readFailed reason => "Io(Custom \x7b kind: Other, error: " ++ quoted reason ++ " \x7d)"

namespace HighlightError

def message : HighlightError → String
  | .unknownFileType fileType => "no syntax found for file type `" ++ fileType ++ "`"
  | .grammar _ => "syntax highlighting failed"
  | .other message => message

def source? : HighlightError → Option Fault
  | .unknownFileType _ => none
  | .grammar failure => some (.caused failure.message (.bare failure.reason))
  | .other _ => none

/-- The messages of all that the error came from, outermost first. -/
def causes (error : HighlightError) : List String := Fault.walkFrom [] error.source?

def details : HighlightError → String
  | .unknownFileType fileType => "UnknownFileType(" ++ quoted fileType ++ ")"
  | .grammar failure => "Syntax(" ++ failure.details ++ ")"
  | .other message => "Other(" ++ quoted message ++ ")"

end HighlightError

/-! ### Highlighters -/

abbrev Highlighter := String → String → Except HighlightError String

structure HighlightCall where
  code : String
  fileType : String
deriving DecidableEq, Repr

end CodeFigure
