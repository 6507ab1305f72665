/-
  CodeFigure/Gist/Client.lean
  ===========================
  **HTTP, as far as gists need it.**

  A request is a GET of an address, and either ends in a response or fails
  below HTTP.  A client is a function that says which.  It also sees the
  addresses asked before, so it may answer the same address differently the
  next time, as hosts do.
-/
import CodeFigure.Fault
import CodeFigure.Text.Digit
import CodeFigure.Text.Quoted

namespace CodeFigure

open CodeFigure.Text

/-- A response: status code and body. -/
@[ext]
structure Response where
  status : Nat
  body : String
deriving DecidableEq, Repr

namespace Response

def isError (response : Response) : Bool :=
  decide (400 ≤ response.status) && decide (response.status ≤ 599)

theorem isError_eq_true_iff {response : Response} :
    response.isError = true ↔ 400 ≤ response.status ∧ response.status ≤ 599 := by
  simp [isError]

def dump (response : Response) : String :=
  "HttpResponse \x7b status: " ++ String.ofList (decimal response.status) ++ ", body: "
    ++ quoted response.body ++ " \x7d"

end Response

/-- A failure below HTTP: what happened, and what it came from. -/
structure TransportError where
  message : String
  source : Option Fault
deriving DecidableEq, Repr

/-- The failure as the source of another one. -/
def TransportError.fault (error : TransportError) : Fault :=
  match error.source with
  | none => .bare error.message
  | some source => .caused error.message source

/-- A client: from the addresses asked so far and the one asked now to its
    answer. -/
abbrev Client := List String → String → Except TransportError Response

end CodeFigure
