/-
  CodeFigure/Gist/Resolver.lean
  =============================
  **Resolving a reference: one request, and what it means.**

  A resolver knows the host.  To resolve a reference it asks for the raw address
  once.  A response whose status blames someone is a failure that is explained
  to the reader, with the page of the gist and the whole response; every other
  response is the file.
-/
import CodeFigure.Gist.Client
import CodeFigure.Gist.Reference
import CodeFigure.Log

namespace CodeFigure

open CodeFigure.Text

inductive Outcome where
  | success (body : String)
  | failure (reason attemptedUrl : String)
deriving DecidableEq, Repr

structure Resolution where
  outcome : Except TransportError Outcome
  /-- The addresses asked, in order. -/
  requests : List String
  /-- What was reported, in order. -/
  log : List LogEntry

structure Resolver where
  client : Client
  /-- The address of the host, without slashes at its end. -/
  baseUrl : String

namespace Resolver

/-- The host that is used when no other is configured. -/
def defaultBaseUrl : String := "https://gist.github.com"

def forHost (client : Client) (baseUrl : String) : Resolver :=
  ⟨client, Reference.hostOf baseUrl⟩

def rawUrl (resolver : Resolver) (reference : Reference) : String :=
  reference.rawUrl resolver.baseUrl

def prettyUrl (resolver : Resolver) (reference : Reference) : String :=
  reference.prettyUrl resolver.baseUrl

def fetchingEntry (url : String) (reference : Reference) : LogEntry where
  level := .debug
  message := "Fetching gist"
  fields := [("url", url), ("reference", reference.text)]

def failedEntry (url : String) (status : Nat) : LogEntry where
  level := .debug
  message := "Gist download failed"
  fields := [("url", url), ("status", String.ofList (decimal status))]

/-- What the reader is told about a response with an error status. -/
def failureReason (prettyUrl : String) (response : Response) : String :=
  "I failed to download the gist at " ++ prettyUrl ++ "\n" ++ response.dump

/-- Ask for the file of `reference`, after the requests in `past`. -/
def resolve (resolver : Resolver) (past : List String) (reference : Reference) : Resolution :=
  let url := resolver.rawUrl reference
  let fetching := fetchingEntry url reference
  match resolver.client past url with
  | .error error => ⟨.error error, [url], [fetching]⟩
  | .ok response =>
    if response.isError then
      ⟨.ok (.failure (failureReason (resolver.prettyUrl reference) response) url), [url],
        [fetching, failedEntry url response.status]⟩
    else ⟨.ok (.success response.body), [url], [fetching]⟩

end Resolver

end CodeFigure
