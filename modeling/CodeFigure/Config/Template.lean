/-
  CodeFigure/Config/Template.lean
  ===============================
  **Values with references, before they are written.**

  A template is a row of segments: text, and references to variables in one of
  three spellings.  It has a written form, which is what a configuration file
  holds, and a meaning in an environment, which puts the segments together with
  each reference replaced.  What is put in is never looked at again.
-/
import CodeFigure.Config.Expansion
import CodeFigure.Text.Word

namespace CodeFigure.Expansion

open CodeFigure.Text

/-! ### Templates -/

/-- A segment: text, `$NAME`, `${NAME}` or `${NAME:-DEFAULT}`. -/
inductive Segment where
  | literal (text : List Char)
  | bare (name : List Char)
  | braced (name : List Char)
  | withDefault (name fallback : List Char)
deriving DecidableEq, Repr

def IsIdentifier (name : List Char) : Prop :=
  (∀ c ∈ name, isAsciiWord c = true) ∧ ∃ c ∈ name.head?, c.isDigit = false

def Segment.written : Segment → List Char
  | .literal text => text
  | .bare name => '$' :: name
  | .braced name => '$' :: '{' :: (name ++ ['}'])
  | .withDefault name fallback => '$' :: '{' :: (name ++ ':' :: '-' :: (fallback ++ ['}']))

def written (template : List Segment) : List Char := template.flatMap Segment.written

/-- The segment is one that reads back as itself in front of `rest`. -/
def Segment.Fits (segment : Segment) (rest : List Char) : Prop :=
  match segment with
  | .literal text => '$' ∉ text
  | .bare name => IsIdentifier name ∧ ∀ c ∈ rest.head?, isNameChar c = false
  | .braced name => IsIdentifier name
  | .withDefault name fallback => IsIdentifier name ∧ '}' ∉ fallback

/-- Every segment fits in front of those behind it. -/
def WellFormed : List Segment → Prop
  | [] => True
  | segment :: rest => segment.Fits (written rest) ∧ WellFormed rest

def Segment.isBraced : Segment → Bool
  | .literal _ => false
  | .bare _ => false
  | .braced _ => true
  | .withDefault _ _ => true

/-! ### Meaning -/

def valueOf? (environment : Environment) (name : List Char) : Option (List Char) :=
  (environment (String.ofList name)).map String.toList

/-- What the segment stands for, if it stands for anything. -/
def Segment.meaning? (environment : Environment) : Segment → Option (List Char)
  | .literal text => some text
  | .bare name => valueOf? environment name
  | .braced name => valueOf? environment name
  | .withDefault name fallback => some ((valueOf? environment name).getD fallback)

/-- The variable that the segment cannot do without. -/
def Segment.required? : Segment → Option (List Char)
  | .literal _ => none
  | .bare name => some name
  | .braced name => some name
  | .withDefault _ _ => none

/-- The required variables that are not set, from left to right. -/
def missing (environment : Environment) (template : List Segment) : List (List Char) :=
  (template.filterMap Segment.required?).filter fun name => (valueOf? environment name).isNone

/-- What the segments stand for, one after the other; a segment that stands for
    nothing is left out. -/
def meaning (environment : Environment) (template : List Segment) : List Char :=
  template.flatMap fun segment => (segment.meaning? environment).getD []

end CodeFigure.Expansion
