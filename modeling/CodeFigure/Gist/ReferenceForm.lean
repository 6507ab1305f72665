/-
  CodeFigure/Gist/ReferenceForm.lean
  ==================================
  **The form of references, said without reading them.**

  `Parts.Writes parts text` is the form `[owner/]id [filename]`: which parts may be
  written, and where the separators go.  `Reference.IsWritable` says of a
  reference put together from parts whether its text can be read back.
-/
import CodeFigure.Gist.Reference
import CodeFigure.Text.Token

namespace CodeFigure.Reference

open CodeFigure.Text

/-! ### Written references -/

def IsOwner (owner : List Char) : Prop := owner ≠ [] ∧ IsInkText owner ∧ '/' ∉ owner

def IsFilename (name : List Char) : Prop := name ≠ [] ∧ IsInkText name

/-- Every part is one that can be written. -/
structure Parts.WellFormed (parts : Parts) : Prop where
  owner : ∀ owner ∈ parts.owner, IsOwner owner
  digits : parts.digits ≠ [] ∧ ∀ c ∈ parts.digits, isDecimalDigit c = true
  filename : ∀ name ∈ parts.filename, IsFilename name

/-- The parts one after the other, with `gap` in front of the filename. -/
def Parts.written (parts : Parts) (gap : List Char) : List Char :=
  (match parts.owner with
    | some owner => owner ++ ['/']
    | none => [])
  ++ parts.digits
  ++ (match parts.filename with
    | some name => gap ++ name
    | none => [])

/-- `text` is a reference with these parts. -/
def Parts.Writes (parts : Parts) (text : List Char) : Prop :=
  parts.WellFormed ∧
    ∃ gap, gap ≠ [] ∧ IsBlankText gap ∧ text = parts.written gap

/-! ### References that can be read back -/

/-- The text of the reference has the form of a reference with the same parts. -/
structure IsWritable (reference : Reference) : Prop where
  id : 0 ≤ reference.id
  owner : ∀ owner ∈ reference.owner, IsOwner owner.toList
  filename : ∀ name ∈ reference.filename, IsFilename name.toList

end CodeFigure.Reference
