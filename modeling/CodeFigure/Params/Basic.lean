/-
  CodeFigure/Params/Basic.lean
  ============================
  **The parameters of a code block.**

  The parameters are one free text.  Reading it never fails: a language tag
  is taken out first, the rest is read as a caption, and whatever the text does
  not say stays absent.  A tagged file type always wins over one that the
  caption only mentions.
-/
import CodeFigure.Caption.Basic
import CodeFigure.Params.LangTag

namespace CodeFigure

structure Params where
  /-- What to highlight the code as. -/
  fileType : Option String
  /-- The markup of the caption. -/
  caption : Option String
  /-- The text of the caption. -/
  title : Option String
  /-- The parameters as they were written. -/
  raw : String
deriving DecidableEq, Repr

namespace Params

/-- The parameters that consist of a tagged file type and a caption, each of
    them possibly absent. -/
def ofParts (raw : String) (tagged : Option String) (caption : Option Caption) : Params where
  fileType := tagged.or (caption.bind Caption.fileType?)
  caption := caption.map Caption.markup
  title := caption.map Caption.title
  raw := raw

def parse (raw : String) : Params :=
  match LangTag.find? raw.toList with
  | some tag => ofParts raw (some (String.ofList tag.fileType)) (Caption.ofText? tag.remaining)
  | none => ofParts raw none (Caption.ofText? raw.toList)

end Params

end CodeFigure
