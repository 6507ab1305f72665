/-
  CodeFigure/Caption/Basic.lean
  =============================
  **Captions: what free text above a code block says.**

  Authors write a caption as free text, `[title] [address] [link text]`, and
  three readings are tried in order:

    * some token after the first one is an address.  The last such token is
      the link; the text before it is the title and the text after it the
      label of the link;
    * the whole text is one address, which then is its own title;
    * any other text that is not blank is a title.

  A blank text has no caption.  `Caption.ofText?` finds the link by walking the
  text once, with no tokens in between; `Caption.markup` writes the caption as
  HTML, every part exactly as it was written.
-/
import CodeFigure.Caption.Address
import CodeFigure.Caption.Extension

namespace CodeFigure

open CodeFigure.Text

inductive Caption where
  | titled (title : String)
  | linked (title href label : String)
  | address (href : String)
deriving DecidableEq, Repr

namespace Caption

/-! ### Reading -/

def defaultLabel : String := "link"

def labelOrDefault (label : List Char) : String :=
  match label with
  | [] => defaultLabel
  | _ => String.ofList label

/-- Cut `s` in front of the last address that directly follows a blank: the
    part up to and including the blank, and the part from the address on. -/
def cutAtLastAddress? : List Char → Option (List Char × List Char)
  | [] => none
  | c :: rest =>
    match cutAtLastAddress? rest with
    | some (before, link) => some (c :: before, link)
    | none => if isBlank c && startsAddress rest then some ([c], rest) else none

/-- The reading with a link, for a text that starts with its first token. -/
def linked? (text : List Char) : Option Caption :=
  (cutAtLastAddress? text).map fun cut =>
    .linked (String.ofList (trimEnd cut.1))
      (String.ofList (cut.2.takeWhile isInk))
      (labelOrDefault (trim (cut.2.dropWhile isInk)))

/-- The reading without a link, for a text without blanks around it. -/
def plain? (text : List Char) : Option Caption :=
  match text with
  | [] => none
  | _ =>
    if text.all isInk && startsAddress text then some (.address (String.ofList text))
    else some (.titled (String.ofList text))

def ofText? (text : List Char) : Option Caption :=
  match linked? (trimStart text) with
  | some caption => some caption
  | none => plain? (trim text)

/-! ### Parts -/

def title : Caption → String
  | .titled title => title
  | .linked title _ _ => title
  | .address href => href

def link? : Caption → Option (String × String)
  | .titled _ => none
  | .linked _ href label => some (href, label)
  | .address href => some (href, defaultLabel)

/-- The file type that the title mentions.  The dots of a lone address belong
    to its host and path, so it mentions none. -/
def fileType? : Caption → Option String
  | .titled title => (extension? title.toList).map String.ofList
  | .linked title _ _ => (extension? title.toList).map String.ofList
  | .address _ => none

/-! ### Markup -/

def linkMarkup : Option (String × String) → String
  | none => ""
  | some (href, label) => "<a href='" ++ href ++ "'>" ++ label ++ "</a>"

def markup (caption : Caption) : String :=
  "<figcaption><span>" ++ caption.title ++ "</span>" ++ linkMarkup caption.link? ++ "</figcaption>"

end Caption

end CodeFigure
