/-
  CodeFigure/Caption/Reading.lean
  ===============================
  **What captions mean, said in tokens.**

  Reading a caption walks over characters; its rules are about tokens.  They are
  stated here on their own:

    * `IsAddress` is the shape of an address;
    * `IsLink before token after` picks the link of a text, the last address
      among the tokens after the first one;
    * `ReadsAs text caption` is the whole of the three rules, one constructor
      for each and one for the blank text.

  In the same way `IsExtension title before word after` cuts a title at the
  last dot that stands between two word characters.
-/
import CodeFigure.Caption.Basic
import CodeFigure.Text.Token

namespace CodeFigure.Caption

open CodeFigure.Text

/-! ### Addresses -/

def IsMark (mark : List Char) : Prop :=
  mark = ['/'] ∨ mark.map foldCase = "http://".toList ∨ mark.map foldCase = "https://".toList

/-- `token` is a mark with something behind it. -/
def IsAddress (token : List Char) : Prop :=
  ∃ mark rest, IsMark mark ∧ rest ≠ [] ∧ token = mark ++ rest

/-! ### Links -/

/-- `token` is an address, with another token somewhere before it. -/
structure IsLaterAddress (before token after : List Char) : Prop where
  isToken : IsToken before token after
  isAddress : IsAddress token
  notFirst : ¬ IsBlankText before

/-- In the text `before ++ token ++ after`, `token` is the last address among the
    tokens that are not the first. -/
structure IsLink (before token after : List Char) : Prop where
  later : IsLaterAddress before token after
  last : ∀ between token' after', after = between ++ token' ++ after' →
    ¬ IsLaterAddress (before ++ token ++ between) token' after'

def LabelOf (after : List Char) (label : String) : Prop :=
  (IsBlankText after ∧ label = defaultLabel) ∨
    (¬ IsBlankText after ∧ label = String.ofList (trim after))

/-! ### Captions -/

/-- No token after the first one is an address. -/
def HasNoLink (text : List Char) : Prop :=
  ∀ before token after, text = before ++ token ++ after → ¬ IsLaterAddress before token after

def IsLoneAddress (text : List Char) : Prop :=
  IsInkText (trim text) ∧ IsAddress (trim text)

/-- The rules of captions: `text` reads as the caption, or as none. -/
inductive ReadsAs (text : List Char) : Option Caption → Prop where
  | linked {before token after : List Char} {label : String}
      (cut : text = before ++ token ++ after) (link : IsLink before token after)
      (labelled : LabelOf after label) :
      ReadsAs text (some (.linked (String.ofList (trim before)) (String.ofList token) label))
  | address (noLink : HasNoLink text) (lone : IsLoneAddress text) :
      ReadsAs text (some (.address (String.ofList (trim text))))
  | titled (noLink : HasNoLink text) (notLone : ¬ IsLoneAddress text)
      (visible : ¬ IsBlankText text) :
      ReadsAs text (some (.titled (String.ofList (trim text))))
  | nothing (blank : IsBlankText text) : ReadsAs text none

/-! ### Extensions -/

/-- A dot with a word character on both sides stands between `before` and
    `after`. -/
def IsInnerDot (before after : List Char) : Prop :=
  (∃ c ∈ before.getLast?, isWord c = true) ∧ ∃ c ∈ after.head?, isWord c = true

/-- In the title `before ++ '.' :: (word ++ after)` the last dot between two word
    characters is the one shown, and `word` is the whole word behind it. -/
structure IsExtension (before word after : List Char) : Prop where
  dot : IsInnerDot before (word ++ after)
  letters : ∀ c ∈ word, isWord c = true
  whole : ∀ c ∈ after.head?, isWord c = false
  last : ∀ between after', after = between ++ '.' :: after' →
    ¬ IsInnerDot (before ++ '.' :: (word ++ between)) after'

end CodeFigure.Caption
