/-
  CodeFigure/Proofs/Params/CaptionText.lean
  =========================================
  **What parameters say when the language tag is out.**

  Reading parameters has two stages.  The first takes a language tag out, and what is
  left is the text of the caption (`captionText`).  The second reads that text by its
  tokens and knows nothing of the tag.

  So the title and the caption of a code block depend on the text of the caption alone
  (`parse_eq_ofParts`), and they are what its tokens say: the pieces of the text stand
  in the markup as they were written (`parse_reads_tokens`).
-/
import CodeFigure.Proofs.Caption.Links
import CodeFigure.Proofs.Params.TagSearch

namespace CodeFigure.Params

open CodeFigure.Text
open CodeFigure.Caption

/-- The text that is read as a caption: all but the first language tag. -/
def captionText (raw : List Char) : List Char :=
  match LangTag.find? raw with
  | some tag => tag.remaining
  | none => raw

def taggedType? (raw : List Char) : Option String :=
  (LangTag.find? raw).map fun tag => String.ofList tag.fileType

/-- **The two stages.** -/
theorem parse_eq_ofParts (raw : String) :
    parse raw = ofParts raw (taggedType? raw.toList) (ofText? (captionText raw.toList)) := by
  unfold parse captionText taggedType?
  cases LangTag.find? raw.toList with
  | none => rfl
  | some tag => rfl

theorem title_parse (raw : String) :
    (parse raw).title = (ofText? (captionText raw.toList)).map Caption.title := by
  rw [parse_eq_ofParts]
  rfl

theorem caption_parse (raw : String) :
    (parse raw).caption = (ofText? (captionText raw.toList)).map Caption.markup := by
  rw [parse_eq_ofParts]
  rfl

theorem captionText_of_not_hasTag {raw : List Char} (hraw : ¬ LangTag.HasTag raw) :
    captionText raw = raw := by
  rw [captionText, LangTag.find?, LangTag.cut?_eq_none_iff.mpr hraw]
  rfl

theorem captionText_of_cut {raw before rest : List Char}
    (hcut : LangTag.cut? raw = some (before, rest)) :
    captionText raw = trimEnd before ++ rest.dropWhile isInk := by
  rw [captionText, LangTag.find?, hcut]
  rfl

theorem taggedType?_eq_map_cut? (raw : List Char) :
    taggedType? raw = (LangTag.cut? raw).map fun cut => String.ofList (cut.2.takeWhile isInk) := by
  rw [taggedType?, LangTag.find?, Option.map_map]
  rfl

theorem fileType_parse_of_tagged {raw fileType : String}
    (htagged : taggedType? raw.toList = some fileType) : (parse raw).fileType = some fileType := by
  rw [parse_eq_ofParts, htagged]
  rfl

/-- **What the caption says.**  The text without its tag has exactly one reading by
    tokens.  If that has a link, the title, the address and the label are the pieces of
    the link; a lone address is its own title and has the default label; any other
    visible text is a title.  Each piece is in the markup as it was written, and a text
    without a caption is a blank one. -/
theorem parse_reads_tokens (raw : String) :
    let text := captionText raw.toList
    (∃ reading, ReadsAs text reading ∧ ∀ other, ReadsAs text other → other = reading) ∧
    (∀ title href label, ReadsAs text (some (.linked title href label)) →
      (parse raw).title = some title ∧
        (parse raw).caption = some ("<figcaption><span>" ++ title ++ "</span><a href='" ++ href ++
          "'>" ++ label ++ "</a></figcaption>")) ∧
    (∀ href, ReadsAs text (some (.address href)) →
      (parse raw).title = some href ∧
        (parse raw).caption = some ("<figcaption><span>" ++ href ++ "</span><a href='" ++ href ++
          "'>link</a></figcaption>")) ∧
    (∀ title, ReadsAs text (some (.titled title)) →
      (parse raw).title = some title ∧
        (parse raw).caption = some ("<figcaption><span>" ++ title ++ "</span></figcaption>")) ∧
    ((parse raw).title = none ↔ IsBlankText text) ∧
    ((parse raw).caption = none ↔ IsBlankText text) := by
  intro text
  have hread {caption : Caption} (hreads : ReadsAs text (some caption)) :
      (parse raw).title = some caption.title ∧ (parse raw).caption = some caption.markup := by
    rw [title_parse, caption_parse, readsAs_iff.mp hreads]
    exact ⟨rfl, rfl⟩
  refine ⟨?_, ?_, ?_, ?_, ?_, ?_⟩
  · refine ⟨ofText? text, readsAs_iff.mpr rfl, ?_⟩
    intro other hother
    exact (readsAs_iff.mp hother).symm
  · intro title href label hreads
    obtain ⟨htitle, hcaption⟩ := hread hreads
    rw [markup_labelled] at hcaption
    exact ⟨htitle, hcaption⟩
  · intro href hreads
    obtain ⟨htitle, hcaption⟩ := hread hreads
    -- a lone address is marked up like a link to itself
    have hmarkup : (Caption.address href).markup = (linked href href defaultLabel).markup := rfl
    rw [hmarkup, markup_linked] at hcaption
    exact ⟨htitle, hcaption⟩
  · intro title hreads
    obtain ⟨htitle, hcaption⟩ := hread hreads
    rw [markup_titled] at hcaption
    exact ⟨htitle, hcaption⟩
  · rw [title_parse, Option.map_eq_none_iff, ofText?_eq_none_iff]
  · rw [caption_parse, Option.map_eq_none_iff, ofText?_eq_none_iff]

/-- Letter case and the long s do not matter to an address, and the tag may stand in
    front of it. -/
theorem parse_reads_tokens_longS :
    captionText "See /a lang:rb then\nHTTP\u017F://b/y more ".toList =
        "See /a then\nHTTP\u017F://b/y more ".toList ∧
      (parse "See /a lang:rb then\nHTTP\u017F://b/y more ").title = some "See /a then" ∧
      (parse "See /a lang:rb then\nHTTP\u017F://b/y more ").caption =
        some ("<figcaption><span>See /a then</span><a href='HTTP\u017F://b/y'>more</a>" ++
          "</figcaption>") := by
  have htext : captionText "See /a lang:rb then\nHTTP\u017F://b/y more ".toList =
      "See /a then\nHTTP\u017F://b/y more ".toList := by decide
  have hreads : ReadsAs "See /a then\nHTTP\u017F://b/y more ".toList
      (some (.linked "See /a then" "HTTP\u017F://b/y" "more")) := readsAs_iff.mpr (by decide)
  obtain ⟨-, hlinked, -⟩ := parse_reads_tokens "See /a lang:rb then\nHTTP\u017F://b/y more "
  rw [htext] at hlinked
  obtain ⟨htitle, hcaption⟩ := hlinked _ _ _ hreads
  exact ⟨htext, htitle, hcaption.trans (by decide)⟩

end CodeFigure.Params
