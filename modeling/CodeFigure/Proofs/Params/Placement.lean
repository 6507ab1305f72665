/-
  CodeFigure/Proofs/Params/Placement.lean
  =======================================
  **Where a language tag may stand, and what blanks around parameters mean.**

  A tag is taken out together with the blanks in front of it.  So a tag that is written
  between two tokens, or at the end, leaves exactly the text that it was written into
  (`captionText_written`), and one that is written at the front leaves some blanks before
  the text.  Neither changes the caption, whatever the text says
  (`parse_tag_at_boundary`).

  Blanks around parameters stay around the text that is left, or go with a tag at its
  start, and a caption does not see them (`ofText?_captionText_between_blanks`).
-/
import CodeFigure.Proofs.Params.CaptionText

namespace CodeFigure.Params

open CodeFigure.Text
open CodeFigure.Caption

/-! ### Parameters that read alike -/

theorem caption_eq_of_captionText {raw other : String}
    (hread : ofText? (captionText raw.toList) = ofText? (captionText other.toList)) :
    (parse raw).caption = (parse other).caption ∧ (parse raw).title = (parse other).title := by
  constructor
  · rw [caption_parse, caption_parse, hread]
  · rw [title_parse, title_parse, hread]

theorem fileType_eq_of_captionText {raw other : String}
    (htagged : taggedType? raw.toList = taggedType? other.toList)
    (hread : ofText? (captionText raw.toList) = ofText? (captionText other.toList)) :
    (parse raw).fileType = (parse other).fileType := by
  rw [parse_eq_ofParts, parse_eq_ofParts, htagged, hread]
  rfl

/-! ### A tag between tokens -/

/-- `keyword ++ fileType` is written as a tag. -/
structure IsWrittenTag (keyword fileType : List Char) : Prop where
  keyword : LangTag.IsKeyword keyword
  ink : IsInkText fileType
  nonempty : fileType ≠ []

/-- No token reaches from `front` into `back`. -/
structure MeetBetweenTokens (front back : List Char) : Prop where
  front : ∀ c ∈ front.getLast?, isBlank c = false
  back : ∀ c ∈ back.head?, isBlank c = true

section

variable {front back gap keyword fileType : List Char}

theorem IsWrittenTag.head_append (htag : IsWrittenTag keyword fileType) (s : List Char) :
    ∃ c ∈ (fileType ++ s).head?, isBlank c = false := by
  obtain ⟨c, rest, rfl⟩ := List.exists_cons_of_ne_nil htag.nonempty
  exact ⟨c, rfl, htag.ink c List.mem_cons_self⟩

theorem MeetBetweenTokens.isInk_head (hmeet : MeetBetweenTokens front back) :
    ∀ c ∈ back.head?, isInk c = false := by
  intro c hc
  simp [isInk, hmeet.back c hc]

theorem MeetBetweenTokens.trimEnd_append (hmeet : MeetBetweenTokens front back)
    (hgap : IsBlankText gap) : trimEnd (front ++ gap) = front := by
  rw [trimEnd_append_of_blank front hgap]
  exact trimEnd_of_getLast? hmeet.front

theorem cut?_written (hfree : ¬ LangTag.HasTag front) (hgap : IsBlankText gap) (hgapNe : gap ≠ [])
    (htag : IsWrittenTag keyword fileType) :
    LangTag.cut? (front ++ gap ++ keyword ++ fileType ++ back) =
      some (front ++ gap, fileType ++ back) := by
  have hcut := LangTag.cut?_tagged hfree hgap hgapNe htag.keyword (htag.head_append back)
  simpa only [List.append_assoc] using hcut

/-- Taking the tag out gives the text back that it was written into. -/
theorem captionText_written (hmeet : MeetBetweenTokens front back) (hfree : ¬ LangTag.HasTag front)
    (hgap : IsBlankText gap) (hgapNe : gap ≠ []) (htag : IsWrittenTag keyword fileType) :
    captionText (front ++ gap ++ keyword ++ fileType ++ back) = front ++ back := by
  rw [captionText_of_cut (cut?_written hfree hgap hgapNe htag), hmeet.trimEnd_append hgap,
    dropWhile_append_of_head (isInk_of_isInkText htag.ink) hmeet.isInk_head]

theorem taggedType?_written (hmeet : MeetBetweenTokens front back) (hfree : ¬ LangTag.HasTag front)
    (hgap : IsBlankText gap) (hgapNe : gap ≠ []) (htag : IsWrittenTag keyword fileType) :
    taggedType? (front ++ gap ++ keyword ++ fileType ++ back) = some (String.ofList fileType) := by
  rw [taggedType?_eq_map_cut?, cut?_written hfree hgap hgapNe htag, Option.map_some,
    takeWhile_append_of_head (isInk_of_isInkText htag.ink) hmeet.isInk_head]

/-! ### A tag at the front -/

theorem isInk_head_gap_append (hgap : IsBlankText gap) (hgapNe : gap ≠ []) (text : List Char) :
    ∀ c ∈ (gap ++ text).head?, isInk c = false := by
  intro c hc
  obtain ⟨b, rest, rfl⟩ := List.exists_cons_of_ne_nil hgapNe
  cases hc
  have hblank := hgap _ List.mem_cons_self
  simp [isInk, hblank]

theorem cut?_written_ahead (htag : IsWrittenTag keyword fileType) (s : List Char) :
    LangTag.cut? (keyword ++ fileType ++ s) = some ([], fileType ++ s) := by
  rw [List.append_assoc]
  exact LangTag.cut?_keyword_append htag.keyword (htag.head_append s)

theorem captionText_written_ahead (htag : IsWrittenTag keyword fileType) (hgap : IsBlankText gap)
    (hgapNe : gap ≠ []) (text : List Char) :
    captionText (keyword ++ fileType ++ (gap ++ text)) = gap ++ text := by
  have hhead := isInk_head_gap_append hgap hgapNe text
  rw [captionText_of_cut (cut?_written_ahead htag _),
    dropWhile_append_of_head (isInk_of_isInkText htag.ink) hhead]
  rfl

theorem taggedType?_written_ahead (htag : IsWrittenTag keyword fileType) (hgap : IsBlankText gap)
    (hgapNe : gap ≠ []) (text : List Char) :
    taggedType? (keyword ++ fileType ++ (gap ++ text)) = some (String.ofList fileType) := by
  have hhead := isInk_head_gap_append hgap hgapNe text
  rw [taggedType?_eq_map_cut?, cut?_written_ahead htag, Option.map_some,
    takeWhile_append_of_head (isInk_of_isInkText htag.ink) hhead]

end

/-- **A tag may stand at any boundary of tokens.**  Written into a text without a tag,
    with blanks in front of it, or in front of the text, with blanks behind it, it names
    the file type and leaves the caption and the title as they are. -/
theorem parse_tag_at_boundary {text front back gap keyword fileType : String}
    (hsplit : text = front ++ back) (hfree : ¬ LangTag.HasTag text.toList)
    (hfront : ∀ c ∈ front.toList.getLast?, isBlank c = false)
    (hback : ∀ c ∈ back.toList.head?, isBlank c = true)
    (hgap : IsBlankText gap.toList) (hgapNe : gap.toList ≠ [])
    (hkeyword : LangTag.IsKeyword keyword.toList)
    (htype : IsInkText fileType.toList) (htypeNe : fileType.toList ≠ []) :
    let inside := parse (front ++ gap ++ keyword ++ fileType ++ back)
    let ahead := parse (keyword ++ fileType ++ gap ++ text)
    (inside.fileType = some fileType ∧ inside.caption = (parse text).caption ∧
      inside.title = (parse text).title) ∧
    (ahead.fileType = some fileType ∧ ahead.caption = (parse text).caption ∧
      ahead.title = (parse text).title) := by
  intro inside ahead
  have htag : IsWrittenTag keyword.toList fileType.toList := ⟨hkeyword, htype, htypeNe⟩
  have hmeet : MeetBetweenTokens front.toList back.toList := ⟨hfront, hback⟩
  have htext : captionText text.toList = text.toList := captionText_of_not_hasTag hfree
  constructor
  · have hfront : ¬ LangTag.HasTag front.toList := by
      intro hhas
      apply hfree
      rw [hsplit, String.toList_append]
      exact LangTag.hasTag_append_left hhas _
    have hinside : (front ++ gap ++ keyword ++ fileType ++ back).toList =
        front.toList ++ gap.toList ++ keyword.toList ++ fileType.toList ++ back.toList := by
      simp only [String.toList_append]
    refine ⟨?_, caption_eq_of_captionText ?_⟩
    · apply fileType_parse_of_tagged
      rw [hinside, taggedType?_written hmeet hfront hgap hgapNe htag, String.ofList_toList]
    · rw [hinside, captionText_written hmeet hfront hgap hgapNe htag, htext, hsplit,
        String.toList_append]
  · have hahead : (keyword ++ fileType ++ gap ++ text).toList =
        keyword.toList ++ fileType.toList ++ (gap.toList ++ text.toList) := by
      simp only [String.toList_append, List.append_assoc]
    refine ⟨?_, caption_eq_of_captionText ?_⟩
    · apply fileType_parse_of_tagged
      rw [hahead, taggedType?_written_ahead htag hgap hgapNe, String.ofList_toList]
    · rw [hahead, captionText_written_ahead htag hgap hgapNe, htext,
        ofText?_blank_append hgap]

/-- A tag may separate the address from its label, and it overrules the file type that
    the title mentions. -/
theorem parse_tag_at_boundary_label :
    let inside := parse ("a.rb https://b/c" ++ "\u2003" ++ "LanG:" ++ "lang:py" ++ " see")
    let ahead := parse ("LanG:" ++ "lang:py" ++ "\u2003" ++ "a.rb https://b/c see")
    (parse "a.rb https://b/c see").fileType = some "rb" ∧
    (inside.fileType = some "lang:py" ∧ inside.caption = (parse "a.rb https://b/c see").caption ∧
      inside.title = (parse "a.rb https://b/c see").title) ∧
    (ahead.fileType = some "lang:py" ∧ ahead.caption = (parse "a.rb https://b/c see").caption ∧
      ahead.title = (parse "a.rb https://b/c see").title) := by
  have hfree : ¬ LangTag.HasTag "a.rb https://b/c see".toList :=
    LangTag.cut?_eq_none_iff.mp (by decide)
  have hsplit : "a.rb https://b/c see" = "a.rb https://b/c" ++ " see" := by decide
  have hlast : "a.rb https://b/c".toList.getLast? = some 'c' := by decide
  have hhead : " see".toList.head? = some ' ' := by decide
  have hfront : ∀ c ∈ "a.rb https://b/c".toList.getLast?, isBlank c = false := by
    rw [hlast]
    rintro _ ⟨⟩
    decide
  have hback : ∀ c ∈ " see".toList.head?, isBlank c = true := by
    rw [hhead]
    rintro _ ⟨⟩
    decide
  have hgap : IsBlankText "\u2003".toList := by decide
  have hkeyword : "LanG:".toList.map foldCase = "lang:".toList := by decide
  have htype : IsInkText "lang:py".toList := all_isInk_eq_true_iff.mp (by decide)
  refine ⟨by decide, ?_⟩
  exact parse_tag_at_boundary hsplit hfree hfront hback hgap (by decide) hkeyword htype (by decide)

/-! ### Blanks around parameters -/

theorem cut?_between_blanks {lead tail : List Char} (hlead : IsBlankText lead) (s : List Char)
    (htail : IsBlankText tail) :
    LangTag.cut? (lead ++ s ++ tail) =
      (LangTag.cut? s).map fun cut => (lead ++ cut.1, cut.2 ++ tail) := by
  rw [LangTag.cut?_append_of_blank _ htail, LangTag.cut?_blank_append hlead, Option.map_map]
  rfl

theorem taggedType?_between_blanks {lead tail : List Char} (hlead : IsBlankText lead)
    (s : List Char) (htail : IsBlankText tail) :
    taggedType? (lead ++ s ++ tail) = taggedType? s := by
  rw [taggedType?_eq_map_cut?, taggedType?_eq_map_cut?, cut?_between_blanks hlead s htail]
  cases LangTag.cut? s with
  | none => rfl
  | some cut =>
    simp only [Option.map_some]
    rw [takeWhile_append_of_stop cut.2 (isInk_head_of_blank htail)]

/-- Taking a tag out leaves blanks around the text that it leaves without them. -/
theorem ofText?_captionText_between_blanks {lead tail : List Char} (hlead : IsBlankText lead)
    (s : List Char) (htail : IsBlankText tail) :
    ofText? (captionText (lead ++ s ++ tail)) = ofText? (captionText s) := by
  have hcut := cut?_between_blanks hlead s htail
  cases hs : LangTag.cut? s with
  | none =>
    rw [hs] at hcut
    rw [captionText_of_not_hasTag (LangTag.cut?_eq_none_iff.mp hcut),
      captionText_of_not_hasTag (LangTag.cut?_eq_none_iff.mp hs), ofText?_between_blanks hlead s htail]
  | some cut =>
    rw [hs] at hcut
    obtain ⟨lead', hlead', hbefore⟩ := exists_trimEnd_blank_append hlead cut.1
    rw [captionText_of_cut hcut, captionText_of_cut hs, hbefore,
      dropWhile_append_of_stop cut.2 (isInk_head_of_blank htail)]
    have hread := ofText?_between_blanks hlead' (trimEnd cut.1 ++ cut.2.dropWhile isInk) htail
    simpa only [List.append_assoc] using hread

/-- **Blanks around parameters mean nothing.** -/
theorem parse_between_blanks {before after : String} (hbefore : IsBlankText before.toList)
    (raw : String) (hafter : IsBlankText after.toList) :
    (parse (before ++ raw ++ after)).fileType = (parse raw).fileType ∧
      (parse (before ++ raw ++ after)).caption = (parse raw).caption ∧
      (parse (before ++ raw ++ after)).title = (parse raw).title := by
  have hraw : (before ++ raw ++ after).toList = before.toList ++ raw.toList ++ after.toList := by
    simp only [String.toList_append]
  have htagged := taggedType?_between_blanks hbefore raw.toList hafter
  have hread := ofText?_captionText_between_blanks hbefore raw.toList hafter
  rw [← hraw] at htagged hread
  exact ⟨fileType_eq_of_captionText htagged hread, caption_eq_of_captionText hread⟩

theorem parse_trimmed (raw : String) :
    (parse (Text.trimmed raw)).fileType = (parse raw).fileType ∧
      (parse (Text.trimmed raw)).caption = (parse raw).caption ∧
      (parse (Text.trimmed raw)).title = (parse raw).title := by
  obtain ⟨lead, tail, hlead, htail, hsplit⟩ := exists_blank_append_trim raw.toList
  have hraw : raw = String.ofList lead ++ Text.trimmed raw ++ String.ofList tail := by
    rw [Text.trimmed, ← String.ofList_append, ← String.ofList_append, ← hsplit, String.ofList_toList]
  have hbefore : IsBlankText (String.ofList lead).toList := by rwa [String.toList_ofList]
  have hafter : IsBlankText (String.ofList tail).toList := by rwa [String.toList_ofList]
  have hpadded := parse_between_blanks hbefore (Text.trimmed raw) hafter
  rw [← hraw] at hpadded
  obtain ⟨htype, hcaption, htitle⟩ := hpadded
  exact ⟨htype.symm, hcaption.symm, htitle.symm⟩

end CodeFigure.Params
