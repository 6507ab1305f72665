/-
  CodeFigure/Proofs/Gist/CaptionBoundary.lean
  ===========================================
  **What is read back from the parameters that caption a file.**

  The parameters of a file are its name and its page.  Reading them gives these two back,
  and a file type that only the name decides, as long as neither holds the keyword of a
  language tag with a character behind it (`parse_toDirective_iff`).

  A keyword in either word makes the word a tag from there on (`TaggedWith`).  What is
  behind the keyword becomes the file type.  The word loses its end, so the title is not the
  name any more or the link does not lead to the page.
-/
import CodeFigure.Proofs.Caption.Extensions
import CodeFigure.Proofs.Gist.PageLink
import CodeFigure.Proofs.Params.FileTypes

namespace CodeFigure

open CodeFigure.Text

namespace LangTag

/-- `lang:`, in any case of ASCII letters, stands in `s` with a character behind it. -/
def HasKeyword (s : List Char) : Prop :=
  ∃ before keyword c rest, keyword.map Char.toLower = "lang:".toList ∧
    s = before ++ keyword ++ c :: rest

/-- In a word every character may start the value of a tag. -/
theorem hasTag_iff_hasKeyword {s : List Char} (hs : IsInkText s) : HasTag s ↔ HasKeyword s := by
  constructor
  · rintro ⟨before, rest, rfl, keyword, c, behind, hkeyword, -, rfl⟩
    exact ⟨before, keyword, c, behind, isKeyword_iff.mp hkeyword, (List.append_assoc ..).symm⟩
  · rintro ⟨before, keyword, c, behind, hkeyword, rfl⟩
    refine ⟨before, keyword ++ c :: behind, List.append_assoc .., keyword, c, behind,
      isKeyword_iff.mpr hkeyword, hs c ?_, rfl⟩
    exact List.mem_append_right _ List.mem_cons_self

end LangTag

namespace GistFile

variable {file : GistFile}

/-! ### Words with a tag -/

/-- The first keyword with a character behind it, in the name or else in the page, has
    `value` behind it. -/
inductive TaggedWith (file : GistFile) (value : List Char) : Prop
  | inName {name : String} {before keyword : List Char} (hname : file.filename = some name)
      (hfirst : LangTag.IsFirstKeyword before keyword value)
      (hsplit : name.toList = before ++ keyword ++ value)
  | inPage {before keyword : List Char}
      (hname : ∀ name ∈ file.filename, ¬ LangTag.HasKeyword name.toList)
      (hfirst : LangTag.IsFirstKeyword before keyword value)
      (hsplit : file.gistUrl.toList = before ++ keyword ++ value)

/-- Neither the name nor the page holds a keyword with a character behind it. -/
def Untagged (file : GistFile) : Prop :=
  (∀ name ∈ file.filename, ¬ LangTag.HasKeyword name.toList) ∧
    ¬ LangTag.HasKeyword file.gistUrl.toList

theorem not_hasTag_name_iff (hwords : file.IsWords) :
    (∀ name ∈ file.filename, ¬ LangTag.HasTag name.toList) ↔
      ∀ name ∈ file.filename, ¬ LangTag.HasKeyword name.toList :=
  forall₂_congr fun name hname =>
    not_congr (LangTag.hasTag_iff_hasKeyword (hwords.filename name hname).2)

theorem untagged_iff (hwords : file.IsWords) :
    file.Untagged ↔ ¬ LangTag.HasTag file.params.toList := by
  rw [not_hasTag_params_iff, not_hasTag_name_iff hwords, LangTag.hasTag_iff_hasKeyword hwords.page,
    Untagged]

/-- The search in the parameters looks at the name first. -/
theorem exists_taggedWith (hwords : file.IsWords) (htagged : ¬ file.Untagged) :
    ∃ value, file.TaggedWith value := by
  by_cases hnone : ∀ name ∈ file.filename, ¬ LangTag.HasTag name.toList
  · by_cases hpage : LangTag.HasTag file.gistUrl.toList
    · obtain ⟨before, keyword, value, hfirst, hsplit⟩ :=
        LangTag.hasTag_iff_exists_isFirstKeyword.mp hpage
      exact ⟨value, .inPage ((not_hasTag_name_iff hwords).mp hnone) hfirst hsplit⟩
    · exact absurd ((untagged_iff hwords).mpr (not_hasTag_params_iff.mpr ⟨hnone, hpage⟩)) htagged
  · simp only [Classical.not_forall, Classical.not_not] at hnone
    obtain ⟨name, hname, htag⟩ := hnone
    obtain ⟨before, keyword, value, hfirst, hsplit⟩ :=
      LangTag.hasTag_iff_exists_isFirstKeyword.mp htag
    exact ⟨value, .inName hname hfirst hsplit⟩

/-- The part behind the keyword is the file type, up to the end of its word. -/
theorem TaggedWith.fileType_eq {value : List Char} (hwords : file.IsWords)
    (htagged : file.TaggedWith value) :
    (Params.parse file.params).fileType = some (String.ofList value) := by
  cases htagged with
  | @inName name before keyword hname hfirst hsplit =>
    have hcut := cut?_params_of_name hname (LangTag.cut?_eq_some_iff.mpr ⟨keyword, hfirst, hsplit⟩)
    obtain ⟨-, hink⟩ := LangTag.isInkText_around (hwords.filename name hname).2 hsplit
    have hvalue : (value ++ ' ' :: file.gistUrl.toList).takeWhile isInk = value := by
      apply takeWhile_append_of_head (isInk_of_isInkText hink)
      rintro _ ⟨⟩
      decide
    rw [Params.parse_of_cut hcut, hvalue]
    rfl
  | @inPage before keyword hname hfirst hsplit =>
    have hcut := cut?_params_of_page ((not_hasTag_name_iff hwords).mpr hname)
      (LangTag.cut?_eq_some_iff.mpr ⟨keyword, hfirst, hsplit⟩)
    obtain ⟨-, hink⟩ := LangTag.isInkText_around hwords.page hsplit
    rw [Params.parse_of_cut hcut, takeWhile_isInk_of_ink hink]
    rfl

/-! ### What a tag leaves -/

/-- The caption of the rest of a name still links to the page, under another title. -/
theorem exists_caption_of_tag_in_name (hwords : file.IsWords) {name : String}
    {before keyword value : List Char} (hname : file.filename = some name)
    (hfirst : LangTag.IsFirstKeyword before keyword value)
    (hsplit : name.toList = before ++ keyword ++ value) :
    ∃ caption, Caption.ofText? (Params.captionText file.params.toList) = some caption ∧
      caption.title ≠ name := by
  obtain ⟨hbefore, hvalue⟩ := LangTag.isInkText_around (hwords.filename name hname).2 hsplit
  have hcut := cut?_params_of_name hname (LangTag.cut?_eq_some_iff.mpr ⟨keyword, hfirst, hsplit⟩)
  rw [Params.captionText_of_cut hcut, trimEnd_of_ink hbefore,
    dropWhile_isInk_append_blank hvalue (by decide)]
  exact ⟨_, ofText?_append_page hwords hbefore, title_renamed_ne hwords hfirst.isKeyword hsplit⟩

/-- The caption of the rest of an address does not link to the whole of it. -/
theorem exists_caption_of_tag_in_page (hwords : file.IsWords) {before keyword value : List Char}
    (hname : ∀ name ∈ file.filename, ¬ LangTag.HasTag name.toList)
    (hfirst : LangTag.IsFirstKeyword before keyword value)
    (hsplit : file.gistUrl.toList = before ++ keyword ++ value) :
    ∃ caption, Caption.ofText? (Params.captionText file.params.toList) = some caption ∧
      ∀ label, caption.link? ≠ some (file.gistUrl, label) := by
  obtain ⟨hbefore, hvalue⟩ := LangTag.isInkText_around hwords.page hsplit
  have hne : before ≠ [] := by
    rintro rfl
    exact hwords.page_ne_keyword_append hfirst.isKeyword value hsplit
  have hshort : String.ofList before ≠ file.gistUrl := by
    intro hpage
    have hlength := congrArg List.length hsplit
    rw [← hpage, String.toList_ofList, List.length_append, List.length_append,
      LangTag.length_of_isKeyword hfirst.isKeyword] at hlength
    omega
  have hcut := cut?_params_of_page hname (LangTag.cut?_eq_some_iff.mpr ⟨keyword, hfirst, hsplit⟩)
  rw [Params.captionText_of_cut hcut, trimEnd_append_of_ink _ hbefore hne,
    dropWhile_isInk_of_ink hvalue, List.append_nil]
  have hother (label : String) :
      some (String.ofList before, Caption.defaultLabel) ≠ some (file.gistUrl, label) := by
    intro hlink
    exact hshort (Prod.mk.inj (Option.some.inj hlink)).1
  -- the rest may not be an address any more, and then there is no link at all
  unfold lead
  cases hfile : file.filename with
  | none =>
    rw [List.nil_append, Caption.ofText?_word hbefore hne]
    split
    · exact ⟨_, rfl, hother⟩
    · exact ⟨_, rfl, by rintro label ⟨⟩⟩
  | some name =>
    obtain ⟨hnameNe, hnameInk⟩ := hwords.filename name hfile
    rw [List.append_assoc, List.singleton_append,
      Caption.ofText?_two_words (by decide) hnameInk hnameNe hbefore hne]
    split
    · exact ⟨_, rfl, hother⟩
    · exact ⟨_, rfl, by rintro label ⟨⟩⟩

theorem TaggedWith.exists_caption {value : List Char} (hwords : file.IsWords)
    (htagged : file.TaggedWith value) :
    ∃ caption, Caption.ofText? (Params.captionText file.params.toList) = some caption ∧
      (caption.title ≠ file.filename.getD file.gistUrl ∨
        ∀ label, caption.link? ≠ some (file.gistUrl, label)) := by
  cases htagged with
  | inName hname hfirst hsplit =>
    obtain ⟨caption, hread, htitle⟩ := exists_caption_of_tag_in_name hwords hname hfirst hsplit
    rw [hname]
    exact ⟨caption, hread, Or.inl htitle⟩
  | inPage hname hfirst hsplit =>
    obtain ⟨caption, hread, hlink⟩ :=
      exists_caption_of_tag_in_page hwords ((not_hasTag_name_iff hwords).mpr hname) hfirst hsplit
    exact ⟨caption, hread, Or.inr hlink⟩

/-! ### The caption that is meant -/

/-- The name mentions this extension. -/
def Mentions (file : GistFile) (extension : String) : Prop :=
  ∃ name ∈ file.filename, ∃ before after,
    name.toList = before ++ '.' :: (extension.toList ++ after) ∧
      Caption.IsExtension before extension.toList after

theorem fileType?_meant_eq_some_iff {extension : String} :
    file.meant.fileType? = some extension ↔ file.Mentions extension := by
  unfold meant Mentions
  cases file.filename with
  | none => simp [Caption.fileType?]
  | some name =>
    simp only [Caption.fileType?, Option.mem_def, Option.some.injEq, exists_eq_left',
      ← Caption.extension?_eq_some_iff, Option.map_eq_some_iff]
    constructor
    · rintro ⟨word, hword, rfl⟩
      rwa [String.toList_ofList]
    · intro hword
      exact ⟨_, hword, String.ofList_toList⟩

/-- A blank between two words is nothing that a directive reserves. -/
theorem params_unreserved (hname : ∀ name ∈ file.filename, name.toList.any isReserved = false)
    (hpage : file.gistUrl.toList.any isReserved = false) :
    file.params.toList.any isReserved = false := by
  cases hfile : file.filename with
  | none => rwa [params_of_none hfile]
  | some name =>
    rw [params_of_some hfile, List.any_append, List.any_cons, hname name hfile, hpage]
    decide

/-- **The boundary of what is read back.**  The parameters of a file that a directive can hold
    are captioned with the name, or the page without one, the link leads to the page under the
    label `link`, and the file type is the extension that the name mentions, exactly when
    neither word holds the keyword of a tag with a character behind it.  A word that does
    becomes a tag from there on: what is behind the keyword is the file type, and the title is
    another, or there is no link, or one that does not lead to the page. -/
theorem parse_toDirective_iff (hwords : file.IsWords)
    (hname : ∀ name ∈ file.filename, name.toList.any isReserved = false)
    (hpage : file.gistUrl.toList.any isReserved = false) :
    ∃ directive, file.toDirective = .ok directive ∧
      let params := Params.parse directive.params
      let captioned := "<figcaption><span>" ++ file.filename.getD file.gistUrl ++
        "</span><a href='" ++ file.gistUrl ++ "'>link</a></figcaption>"
      ((params.title = some (file.filename.getD file.gistUrl) ∧ params.caption = some captioned ∧
          ∀ fileType, params.fileType = some fileType ↔ file.Mentions fileType) ↔
        file.Untagged) ∧
      (¬ file.Untagged → params.caption ≠ some captioned ∧
        (∃ value, file.TaggedWith value ∧ params.fileType = some (String.ofList value)) ∧
        ∃ title, params.title = some title ∧
          (params.caption = some ("<figcaption><span>" ++ title ++ "</span></figcaption>") ∨
            ∃ href label,
              params.caption = some ("<figcaption><span>" ++ title ++ "</span><a href='" ++ href ++
                "'>" ++ label ++ "</a></figcaption>") ∧
              (title ≠ file.filename.getD file.gistUrl ∨ href ≠ file.gistUrl))) := by
  obtain ⟨directive, hmade, hparams, -⟩ :=
    GistTag.exists_toDirective (params_unreserved hname hpage)
  rw [trimmed_params hwords] at hparams
  have hboundary : (Params.parse file.params).caption = some file.pageCaption ↔ file.Untagged :=
    (caption_params_eq_iff hwords).trans (untagged_iff hwords).symm
  refine ⟨directive, hmade, ?_⟩
  rw [hparams]
  refine ⟨⟨fun hmeant => hboundary.mp hmeant.2.1, ?_⟩, ?_⟩
  · intro huntagged
    have hread := parse_params_of_not_hasTag hwords ((untagged_iff hwords).mp huntagged)
    refine ⟨?_, hboundary.mpr huntagged, ?_⟩
    · rw [hread, ← title_meant]
      rfl
    · intro fileType
      rw [hread, ← fileType?_meant_eq_some_iff]
      rfl
  · intro hnot
    obtain ⟨value, htagged⟩ := exists_taggedWith hwords hnot
    obtain ⟨caption, hread, hdiffers⟩ := htagged.exists_caption hwords
    have htitle : (Params.parse file.params).title = some caption.title := by
      rw [Params.title_parse, hread]
      rfl
    have hcaption : (Params.parse file.params).caption = some caption.markup := by
      rw [Params.caption_parse, hread]
      rfl
    refine ⟨mt hboundary.mp hnot, ⟨value, htagged, htagged.fileType_eq hwords⟩, caption.title,
      htitle, ?_⟩
    rw [hcaption]
    rcases caption.markup_cases with ⟨-, hmarkup⟩ | ⟨href, label, hlink, hmarkup⟩
    · exact .inl (congrArg some hmarkup)
    · refine .inr ⟨href, label, congrArg some hmarkup, ?_⟩
      rcases hdiffers with hother | hother
      · exact .inl hother
      · refine .inr ?_
        rintro rfl
        exact hother label hlink

/-- A keyword that ends its word makes no tag, although the parameters go on behind it.  Here
    it is a part of the extension. -/
theorem parse_toDirective_keywordAtEnd :
    let file : GistFile := ⟨"x", "https://h/y.z", some "a.rbLang:"⟩
    ∃ directive, file.toDirective = .ok directive ∧
      (Params.parse directive.params).title = some "a.rbLang:" ∧
      (Params.parse directive.params).caption =
        some "<figcaption><span>a.rbLang:</span><a href='https://h/y.z'>link</a></figcaption>" ∧
      (Params.parse directive.params).fileType = some "rbLang" := by
  intro file
  have hwords : file.IsWords := by
    refine ⟨?_, all_isInk_eq_true_iff.mp (by decide), ?_⟩
    · rintro _ ⟨⟩
      exact ⟨by decide, all_isInk_eq_true_iff.mp (by decide)⟩
    · exact ⟨"https://", "h/y.z".toList, Or.inr rfl, by decide, by decide⟩
  have hname : ∀ name ∈ file.filename, name.toList.any isReserved = false := by
    rintro _ ⟨⟩
    decide
  have huntagged : file.Untagged :=
    (untagged_iff hwords).mpr (LangTag.cut?_eq_none_iff.mp (by decide))
  have hmentions : file.Mentions "rbLang" := fileType?_meant_eq_some_iff.mp (by decide)
  obtain ⟨directive, hmade, hread, -⟩ := parse_toDirective_iff hwords hname (by decide)
  obtain ⟨htitle, hcaption, htype⟩ := hread.mpr huntagged
  exact ⟨directive, hmade, htitle, hcaption.trans (by decide), (htype _).mpr hmentions⟩

end GistFile

end CodeFigure
