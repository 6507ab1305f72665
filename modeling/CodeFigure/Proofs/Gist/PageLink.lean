/-
  CodeFigure/Proofs/Gist/PageLink.lean
  ====================================
  **When the caption of a gist links to the page of the gist.**

  A file is captioned by writing its name and the address of its page into the
  parameters of a directive, one blank between them, and the parameters are read
  like any others.  What was put in comes back exactly when no language tag is
  read from either part (`caption_params_eq_iff`): a tag is cut out of the part
  that it stands in, and the caption says something else, whichever part that is.

  An owner or a filename may hold such a tag, so a gist that is rendered without an
  error need not link to its page.  The last section says which do.
-/
import CodeFigure.Proofs.Caption.Words
import CodeFigure.Proofs.Gist.Course
import CodeFigure.Proofs.Gist.Urls
import CodeFigure.Proofs.Params.TagSearch

namespace CodeFigure

open CodeFigure.Text

/-! ### Files named and addressed by words -/

namespace GistFile

/-- The name of the file is one word, and the address of its page is another. -/
structure IsWords (file : GistFile) : Prop where
  filename : ∀ name ∈ file.filename, Reference.IsFilename name.toList
  page : IsInkText file.gistUrl.toList
  http : IsHttpUrl file.gistUrl.toList

def meant (file : GistFile) : Caption :=
  match file.filename with
  | some name => .linked name file.gistUrl Caption.defaultLabel
  | none => .address file.gistUrl

/-- The markup of the caption that names the file and links to its page. -/
def pageCaption (file : GistFile) : String :=
  "<figcaption><span>" ++ file.filename.getD file.gistUrl ++ "</span><a href='" ++ file.gistUrl ++
    "'>link</a></figcaption>"

theorem markup_meant (file : GistFile) : file.meant.markup = file.pageCaption := by
  unfold meant pageCaption
  cases file.filename with
  | some name => exact Caption.markup_linked name file.gistUrl
  | none => exact Caption.markup_linked file.gistUrl file.gistUrl

theorem title_meant (file : GistFile) : file.meant.title = file.filename.getD file.gistUrl := by
  unfold meant
  cases file.filename <;> rfl

/-- Beside the same page the markup shows the title. -/
theorem title_eq_of_pageCaption {file file' : GistFile} (hpage : file.gistUrl = file'.gistUrl)
    (hcaption : file.pageCaption = file'.pageCaption) :
    file.filename.getD file.gistUrl = file'.filename.getD file'.gistUrl := by
  unfold pageCaption at hcaption
  rw [hpage] at hcaption ⊢
  simpa only [String.append_left_inj, String.append_right_inj] using hcaption

variable {file : GistFile}

theorem IsWords.page_ne_nil (hwords : file.IsWords) : file.gistUrl.toList ≠ [] := by
  obtain ⟨scheme, rest, -, hrest, hsplit⟩ := hwords.http
  rw [hsplit]
  intro hnil
  exact hrest (List.append_eq_nil_iff.mp hnil).2

theorem IsWords.startsAddress_page (hwords : file.IsWords) :
    Caption.startsAddress file.gistUrl.toList = true := by
  rw [Caption.startsAddress_iff_isAddress hwords.page]
  obtain ⟨scheme, rest, hscheme, hrest, hsplit⟩ := hwords.http
  refine ⟨scheme.toList, rest, ?_, hrest, hsplit⟩
  rcases hscheme with rfl | rfl
  · exact Or.inr (Or.inl (by decide))
  · exact Or.inr (Or.inr (by decide))

/-- No tag starts where the scheme stands. -/
theorem IsWords.page_ne_keyword_append (hwords : file.IsWords) {keyword : List Char}
    (hkeyword : LangTag.IsKeyword keyword) (rest : List Char) :
    file.gistUrl.toList ≠ keyword ++ rest := by
  intro hsplit
  obtain ⟨scheme, behind, hscheme, -, hhttp⟩ := hwords.http
  cases keyword with
  | nil => cases hkeyword
  | cons c keyword =>
    have hc : foldCase c = 'l' := (List.cons.inj hkeyword).1
    have hhead : file.gistUrl.toList.head? = some 'h' := by
      rw [hhttp]
      rcases hscheme with rfl | rfl
      · rfl
      · rfl
    rw [hsplit] at hhead
    cases hhead
    exact absurd hc (by decide)

theorem params_of_some {name : String} (hname : file.filename = some name) :
    file.params.toList = name.toList ++ ' ' :: file.gistUrl.toList := by
  unfold params
  rw [hname]
  simp [String.toList_append]

theorem params_of_none (hnone : file.filename = none) : file.params = file.gistUrl := by
  unfold params
  rw [hnone]

theorem hasTag_params_of_some {name : String} (hname : file.filename = some name) :
    LangTag.HasTag file.params.toList ↔
      LangTag.HasTag name.toList ∨ LangTag.HasTag file.gistUrl.toList := by
  rw [params_of_some hname]
  exact LangTag.hasTag_append_blank (by decide)

theorem not_hasTag_params_iff :
    ¬ LangTag.HasTag file.params.toList ↔
      (∀ name ∈ file.filename, ¬ LangTag.HasTag name.toList) ∧
        ¬ LangTag.HasTag file.gistUrl.toList := by
  cases hname : file.filename with
  | none => simp [params_of_none hname]
  | some name => simp [hasTag_params_of_some hname]

/-! ### Parameters without a tag -/

theorem ofText?_params (hwords : file.IsWords) : Caption.ofText? file.params.toList = some file.meant := by
  unfold meant
  cases hname : file.filename with
  | some name =>
    obtain ⟨hne, hink⟩ := hwords.filename name hname
    rw [params_of_some hname, Caption.ofText?_two_words (by decide) hink hne hwords.page
      hwords.page_ne_nil, if_pos hwords.startsAddress_page, String.ofList_toList,
      String.ofList_toList]
  | none =>
    rw [params_of_none hname, Caption.ofText?_word hwords.page hwords.page_ne_nil,
      if_pos hwords.startsAddress_page, String.ofList_toList]

theorem parse_params_of_not_hasTag (hwords : file.IsWords)
    (htag : ¬ LangTag.HasTag file.params.toList) :
    Params.parse file.params = Params.ofParts file.params none (some file.meant) := by
  rw [Params.parse_of_not_hasTag htag, ofText?_params hwords]

/-! ### Parameters with a tag -/

def lead (file : GistFile) : List Char :=
  match file.filename with
  | some name => name.toList ++ [' ']
  | none => []

theorem cut?_params_of_name {name : String} (hname : file.filename = some name)
    {before rest : List Char} (hcut : LangTag.cut? name.toList = some (before, rest)) :
    LangTag.cut? file.params.toList = some (before, rest ++ ' ' :: file.gistUrl.toList) := by
  rw [params_of_some hname, LangTag.cut?_append_blank (by decide), hcut]

theorem cut?_params_of_page (hname : ∀ name ∈ file.filename, ¬ LangTag.HasTag name.toList)
    {before rest : List Char} (hcut : LangTag.cut? file.gistUrl.toList = some (before, rest)) :
    LangTag.cut? file.params.toList = some (file.lead ++ before, rest) := by
  unfold lead
  cases hfile : file.filename with
  | none =>
    rw [params_of_none hfile, hcut]
    rfl
  | some name =>
    rw [params_of_some hfile, LangTag.cut?_append_blank (by decide),
      LangTag.cut?_eq_none_iff.mpr (hname name hfile), hcut]
    simp

/-- The file under the name `before`, or under none if nothing is left of it. -/
def renamed (file : GistFile) (before : List Char) : GistFile :=
  { file with filename := if before = [] then none else some (String.ofList before) }

theorem isWords_renamed (hwords : file.IsWords) {before : List Char} (hbefore : IsInkText before) :
    (file.renamed before).IsWords := by
  refine ⟨?_, hwords.page, hwords.http⟩
  intro name hname
  simp only [renamed] at hname
  split at hname
  · cases hname
  · next hne =>
    cases hname
    rw [String.toList_ofList]
    exact ⟨hne, hbefore⟩

/-- What is left of the name stays the name. -/
theorem ofText?_append_page (hwords : file.IsWords) {before : List Char}
    (hbefore : IsInkText before) :
    Caption.ofText? (before ++ ' ' :: file.gistUrl.toList) = some (file.renamed before).meant := by
  have hread := ofText?_params (isWords_renamed hwords hbefore)
  by_cases hempty : before = []
  · have hnone : (file.renamed before).filename = none := if_pos hempty
    rw [params_of_none hnone] at hread
    rw [hempty] at hread ⊢
    rw [List.nil_append, ← List.singleton_append,
      Caption.ofText?_blank_append (isBlankText_singleton (by decide))]
    exact hread
  · have hsome : (file.renamed before).filename = some (String.ofList before) := if_neg hempty
    rw [params_of_some hsome, String.toList_ofList] at hread
    exact hread

/-- The rest of a name is shorter than the name, and without one the page is no name that
    starts with a keyword. -/
theorem title_renamed_ne (hwords : file.IsWords) {name : String} {before keyword rest : List Char}
    (hkeyword : LangTag.IsKeyword keyword) (hsplit : name.toList = before ++ keyword ++ rest) :
    (file.renamed before).meant.title ≠ name := by
  rw [title_meant]
  simp only [renamed]
  split
  · next hempty =>
    rintro rfl
    rw [hempty] at hsplit
    exact hwords.page_ne_keyword_append hkeyword rest hsplit
  · rintro rfl
    have hlength := congrArg List.length hsplit
    rw [Option.getD_some, String.toList_ofList, List.length_append, List.length_append,
      LangTag.length_of_isKeyword hkeyword] at hlength
    omega

theorem dropWhile_isInk_append_blank {s t : List Char} {b : Char} (hs : IsInkText s)
    (hb : isBlank b = true) : (s ++ b :: t).dropWhile isInk = b :: t := by
  apply dropWhile_append_of_head (isInk_of_isInkText hs)
  rintro _ ⟨⟩
  simp [isInk, hb]

/-- A tag in the name takes the end of the name away. -/
theorem caption_ne_of_tag_in_name (hwords : file.IsWords) {name : String}
    (hname : file.filename = some name) (htag : LangTag.HasTag name.toList) :
    (Params.parse file.params).caption ≠ some file.pageCaption := by
  obtain ⟨before, keyword, rest, hcut, hkeyword, hsplit, hbefore, hrest⟩ :=
    LangTag.exists_cut_of_ink (hwords.filename name hname).2 htag
  rw [Params.caption_parse_of_cut (cut?_params_of_name hname hcut),
    dropWhile_isInk_append_blank hrest (by decide), trimEnd_of_ink hbefore,
    ofText?_append_page hwords hbefore, Option.map_some, markup_meant]
  intro hcaption
  have htitle : (file.renamed before).filename.getD file.gistUrl = file.filename.getD file.gistUrl :=
    title_eq_of_pageCaption rfl (Option.some.inj hcaption)
  rw [hname, Option.getD_some] at htitle
  exact title_renamed_ne hwords hkeyword hsplit ((title_meant _).trans htitle)

theorem length_pageCaption (file : GistFile) :
    file.pageCaption.length =
      57 + (file.filename.getD file.gistUrl).length + file.gistUrl.length := by
  rw [← markup_meant]
  unfold meant
  cases file.filename with
  | some name => exact Caption.length_markup_linked name file.gistUrl
  | none => exact Caption.length_markup_linked file.gistUrl file.gistUrl

/-- A tag in the address takes the end of the address away. -/
theorem caption_ne_of_tag_in_page (hwords : file.IsWords)
    (hname : ∀ name ∈ file.filename, ¬ LangTag.HasTag name.toList)
    (htag : LangTag.HasTag file.gistUrl.toList) :
    (Params.parse file.params).caption ≠ some file.pageCaption := by
  obtain ⟨before, keyword, rest, hcut, hkeyword, hsplit, hbefore, hrest⟩ :=
    LangTag.exists_cut_of_ink hwords.page htag
  have hne : before ≠ [] := by
    rintro rfl
    exact hwords.page_ne_keyword_append hkeyword rest hsplit
  have hlength : file.gistUrl.length = before.length + 5 + rest.length := by
    rw [← String.length_toList, hsplit, List.length_append, List.length_append,
      LangTag.length_of_isKeyword hkeyword]
  have hparams := cut?_params_of_page hname hcut
  intro hcaption
  rw [Params.caption_parse_of_cut hparams, dropWhile_isInk_of_ink hrest, List.append_nil,
    trimEnd_append_of_ink _ hbefore hne] at hcaption
  obtain ⟨caption, hread, hmarkup⟩ := Option.map_eq_some_iff.mp hcaption
  have hpage := length_pageCaption file
  unfold lead at hread
  cases hfile : file.filename with
  | none =>
    rw [hfile] at hread
    have hbound := Caption.length_markup_word hbefore hne hread
    rw [hfile, Option.getD_none] at hpage
    rw [hmarkup] at hbound
    omega
  | some name =>
    obtain ⟨hnameNe, hnameInk⟩ := hwords.filename name hfile
    rw [hfile, List.append_assoc, List.singleton_append] at hread
    have hbound := Caption.length_markup_two_words (by decide) hnameInk hnameNe hbefore hne hread
    rw [hfile, Option.getD_some] at hpage
    rw [hmarkup, String.length_toList] at hbound
    omega

/-- **The boundary.**  The caption of a file names it and links to its page exactly
    when no tag is read from its parameters. -/
theorem caption_params_eq_iff (hwords : file.IsWords) :
    (Params.parse file.params).caption = some file.pageCaption ↔
      ¬ LangTag.HasTag file.params.toList := by
  constructor
  · intro hcaption htag
    cases hname : file.filename with
    | none =>
      rw [params_of_none hname] at htag
      refine caption_ne_of_tag_in_page hwords ?_ htag hcaption
      intro name hmem
      rw [hname] at hmem
      cases hmem
    | some name =>
      by_cases hin : LangTag.HasTag name.toList
      · exact caption_ne_of_tag_in_name hwords hname hin hcaption
      · rcases (hasTag_params_of_some hname).mp htag with hin' | hpage
        · exact hin hin'
        · refine caption_ne_of_tag_in_page hwords ?_ hpage hcaption
          intro name' hmem
          rw [hname] at hmem
          cases hmem
          exact hin
  · intro htag
    rw [parse_params_of_not_hasTag hwords htag, ← markup_meant]
    rfl

theorem trimmed_params (hwords : file.IsWords) : Text.trimmed file.params = file.params := by
  rw [Text.trimmed]
  cases hname : file.filename with
  | none =>
    rw [params_of_none hname, trim_of_ink hwords.page, String.ofList_toList]
  | some name =>
    obtain ⟨hne, hink⟩ := hwords.filename name hname
    rw [params_of_some hname, trim_two_words ' ' hink hne hwords.page hwords.page_ne_nil,
      ← params_of_some hname, String.ofList_toList]

/-- Without a name only a tag gives the file a type. -/
theorem fileType_params_of_none_iff (hwords : file.IsWords) (hnone : file.filename = none) :
    (Params.parse file.params).fileType = none ↔ ¬ LangTag.HasTag file.params.toList := by
  constructor
  · intro htype htag
    obtain ⟨before, rest, hcut⟩ := LangTag.hasTag_iff_exists_cut?.mp htag
    rw [Params.parse_of_cut hcut] at htype
    cases htype
  · intro htag
    rw [parse_params_of_not_hasTag hwords htag, meant, hnone]
    rfl

end GistFile

/-! ### Rendered gists -/

namespace GistTag

theorem isWords_fileWith {client : Client} {renderer : Renderer} {baseUrl text : String}
    {reference : Reference} (hbase : IsHttpBase baseUrl.toList) (hink : IsInkText baseUrl.toList)
    (hread : Reference.parse text = .ok reference) (body : String) :
    (fileWith ⟨Resolver.forHost client baseUrl, renderer⟩ reference body).IsWords := by
  have hwritable := Reference.isWritable_of_parse hread
  refine ⟨hwritable.filename, ?_, ?_⟩
  · change IsInkText ((Resolver.forHost client baseUrl).prettyUrl reference).toList
    rw [Resolver.prettyUrl_forHost]
    exact Reference.isInkText_prettyUrl (fun owner howner => (hwritable.owner owner howner).2.1) hink
  · change IsHttpUrl ((Resolver.forHost client baseUrl).prettyUrl reference).toList
    rw [Resolver.prettyUrl_forHost]
    exact Reference.isHttpUrl_prettyUrl reference hbase

/-- **Which gists link to their page.**  A gist that is rendered without an error
    is captioned with its name, or its page when it has none, and linked to its page
    exactly when neither the name nor the address of the page holds a language tag.
    Without a name the highlighter stays unused exactly when the address holds no
    tag or highlighting is off. -/
theorem tryRender_pageLink_iff {client : Client} {renderer : Renderer} {past : List String}
    {baseUrl text html : String} {reference : Reference}
    (hbase : IsHttpBase baseUrl.toList) (hink : IsInkText baseUrl.toList)
    (hread : Reference.parse text = .ok reference)
    (hok : (tryRender ⟨Resolver.forHost client baseUrl, renderer⟩ past text).result = .ok html) :
    let tag : GistTag := ⟨Resolver.forHost client baseUrl, renderer⟩
    let page := tag.resolver.prettyUrl reference
    ∃ file directive,
      (tag.download past reference).result = .ok file ∧ file.toDirective = .ok directive ∧
      Directive.parse directive.source = .ok directive ∧
      html = (directive.render renderer).html ∧
      (∃ code, html =
        Figure.assemble (Params.parse directive.params).caption code renderer.decorations) ∧
      ((Params.parse directive.params).caption =
          some ("<figcaption><span>" ++ reference.filename.getD page ++ "</span><a href='" ++ page ++
            "'>link</a></figcaption>") ↔
        (∀ name ∈ reference.filename, ¬ LangTag.HasTag name.toList) ∧
          ¬ LangTag.HasTag page.toList) ∧
      (reference.filename = none →
        ((tag.tryRender past text).calls = [] ↔
          renderer.highlighting = false ∨ ¬ LangTag.HasTag page.toList)) := by
  intro tag page
  obtain ⟨body, directive, hfile, hmade, hparams, hhtml, hcalls⟩ := exists_directive_of_ok hread hok
  have hwords : (tag.fileWith reference body).IsWords := isWords_fileWith hbase hink hread body
  rw [GistFile.trimmed_params hwords] at hparams
  refine ⟨tag.fileWith reference body, directive, hfile, hmade, Directive.parse_source directive,
    hhtml, ?_, ?_, ?_⟩
  · obtain ⟨code, hcode⟩ :=
      renderer.exists_assemble_renderParsed directive.body (Params.parse directive.params)
    exact ⟨code, hhtml.trans hcode⟩
  · rw [hparams]
    exact (GistFile.caption_params_eq_iff hwords).trans GistFile.not_hasTag_params_iff
  · intro hnone
    rw [hcalls, Directive.render, Renderer.render, Renderer.calls_renderParsed,
      Renderer.uses_eq_nil_iff, hparams, GistFile.fileType_params_of_none_iff hwords hnone,
      GistFile.params_of_none hnone]
    rfl

/-- A gist without a name is a case of this. -/
theorem tryRender_pageLink_unnamed :
    ∃ file directive,
      ((answering ⟨200, "x"⟩).download [] ⟨7, some "me", none⟩).result = .ok file ∧
      file.toDirective = .ok directive ∧
      (Params.parse directive.params).caption =
        some ("<figcaption><span>https://gist.github.com/me/7</span>" ++
          "<a href='https://gist.github.com/me/7'>link</a></figcaption>") ∧
      ((answering ⟨200, "x"⟩).tryRender [] "me/7").calls = [] := by
  have hbase : IsHttpBase Resolver.defaultBaseUrl.toList :=
    ⟨"https://", "gist.github.com".toList, Or.inr rfl, ⟨'g', by decide, by decide⟩, by decide⟩
  have hink : IsInkText Resolver.defaultBaseUrl.toList := all_isInk_eq_true_iff.mp (by decide)
  have hread : Reference.parse "me/7" = .ok ⟨7, some "me", none⟩ := rfl
  have hanswer : (answering ⟨200, "x"⟩).resolver.client []
      ((answering ⟨200, "x"⟩).resolver.rawUrl ⟨7, some "me", none⟩) = .ok ⟨200, "x"⟩ := rfl
  obtain ⟨html, hok⟩ : ∃ html, ((answering ⟨200, "x"⟩).tryRender [] "me/7").result = .ok html := by
    rw [tryRender_of_unreserved hread hanswer (by decide) (by decide)]
    exact ⟨_, rfl⟩
  obtain ⟨file, directive, hfile, hmade, -, -, -, hlink, hcalls⟩ :=
    tryRender_pageLink_iff hbase hink hread hok
  have hpage : (Resolver.forHost (fun _ _ => .ok ⟨200, "x"⟩) Resolver.defaultBaseUrl).prettyUrl
      ⟨7, some "me", none⟩ = "https://gist.github.com/me/7" := by decide
  have hfree : ¬ LangTag.HasTag "https://gist.github.com/me/7".toList :=
    LangTag.cut?_eq_none_iff.mp (by decide)
  rw [hpage] at hlink hcalls
  refine ⟨file, directive, hfile, hmade, ?_, (hcalls rfl).mpr (Or.inr hfree)⟩
  refine (hlink.mpr ⟨?_, hfree⟩).trans (by decide)
  intro name hname
  cases hname

/-- An owner may hold a tag.  The rest of the address becomes the file type, the
    link loses it, and the highlighter is used even without a name. -/
theorem not_pageLink_of_tag_in_owner :
    let tag := answering ⟨200, "x"⟩
    let reference : Reference := ⟨1, some "lang:x", some "A.java"⟩
    Reference.parse "lang:x/1 A.java" = .ok reference ∧
      (∃ html, (tag.tryRender [] "lang:x/1 A.java").result = .ok html) ∧
      tag.resolver.prettyUrl reference = "https://gist.github.com/lang:x/1" ∧
      ∃ directive, (tag.fileWith reference "x").toDirective = .ok directive ∧
        (Params.parse directive.params).fileType = some "x/1" ∧
        (Params.parse directive.params).caption =
          some ("<figcaption><span>A.java</span>" ++
            "<a href='https://gist.github.com/'>link</a></figcaption>") ∧
        (tag.tryRender [] "lang:x/1").calls = [⟨"x", "x/1"⟩] := by
  intro tag reference
  have hread : Reference.parse "lang:x/1 A.java" = .ok reference := rfl
  have hanswer : tag.resolver.client [] (tag.resolver.rawUrl reference) = .ok ⟨200, "x"⟩ := rfl
  have hfree : (tag.fileWith reference "x").params.toList.any isReserved = false := by decide
  obtain ⟨directive, hmade, hparams, -⟩ := exists_toDirective hfree
  refine ⟨hread, ?_, by decide, directive, hmade, ?_, ?_, ?_⟩
  · rw [tryRender_of_unreserved hread hanswer (by decide) hfree]
    exact ⟨_, rfl⟩
  · rw [hparams]
    decide
  · rw [hparams]
    decide
  · have hunnamed : Reference.parse "lang:x/1" = .ok ⟨1, some "lang:x", none⟩ := rfl
    have hanswer' : tag.resolver.client [] (tag.resolver.rawUrl ⟨1, some "lang:x", none⟩) =
        .ok ⟨200, "x"⟩ := rfl
    rw [tryRender_of_unreserved hunnamed hanswer' (by decide) (by decide)]
    simp only
    rw [Renderer.render, Renderer.calls_renderParsed]
    decide

end GistTag

end CodeFigure
