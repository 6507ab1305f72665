/-
  CodeFigure/Proofs/Figure/Nesting.lean
  =====================================
  **Figures are well-nested markup.**

  A figure is put together from literal tags and from foreign text.  Foreign text has
  no `<` of its own: a caption is written from parameters that have none, and the table
  escapes the code.  So the tags of a figure are known whatever the text is
  (`Caption.tags?_markup`, `Table.tags?_markup`), and they are balanced.

  Markup that a highlighter returns and decorations come from elsewhere.  If they are
  well nested, so is the whole, and a figure with the table has no other tag of a figure
  than its own first and last one (`render_wellNested`).
-/
import CodeFigure.Proofs.Figure.Rendering
import CodeFigure.Proofs.Markup.Balance
import CodeFigure.Proofs.Params.CaptionText
import CodeFigure.Proofs.Text.Numerals

namespace CodeFigure

open CodeFigure.Text
open CodeFigure.Markup

/-- Stated for any parts: literal ones are slow to take apart. -/
theorem toList_append_five (a b c d e : String) :
    (a ++ b ++ c ++ d ++ e).toList = a.toList ++ b.toList ++ c.toList ++ d.toList ++ e.toList := by
  simp only [String.toList_append]

/-! ### Captions -/

namespace Caption

def linkTags : Option (String × String) → List Tag
  | none => []
  | some _ => element "a" []

def tags (caption : Caption) : List Tag :=
  element "figcaption" (element "span" [] ++ linkTags caption.link?)

theorem balanced_tags (caption : Caption) : Balanced caption.tags := by
  have hspan : Balanced (element "span" []) := balanced_nil.element "span"
  apply Balanced.element
  apply hspan.append
  cases caption.link? with
  | none => exact balanced_nil
  | some link => exact balanced_nil.element "a"

theorem free_tags (caption : Caption) : Free "figure".toList caption.tags := by
  have hspan : Free "figure".toList (element "span" []) := (free_nil _).element _ (by decide)
  refine Free.element ?_ "figcaption" (by decide)
  apply hspan.append
  cases caption.link? with
  | none => exact free_nil _
  | some link => exact (free_nil _).element _ (by decide)

structure IsPlainText (caption : Caption) : Prop where
  title : '<' ∉ caption.title.toList
  link : ∀ link ∈ caption.link?, '<' ∉ link.1.toList ∧ '<' ∉ link.2.toList

theorem tags?_linkMarkup {link : Option (String × String)}
    (hlink : ∀ parts ∈ link, '<' ∉ parts.1.toList ∧ '<' ∉ parts.2.toList) :
    tags? (linkMarkup link).toList = some (linkTags link) := by
  cases link with
  | none => rfl
  | some parts =>
    obtain ⟨href, label⟩ := parts
    obtain ⟨hhref, hlabel⟩ := hlink _ rfl
    have hopen : tags? "<a href='".toList = some [.opening "a".toList] := by decide
    have hquote : tags? "'>".toList = some [] := by decide
    have hclose : tags? "</a>".toList = some [.closing "a".toList] := by decide
    have hmarkup : (linkMarkup (some (href, label))).toList = "<a href='".toList ++ href.toList ++
        "'>".toList ++ label.toList ++ "</a>".toList := toList_append_five _ _ _ _ _
    rw [hmarkup]
    exact tags?_between_three hopen (by decide) (tags?_of_not_mem hhref) hquote (by decide)
      (by decide) (by decide) (tags?_of_not_mem hlabel) hclose (by decide)

theorem tags?_markup {caption : Caption} (hplain : caption.IsPlainText) :
    tags? caption.markup.toList = some caption.tags := by
  have hspan : tags? "<figcaption><span>".toList =
      some [.opening "figcaption".toList, .opening "span".toList] := by decide
  have hspanEnd : tags? "</span>".toList = some [.closing "span".toList] := by decide
  have hclose : tags? "</figcaption>".toList = some [.closing "figcaption".toList] := by decide
  have hmarkup : caption.markup.toList = "<figcaption><span>".toList ++ caption.title.toList ++
      "</span>".toList ++ (linkMarkup caption.link?).toList ++ "</figcaption>".toList :=
    toList_append_five _ _ _ _ _
  rw [hmarkup]
  exact tags?_between_three hspan (by decide) (tags?_of_not_mem hplain.title) hspanEnd (by decide)
    (by decide) (by decide) (tags?_linkMarkup hplain.link) hclose (by decide)

/-- The parts of a caption are pieces of the text that it is read from. -/
theorem isPlainText_of_ofText? {text : List Char} {caption : Caption} (htext : '<' ∉ text)
    (hread : ofText? text = some caption) : caption.IsPlainText := by
  have htrim {s : List Char} (hs : '<' ∉ s) : '<' ∉ (String.ofList (trim s)).toList := by
    rw [String.toList_ofList]
    intro hmem
    exact hs (mem_of_mem_trim hmem)
  have hdefault : '<' ∉ defaultLabel.toList := by decide
  cases readsAs_iff.mpr hread with
  | @linked before token after label cut link labelled =>
    subst cut
    simp only [List.mem_append, not_or] at htext
    obtain ⟨⟨hbefore, htoken⟩, hafter⟩ := htext
    refine ⟨htrim hbefore, ?_⟩
    rintro _ ⟨⟩
    refine ⟨by rwa [String.toList_ofList], ?_⟩
    rcases labelled with ⟨-, rfl⟩ | ⟨-, rfl⟩
    · exact hdefault
    · exact htrim hafter
  | address noLink lone =>
    refine ⟨htrim htext, ?_⟩
    rintro _ ⟨⟩
    exact ⟨htrim htext, hdefault⟩
  | titled noLink notLone visible =>
    refine ⟨htrim htext, ?_⟩
    rintro _ ⟨⟩

/-- What a caption ends in does not run into what follows. -/
theorem endsInName_markup (caption : Caption) : endsInName caption.markup.toList = false := by
  have hclose : endsInName "</figcaption>".toList = false := by decide
  unfold markup
  rw [toList_append_five, endsInName_append _ (by decide), hclose]

end Caption

/-! ### Captions of parameters -/

namespace Params

theorem mem_of_mem_captionText {raw : List Char} {c : Char} (hc : c ∈ captionText raw) :
    c ∈ raw := by
  cases hcut : LangTag.cut? raw with
  | none =>
    rwa [captionText_of_not_hasTag (LangTag.cut?_eq_none_iff.mp hcut)] at hc
  | some cut =>
    obtain ⟨keyword, -, hsplit⟩ := LangTag.cut?_eq_some_iff.mp hcut
    rw [captionText_of_cut hcut] at hc
    rw [hsplit]
    rcases List.mem_append.mp hc with hbefore | hrest
    · exact List.mem_append_left _ (List.mem_append_left _ (mem_of_mem_dropEndWhile hbefore))
    · exact List.mem_append_right _ ((List.dropWhile_sublist isInk).subset hrest)

/-- **The caption of parameters without `<`.**  Whatever it says, it is balanced, it has no
    tag of a figure and it stands apart from what follows. -/
theorem exists_tags?_caption {raw : String} (hraw : '<' ∉ raw.toList) :
    ∃ tags, tags? ((parse raw).caption.getD "").toList = some tags ∧
      Balanced tags ∧ Free "figure".toList tags ∧
      endsInName ((parse raw).caption.getD "").toList = false := by
  rw [caption_parse]
  cases hread : Caption.ofText? (captionText raw.toList) with
  | none => exact ⟨[], rfl, balanced_nil, free_nil _, rfl⟩
  | some caption =>
    have hplain := Caption.isPlainText_of_ofText? (fun hmem => hraw (mem_of_mem_captionText hmem)) hread
    exact ⟨caption.tags, Caption.tags?_markup hplain, caption.balanced_tags, caption.free_tags,
      caption.endsInName_markup⟩

end Params

/-! ### The table -/

namespace Table

/-- The tags of a row of spans, one for each element of a list. -/
def spans {α : Type} (as : List α) : List Tag := as.flatMap fun _ => element "span" []

def frameTags (numbers code : List Tag) : List Tag :=
  element "div" (element "table" (element "tr"
    (element "td" (element "pre" numbers) ++ element "td" (element "pre" (element "code" code)))))

theorem balanced_spans {α : Type} (as : List α) : Balanced (spans as) := by
  apply Balanced.flatMap
  intro a
  exact balanced_nil.element "span"

theorem balanced_frameTags {numbers code : List Tag} (hnumbers : Balanced numbers)
    (hcode : Balanced code) : Balanced (frameTags numbers code) := by
  have hgutter := (hnumbers.element "pre").element "td"
  have hlines := ((hcode.element "code").element "pre").element "td"
  exact (((hgutter.append hlines).element "tr").element "table").element "div"

theorem free_spans {α : Type} {name : List Char} (hname : name.isPrefixOf "span".toList = false)
    (as : List α) : Free name (spans as) := by
  apply Free.flatMap
  intro a
  exact (free_nil _).element _ hname

theorem free_frameTags {numbers code : List Tag} (hnumbers : Free "figure".toList numbers)
    (hcode : Free "figure".toList code) : Free "figure".toList (frameTags numbers code) := by
  have hgutter := (hnumbers.element "pre" (by decide)).element "td" (by decide)
  have hlines := ((hcode.element "code" (by decide)).element "pre" (by decide)).element "td"
    (by decide)
  exact (((hgutter.append hlines).element "tr" (by decide)).element "table" (by decide)).element
    "div" (by decide)

theorem lt_not_mem_escapeLt (c : Char) : '<' ∉ escapeLt c := by
  unfold escapeLt
  split
  · decide
  · next hne => simp [Ne.symm hne]

theorem lt_not_mem_shownCode (body : List Char) : '<' ∉ shownCode body := by
  intro hmem
  obtain ⟨c, -, hc⟩ := List.mem_flatMap.mp hmem
  exact lt_not_mem_escapeLt c hc

theorem lt_not_mem_of_mem_lines {body line : List Char} (hline : line ∈ lines (shownCode body)) :
    '<' ∉ line := by
  intro hmem
  apply lt_not_mem_shownCode body
  rw [← flatten_lines (shownCode body)]
  exact List.mem_flatten.mpr ⟨line, hline, hmem⟩

theorem tags?_lineSpan {line : List Char} (hline : '<' ∉ line) :
    tags? (lineSpan line) = some (element "span" []) := by
  have hopen : tags? "<span class='line'>".toList = some [.opening "span".toList] := by decide
  have hclose : tags? "</span>".toList = some [.closing "span".toList] := by decide
  exact tags?_between hopen (by decide) (tags?_of_not_mem hline) hclose (by decide)

theorem tags?_numberSpan (number : Nat) :
    tags? (numberSpan number) = some (element "span" []) := by
  have hopen : tags? "<span class='line-number'>".toList = some [.opening "span".toList] := by decide
  have hclose : tags? "</span>\n".toList = some [.closing "span".toList] := by decide
  have hdigits : '<' ∉ decimal number := not_mem_decimal (by decide) number
  exact tags?_between hopen (by decide) (tags?_of_not_mem hdigits) hclose (by decide)

theorem tags?_frame {numbers code : List Char} {numberTags codeTags : List Tag}
    (hnumbers : tags? numbers = some numberTags) (hcode : tags? code = some codeTags) :
    tags? (frame numbers code) = some (frameTags numberTags codeTags) := by
  have hopen : tags?
      "<div class='highlight'><table><tr><td class='gutter'><pre class='line-numbers'>".toList =
      some [.opening "div".toList, .opening "table".toList, .opening "tr".toList,
        .opening "td".toList, .opening "pre".toList] := by decide
  have hmiddle : tags? "</pre></td><td class='code'><pre><code>".toList =
      some [.closing "pre".toList, .closing "td".toList, .opening "td".toList,
        .opening "pre".toList, .opening "code".toList] := by decide
  have hclose : tags? "</code></pre></td></tr></table></div>".toList =
      some [.closing "code".toList, .closing "pre".toList, .closing "td".toList,
        .closing "tr".toList, .closing "table".toList, .closing "div".toList] := by decide
  have hall := tags?_between_three hopen (by decide) hnumbers hmiddle (by decide)
    (by decide) (by decide) hcode hclose (by decide)
  have htags : frameTags numberTags codeTags =
      [.opening "div".toList, .opening "table".toList, .opening "tr".toList,
          .opening "td".toList, .opening "pre".toList] ++ numberTags ++
        [.closing "pre".toList, .closing "td".toList, .opening "td".toList,
          .opening "pre".toList, .opening "code".toList] ++ codeTags ++
        [.closing "code".toList, .closing "pre".toList, .closing "td".toList,
          .closing "tr".toList, .closing "table".toList, .closing "div".toList] := by
    simp only [frameTags, element, List.cons_append, List.nil_append, List.append_assoc]
  rw [htags]
  exact hall

/-- The tags of the table for `body`: they show how many lines there are, and nothing of
    what is in them. -/
def tags (body : List Char) : List Tag :=
  frameTags (spans (List.range (lines (shownCode body)).length)) (spans (lines (shownCode body)))

theorem balanced_tags (body : List Char) : Balanced (tags body) :=
  balanced_frameTags (balanced_spans _) (balanced_spans _)

theorem free_tags (body : List Char) : Free "figure".toList (tags body) :=
  free_frameTags (free_spans (by decide) _) (free_spans (by decide) _)

theorem tags?_flatMap_lineSpan {rows : List (List Char)} (hrows : ∀ row ∈ rows, '<' ∉ row) :
    tags? (rows.flatMap lineSpan) = some (spans rows) := by
  apply tags?_flatMap
  · intro row hrow
    exact tags?_lineSpan (hrows row hrow)
  · intro row _
    exact endsInName_append _ (by decide)

/-- **The tags of the table.** -/
theorem tags?_markup (body : String) :
    tags? (markup body).toList = some (tags body.toList) := by
  rw [markup, String.toList_ofList]
  apply tags?_frame
  · apply tags?_flatMap
    · intro index _
      exact tags?_numberSpan (index + 1)
    · intro index _
      exact endsInName_append _ (by decide)
  · exact tags?_flatMap_lineSpan fun line => lt_not_mem_of_mem_lines

theorem wellNested_markup (body : String) : WellNested (markup body).toList :=
  wellNested_iff.mpr ⟨_, tags?_markup body, balanced_tags body.toList⟩

end Table

/-! ### Figures -/

namespace Figure

def block (caption : Option String) (code : String) : String :=
  "<figure class='code'>" ++ caption.getD "" ++ code ++ "</figure>"

theorem assemble_eq_wrap (caption : Option String) (code : String) (decorations : Decorations) :
    assemble caption code decorations = decorations.wrap (block caption code) := rfl

/-- Stated for any parts: literal ones are slow to take apart. -/
theorem toList_append_four (a b c d : String) :
    (a ++ b ++ c ++ d).toList = a.toList ++ b.toList ++ c.toList ++ d.toList := by
  simp only [String.toList_append]

theorem toList_block (caption : Option String) (code : String) :
    (block caption code).toList = "<figure class='code'>".toList ++ (caption.getD "").toList ++
      code.toList ++ "</figure>".toList :=
  toList_append_four _ _ _ _

theorem block_ne_nil (caption : Option String) (code : String) :
    (block caption code).toList ≠ [] := by
  rw [toList_block]
  exact List.append_ne_nil_of_right_ne_nil _ (by decide)

theorem startsInName_block (caption : Option String) (code : String) :
    startsInName (block caption code).toList = false := by
  have hopen : "<figure class='code'>".toList = '<' :: "figure class='code'>".toList := by decide
  rw [toList_block, hopen]
  rfl

theorem endsInName_block (caption : Option String) (code : String) :
    endsInName (block caption code).toList = false := by
  have hclose : endsInName "</figure>".toList = false := by decide
  rw [toList_block, endsInName_append _ (by decide), hclose]

/-- **The tags of a figure** are those of the caption and those of the code, inside an
    element of its own. -/
theorem tags?_block {caption : Option String} {code : String} {captionTags codeTags : List Tag}
    (hcaption : tags? (caption.getD "").toList = some captionTags)
    (hend : endsInName (caption.getD "").toList = false)
    (hcode : tags? code.toList = some codeTags) :
    tags? (block caption code).toList = some (element "figure" (captionTags ++ codeTags)) := by
  have hopen : tags? "<figure class='code'>".toList = some [.opening "figure".toList] := by decide
  have hclose : tags? "</figure>".toList = some [.closing "figure".toList] := by decide
  have hinside := tags?_append hcaption hcode (apart_of_ends hend code.toList)
  have hall := tags?_between hopen (by decide) hinside hclose (by decide)
  rw [toList_block, List.append_assoc "<figure class='code'>".toList]
  exact hall

theorem wellNested_block {raw code : String} (hraw : '<' ∉ raw.toList)
    (hcode : WellNested code.toList) :
    WellNested (block (Params.parse raw).caption code).toList := by
  obtain ⟨captionTags, hcaption, hbalanced, -, hend⟩ := Params.exists_tags?_caption hraw
  obtain ⟨codeTags, hcodeTags, hcodeBalanced⟩ := wellNested_iff.mp hcode
  rw [wellNested_iff]
  exact ⟨_, tags?_block hcaption hend hcodeTags, (hbalanced.append hcodeBalanced).element "figure"⟩

/-- No body adds a tag of a figure to the one that it stands in. -/
theorem occurrences_block {raw : String} (hraw : '<' ∉ raw.toList) (body : String) :
    occurrences "<figure".toList (block (Params.parse raw).caption (Table.markup body)).toList = 1 ∧
      occurrences "</figure>".toList
        (block (Params.parse raw).caption (Table.markup body)).toList = 1 := by
  obtain ⟨captionTags, hcaption, -, hfree, hend⟩ := Params.exists_tags?_caption hraw
  have hclosed : "</figure>".toList <:+:
      (block (Params.parse raw).caption (Table.markup body)).toList := by
    rw [toList_block]
    exact (List.suffix_append _ _).isInfix
  exact occurrences_element (by decide) (by decide) (hfree.append (Table.free_tags body.toList))
    (tags?_block hcaption hend (Table.tags?_markup body)) hclosed

end Figure

/-! ### Decorations -/

theorem Decorations.wellNested_wrap {decorations : Decorations}
    (hbefore : ∀ before ∈ decorations.before, WellNested before.toList)
    (hafter : ∀ after ∈ decorations.after, WellNested after.toList) {caption : Option String}
    {code : String} (hblock : WellNested (Figure.block caption code).toList) :
    WellNested (decorations.wrap (Figure.block caption code)).toList := by
  have habsent {decoration : Option String}
      (hpresent : ∀ markup ∈ decoration, WellNested markup.toList) :
      WellNested (decoration.getD "").toList := by
    cases decoration with
    | none => exact ⟨[], rfl, rfl⟩
    | some markup => exact hpresent markup rfl
  rw [wrap, String.toList_append, String.toList_append]
  exact (habsent hbefore).between hblock (habsent hafter) (Figure.block_ne_nil _ _)
    (Figure.startsInName_block _ _) (Figure.endsInName_block _ _)

/-! ### Rendering -/

namespace Renderer

/-- **Figures are well nested.**  When highlighted markup and decorations are, all that is
    rendered is.  A figure with the table needs no such assumption: it is well nested
    without its decorations, and whatever the body is, its tags are the only ones of a
    figure. -/
theorem render_wellNested (renderer : Renderer) {raw : String} (hraw : '<' ∉ raw.toList)
    (body : String) :
    ((∀ code fileType markup, renderer.highlighter code fileType = .ok markup →
          WellNested markup.toList) →
        (∀ before ∈ renderer.decorations.before, WellNested before.toList) →
        (∀ after ∈ renderer.decorations.after, WellNested after.toList) →
      WellNested (renderer.render raw body).html.toList) ∧
    (renderer.ShowsTable body (Params.parse raw) →
      let figure := "<figure class='code'>" ++ (Params.parse raw).caption.getD "" ++
        Table.markup body ++ "</figure>"
      (renderer.render raw body).html =
          renderer.decorations.before.getD "" ++ figure ++ renderer.decorations.after.getD "" ∧
        WellNested figure.toList ∧
        occurrences "<figure".toList figure.toList = 1 ∧
        occurrences "</figure>".toList figure.toList = 1) := by
  constructor
  · intro hhighlighted hbefore hafter
    obtain ⟨code, hcode, hhtml⟩ : ∃ code, WellNested code.toList ∧ (renderer.render raw body).html =
        Figure.assemble (Params.parse raw).caption code renderer.decorations := by
      rcases renderer.html_renderParsed_cases body (Params.parse raw) with
        ⟨-, hhtml⟩ | ⟨-, fileType, code, -, hcall, hhtml⟩
      · exact ⟨Table.markup body, Table.wellNested_markup body, hhtml⟩
      · exact ⟨code, hhighlighted _ _ _ hcall, hhtml⟩
    rw [hhtml, Figure.assemble_eq_wrap]
    exact Decorations.wellNested_wrap hbefore hafter (Figure.wellNested_block hraw hcode)
  · intro hshows figure
    obtain ⟨hopened, hclosed⟩ := Figure.occurrences_block hraw body
    have hnested := Figure.wellNested_block hraw (Table.wellNested_markup body)
    rcases renderer.html_renderParsed_cases body (Params.parse raw) with ⟨-, hhtml⟩ | ⟨hnot, -⟩
    · exact ⟨hhtml, hnested, hopened, hclosed⟩
    · exact absurd hshows hnot

/-- A renderer with a decoration in front, whose highlighter knows one file type. -/
def decorated : Renderer where
  highlighter := fun _ fileType =>
    if fileType = "js" then .ok "<pre class='js'>0</pre>" else .error (.unknownFileType fileType)
  decorations := ⟨some "<hr></hr>", none⟩

theorem occurrences_rule_append (figure : List Char) :
    occurrences "<figure".toList ("<hr></hr>".toList ++ figure) =
        occurrences "<figure".toList figure ∧
      occurrences "</figure>".toList ("<hr></hr>".toList ++ figure) =
        occurrences "</figure>".toList figure := by
  constructor <;> simp [occurrences]

/-- The code may look like the end of the figure, and the title may hold a `>`. -/
theorem render_wellNested_hostile :
    let html := (decorated.render "A > B lang:rs /x" "</figure></pre>\n<figure id='").html
    WellNested html.toList ∧ occurrences "<figure".toList html.toList = 1 ∧
      occurrences "</figure>".toList html.toList = 1 := by
  intro html
  have hraw : '<' ∉ "A > B lang:rs /x".toList := by decide
  have htype : (Params.parse "A > B lang:rs /x").fileType = some "rs" := by decide
  obtain ⟨hnested, hplain⟩ := render_wellNested decorated hraw "</figure></pre>\n<figure id='"
  constructor
  · apply hnested
    · intro code fileType markup hcall
      simp only [decorated] at hcall
      split at hcall
      · cases hcall
        exact ⟨[.opening "pre".toList, .closing "pre".toList], by decide, by decide⟩
      · cases hcall
    · rintro _ ⟨⟩
      exact ⟨[.opening "hr".toList, .closing "hr".toList], by decide, by decide⟩
    · rintro _ ⟨⟩
  · have hshows : decorated.ShowsTable "</figure></pre>\n<figure id='"
        (Params.parse "A > B lang:rs /x") := by
      refine .inr ?_
      intro fileType hfileType
      rw [htype] at hfileType
      cases hfileType
      exact ⟨.unknownFileType "rs", rfl⟩
    obtain ⟨hhtml, -, hopened, hclosed⟩ := hplain hshows
    have hdecorated := congrArg String.toList (hhtml.trans String.append_empty)
    obtain ⟨hopenings, hclosings⟩ := occurrences_rule_append _
    rw [hdecorated, String.toList_append]
    exact ⟨hopenings.trans hopened, hclosings.trans hclosed⟩

end Renderer

end CodeFigure
