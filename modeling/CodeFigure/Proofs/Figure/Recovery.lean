/-
  CodeFigure/Proofs/Figure/Recovery.lean
  ======================================
  **The code can be read back off a figure with the table.**

  Whatever a body holds, the code that its figure shows can be read off the markup
  (`Figure.shownIn?_plain`): the escapes keep the text of a line apart from the tags around
  it, so nothing in a line looks like the start of the element with the code, or like the
  end of a line.  Two figures in the same surroundings are therefore the same exactly when
  they show the same code.

  Escaping loses one thing.  A body that holds the escape itself is shown like one that
  holds the `<`.  Without it the body comes back (`Table.unescapeLt_flatMap_escapeLt`), since
  no escape forms across the end of another (`Table.prefix_flatMap_escapeLt`).
-/
import CodeFigure.Figure.Recovery
import CodeFigure.Proofs.Figure.Nesting
import CodeFigure.Proofs.Figure.PlainRoutes

namespace CodeFigure

open CodeFigure.Text
open CodeFigure.Markup

/-! ### The last place of a text -/

namespace Text

theorem take_length_sub {α : Type} (front behind : List α) :
    (front ++ behind).take ((front ++ behind).length - behind.length) = front := by
  rw [List.length_append, Nat.add_sub_cancel, List.take_left]

theorem behindLast?_eq_none {lead : String} {s : List Char}
    (hlead : ¬ lead.toList <:+: s) : behindLast? lead s = none := by
  induction s with
  | nil => rfl
  | cons c s ih =>
    have hrest : ¬ lead.toList <:+: s := fun h => hlead (h.trans (List.suffix_cons c s).isInfix)
    rw [behindLast?, ih hrest, Option.none_or, Option.eq_none_iff_forall_ne_some]
    intro rest hafter
    rw [after?_eq_some_iff.mp hafter] at hlead
    exact hlead (List.prefix_append _ rest).isInfix

/-- The place is the last one if there is none from its second character on. -/
theorem behindLast?_append {lead : String} {c : Char} {word behind : List Char}
    (hlead : lead.toList = c :: word) (hlast : ¬ lead.toList <:+: word ++ behind)
    (front : List Char) : behindLast? lead (front ++ lead.toList ++ behind) = some behind := by
  induction front with
  | nil =>
    have hafter : after? lead (c :: (word ++ behind)) = some behind := by
      rw [after?_eq_some_iff, hlead, List.cons_append]
    rw [List.nil_append, hlead, List.cons_append, behindLast?, behindLast?_eq_none hlast,
      Option.none_or, hafter]
  | cons d front ih =>
    rw [List.cons_append, List.cons_append, behindLast?, ih, Option.some_or]

end Text

/-! ### The text of markup -/

namespace Markup

theorem textOf_append_of_not_mem {s : List Char} (hs : '<' ∉ s) (rest : List Char) :
    textOf (s ++ rest) = s ++ textOf rest := by
  induction s with
  | nil => rfl
  | cons c s ih =>
    simp only [List.mem_cons, not_or] at hs
    rw [List.cons_append, textOf, textFrom, if_neg Bool.false_ne_true, if_neg (Ne.symm hs.1)]
    exact congrArg (c :: ·) (ih hs.2)

theorem textFrom_inTag_append {inner : List Char} (hinner : '>' ∉ inner) (rest : List Char) :
    textFrom true (inner ++ '>' :: rest) = textOf rest := by
  induction inner with
  | nil => rfl
  | cons c inner ih =>
    simp only [List.mem_cons, not_or] at hinner
    have hc : (c != '>') = true := bne_iff_ne.mpr (Ne.symm hinner.1)
    rw [List.cons_append, textFrom, if_pos rfl, hc]
    exact ih hinner.2

/-- `tag` is one whole tag, and its attributes have no `>`. -/
def IsTag (tag : List Char) : Prop := ∃ inner, '>' ∉ inner ∧ tag = '<' :: (inner ++ ['>'])

/-- A tag has no text. -/
theorem textOf_tag_append {tag : List Char} (htag : IsTag tag) (rest : List Char) :
    textOf (tag ++ rest) = textOf rest := by
  obtain ⟨inner, hinner, rfl⟩ := htag
  rw [List.cons_append, List.append_assoc, List.singleton_append]
  exact textFrom_inTag_append hinner rest

theorem textOf_between_tags {opening closing text : List Char} (hopening : IsTag opening)
    (htext : '<' ∉ text) (hclosing : IsTag closing) (rest : List Char) :
    textOf (opening ++ text ++ closing ++ rest) = text ++ textOf rest := by
  rw [List.append_assoc, List.append_assoc, textOf_tag_append hopening,
    textOf_append_of_not_mem htext, textOf_tag_append hclosing]

/-- Without a tag that opens such an element, the start of one stands nowhere. -/
theorem not_infix_of_countP_opensLike {name s : List Char} {tags : List Tag}
    (hname : ∀ c ∈ name, c.isAlphanum = true) (hne : name ≠ []) (htags : tags? s = some tags)
    (hnone : tags.countP (Tag.opensLike name) = 0) : ¬ '<' :: name <:+: s := by
  intro hinfix
  have hpos := occurrences_pos (List.cons_ne_nil '<' name) hinfix
  rw [occurrences_opening hname hne htags, hnone] at hpos
  exact Nat.lt_irrefl 0 hpos

end Markup

/-! ### Escapes -/

namespace Table

/-- Escaping forms no text that has neither the escaped character nor the `&`. -/
theorem prefix_flatMap_escapeLt {p s : List Char} (hlt : '<' ∉ p) (hamp : '&' ∉ p)
    (hp : p <+: s.flatMap escapeLt) : p <+: s := by
  induction p generalizing s with
  | nil => exact List.nil_prefix
  | cons c p ih =>
    simp only [List.mem_cons, not_or] at hlt hamp
    cases s with
    | nil => exact absurd (List.prefix_nil.mp hp) (List.cons_ne_nil c p)
    | cons d s =>
      rw [List.flatMap_cons, escapeLt] at hp
      split at hp
      · obtain ⟨hc, -⟩ := List.cons_prefix_cons.mp hp
        exact absurd hc.symm hamp.1
      · obtain ⟨rfl, hrest⟩ := List.cons_prefix_cons.mp hp
        exact List.cons_prefix_cons.mpr ⟨rfl, ih hlt.2 hamp.2 hrest⟩

theorem unescapeLt_cons {c : Char} {s : List Char} (hne : ¬ "&lt;".toList <+: c :: s) :
    unescapeLt (c :: s) = c :: unescapeLt s := by
  generalize htext : c :: s = text at hne
  fun_cases unescapeLt text with
  | case1 rest => exact absurd ⟨rest, rfl⟩ hne
  | case2 d rest =>
    obtain ⟨rfl, rfl⟩ := List.cons.inj htext
    rfl
  | case3 => cases htext

/-- **Escapes can be taken back** from a text that had none of its own. -/
theorem unescapeLt_flatMap_escapeLt {s : List Char} (hs : ¬ "&lt;".toList <:+: s) :
    unescapeLt (s.flatMap escapeLt) = s := by
  induction s with
  | nil => rfl
  | cons c s ih =>
    have hrest : ¬ "&lt;".toList <:+: s := fun h => hs (h.trans (List.suffix_cons c s).isInfix)
    rw [List.flatMap_cons, escapeLt]
    split
    · next hlt =>
      rw [hlt]
      exact congrArg ('<' :: ·) (ih hrest)
    · rw [List.singleton_append, unescapeLt_cons, ih hrest]
      intro hescape
      obtain ⟨rfl, hbehind⟩ := List.cons_prefix_cons.mp hescape
      apply hs
      have hlater := prefix_flatMap_escapeLt (by decide) (by decide) hbehind
      exact (List.cons_prefix_cons.mpr ⟨rfl, hlater⟩).isInfix

theorem unescapeLt_shownCode {body : List Char} (hbody : ¬ "&lt;".toList <:+: body) :
    unescapeLt (shownCode body) = trim body := by
  apply unescapeLt_flatMap_escapeLt
  obtain ⟨lead, tail, -, -, hsplit⟩ := exists_blank_append_trim body
  rw [hsplit] at hbody
  exact fun hinside => hbody (hinside.trans ⟨lead, tail, rfl⟩)

/-! ### The column of lines -/

theorem textOf_lineSpan_append {line : List Char} (hline : '<' ∉ line) (rest : List Char) :
    textOf (lineSpan line ++ rest) = line ++ textOf rest := by
  have hopening : IsTag "<span class='line'>".toList :=
    ⟨"span class='line'".toList, by decide, by decide⟩
  have hclosing : IsTag "</span>".toList := ⟨"/span".toList, by decide, by decide⟩
  exact textOf_between_tags hopening hline hclosing rest

/-- The text of the column is that of its lines. -/
theorem textOf_flatMap_lineSpan_append {rows : List (List Char)} (hrows : ∀ row ∈ rows, '<' ∉ row)
    (rest : List Char) : textOf (rows.flatMap lineSpan ++ rest) = rows.flatten ++ textOf rest := by
  induction rows with
  | nil => rfl
  | cons row rows ih =>
    rw [List.flatMap_cons, List.append_assoc, textOf_lineSpan_append (hrows row List.mem_cons_self),
      ih fun other hother => hrows other (List.mem_cons_of_mem row hother), List.flatten_cons,
      List.append_assoc]

/-- No element with code starts in a row of lines or behind it. -/
theorem not_code_infix_flatMap_lineSpan {rows : List (List Char)}
    (hrows : ∀ row ∈ rows, '<' ∉ row) :
    ¬ "<code>".toList <:+: "code>".toList ++
      (rows.flatMap lineSpan ++ "</code></pre></td></tr></table></div></figure>".toList) := by
  have hword : tags? "code>".toList = some [] := by decide
  have hclosers : tags? "</code></pre></td></tr></table></div></figure>".toList =
      some [.closing "code".toList, .closing "pre".toList, .closing "td".toList,
        .closing "tr".toList, .closing "table".toList, .closing "div".toList,
        .closing "figure".toList] := by decide
  have htags := tags?_append (tags?_append hword (tags?_flatMap_lineSpan hrows)
    (apart_of_ends (by decide) _)) hclosers (apart_of_starts _ (by decide))
  rw [List.append_assoc] at htags
  have hfree : Free "code".toList (spans rows) := free_spans (by decide) rows
  have hname : ∀ c ∈ "code".toList, c.isAlphanum = true := List.all_eq_true.mp (by decide)
  have hne : "code".toList ≠ [] := by decide
  have hopening : '<' :: "code".toList <:+: "<code>".toList := by decide
  intro hinfix
  apply not_infix_of_countP_opensLike hname hne htags _ (hopening.trans hinfix)
  rw [List.nil_append, List.countP_append, hfree.countP_opensLike]
  decide

end Table

/-! ### Figures -/

namespace Figure

theorem toList_plain (caption : Option String) (body : String) (decorations : Decorations) :
    (plain caption body decorations).toList =
      (decorations.before.getD "").toList ++
        ("<figure class='code'>".toList ++ (caption.getD "").toList ++ Table.ofBody body.toList ++
          "</figure>".toList) ++
        (decorations.after.getD "").toList := by
  have hmarkup : (Table.markup body).toList = Table.ofBody body.toList := String.toList_ofList
  have hblock := toList_block caption (Table.markup body)
  rw [hmarkup] at hblock
  rw [← hblock, plain, assemble_eq_wrap, Decorations.wrap, String.toList_append,
    String.toList_append]

/-- Stated for any parts: literal ones are slow to take apart. -/
theorem append_regroup {opened numbers middle middle' mark code closers closers' closers'' : List Char}
    (hmiddle : middle = middle' ++ mark) (hclosers : closers = closers' ++ closers'')
    (before after : List Char) :
    before ++ (opened ++ (numbers ++ middle ++ code ++ closers') ++ closers'') ++ after =
      before ++ opened ++ numbers ++ middle' ++ mark ++ (code ++ closers) ++ after := by
  simp only [hmiddle, hclosers, List.append_assoc]

theorem exists_toList_plain (caption : Option String) (body : String) (decorations : Decorations) :
    ∃ front, (plain caption body decorations).toList =
      front ++ "<code>".toList ++
        ((Table.lines (Table.shownCode body.toList)).flatMap Table.lineSpan ++
          "</code></pre></td></tr></table></div></figure>".toList) ++
        (decorations.after.getD "").toList := by
  have hmiddle : "</pre></td><td class='code'><pre><code>".toList =
      "</pre></td><td class='code'><pre>".toList ++ "<code>".toList := by decide
  have hclosers : "</code></pre></td></tr></table></div></figure>".toList =
      "</code></pre></td></tr></table></div>".toList ++ "</figure>".toList := by decide
  exact ⟨_, (toList_plain caption body decorations).trans (append_regroup hmiddle hclosers _ _)⟩

/-- **The code that is shown can be read off.** -/
theorem shownIn?_plain (caption : Option String) (body : String) (decorations : Decorations) :
    shownIn? decorations (plain caption body decorations) = some (Table.shownCode body.toList) := by
  obtain ⟨front, hhtml⟩ := exists_toList_plain caption body decorations
  have hrows : ∀ row ∈ Table.lines (Table.shownCode body.toList), '<' ∉ row :=
    fun row => Table.lt_not_mem_of_mem_lines
  have hclosers : textOf "</code></pre></td></tr></table></div></figure>".toList = [] := by decide
  have hcode : "<code>".toList = '<' :: "code>".toList := by decide
  rw [shownIn?, ← String.length_toList, ← String.length_toList, hhtml, take_length_sub,
    behindLast?_append hcode (Table.not_code_infix_flatMap_lineSpan hrows), Option.map_some,
    Table.textOf_flatMap_lineSpan_append hrows, hclosers, List.append_nil, Table.flatten_lines]

end Figure

/-! ### Rendering -/

namespace Renderer

variable {renderer other : Renderer} {body body' : String} {params : Params}

theorem shownIn?_renderParsed (hshows : renderer.ShowsTable body params) :
    Figure.shownIn? renderer.decorations (renderer.renderParsed body params).html =
      some (Table.shownCode body.toList) := by
  rw [html_of_showsTable _ _ _ hshows, Figure.shownIn?_plain]

theorem html_eq_iff (hdecorations : other.decorations = renderer.decorations)
    (hshows : renderer.ShowsTable body params) (hshows' : other.ShowsTable body' params) :
    (renderer.renderParsed body params).html = (other.renderParsed body' params).html ↔
      Table.shownCode body.toList = Table.shownCode body'.toList := by
  constructor
  · intro hsame
    have hleft := shownIn?_renderParsed hshows
    rw [hsame, ← hdecorations, shownIn?_renderParsed hshows'] at hleft
    exact (Option.some.inj hleft).symm
  · intro hcode
    rw [html_of_showsTable _ _ _ hshows, html_of_showsTable _ _ _ hshows', hdecorations, Figure.plain,
      Figure.plain, Table.markup, Table.markup, Table.ofBody, Table.ofBody, hcode]

/-- **Which bodies look alike.**  Where figures with the same caption and decorations show
    the table, they are the same exactly when the trimmed bodies are with each `<` escaped.
    Among bodies without the text `&lt;` only the trimmed body itself gives the figure, and it
    can be read back off the markup. -/
theorem html_eq_iff_shown (hdecorations : other.decorations = renderer.decorations)
    (hshows : renderer.ShowsTable body params) (hshows' : other.ShowsTable body' params) :
    let html := (renderer.renderParsed body params).html
    let html' := (other.renderParsed body' params).html
    (html = html' ↔
      (trim body.toList).flatMap Table.escapeLt = (trim body'.toList).flatMap Table.escapeLt) ∧
    (¬ "&lt;".toList <:+: body.toList → ¬ "&lt;".toList <:+: body'.toList →
      (html = html' ↔ trim body.toList = trim body'.toList)) ∧
    (¬ "&lt;".toList <:+: body.toList →
      Figure.codeIn? renderer.decorations html = some (trim body.toList)) := by
  intro html html'
  have halike := html_eq_iff hdecorations hshows hshows'
  refine ⟨halike, ?_, ?_⟩
  · intro hplain hplain'
    refine halike.trans ⟨?_, ?_⟩
    · intro hcode
      rw [← Table.unescapeLt_shownCode hplain, hcode, Table.unescapeLt_shownCode hplain']
    · intro hbody
      rw [Table.shownCode, hbody, Table.shownCode]
  · intro hplain
    rw [Figure.codeIn?, shownIn?_renderParsed hshows, Option.map_some,
      Table.unescapeLt_shownCode hplain]

/-- Only the escape itself is taken for a `<`.  Text that looks like the end of the table is
    read back as it was. -/
theorem html_eq_iff_shown_escape :
    let renderer : Renderer :=
      { highlighter := fun _ fileType => .error (.unknownFileType fileType)
        decorations := ⟨none, some "</code></pre><code>"⟩ }
    let params : Params := ⟨some "rb", some "<code>", none, "lang:rb <code>"⟩
    (renderer.renderParsed "a<b" params).html = (renderer.renderParsed " a&lt;b\n" params).html ∧
      (renderer.renderParsed "a<b" params).html ≠ (renderer.renderParsed "a&<t;b" params).html ∧
      Figure.codeIn? renderer.decorations
          (renderer.renderParsed "</span>\n</code><code>&<t;\n" params).html =
        some "</span>\n</code><code>&<t;".toList := by
  intro renderer params
  have hshows (body : String) : renderer.ShowsTable body params := by
    refine .inr ?_
    rintro _ ⟨⟩
    exact ⟨.unknownFileType "rb", rfl⟩
  obtain ⟨halike, -⟩ := html_eq_iff_shown rfl (hshows "a<b") (hshows " a&lt;b\n")
  obtain ⟨-, hplain, -⟩ := html_eq_iff_shown rfl (hshows "a<b") (hshows "a&<t;b")
  obtain ⟨-, -, hread⟩ := html_eq_iff_shown rfl (hshows "</span>\n</code><code>&<t;\n") (hshows "")
  refine ⟨halike.mpr (by decide), ?_, ?_⟩
  · intro hsame
    exact absurd ((hplain (by decide +kernel) (by decide +kernel)).mp hsame) (by decide)
  · exact (hread (by decide +kernel)).trans (by decide +kernel)

end Renderer

end CodeFigure
