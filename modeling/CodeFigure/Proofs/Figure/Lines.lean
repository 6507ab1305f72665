/-
  CodeFigure/Proofs/Figure/Lines.lean
  ===================================
  **The table shows all of the code, cut into numbered lines.**

  A text falls into lines behind its line feeds (`FallsInto`, one constructor for each way
  that a text can go on).  `Table.lines` walks over characters and cuts in the same places
  (`fallsInto_iff`), so whatever holds of such lines is an induction over where the text
  falls apart.  It falls apart in one way only, and lines with a line feed at the end of
  each but the last can come from no other text (`fallsInto_flatten`).

  The code of a table is trimmed before it is cut.  Its last character is therefore no line
  feed, and that is why no number stands beside nothing: there is one line more than line
  feeds, and only the last line has none (`FallsInto.length_eq`).  A blank body has no
  lines at all.
-/
import CodeFigure.Proofs.Figure.Nesting

namespace CodeFigure

open CodeFigure.Text

namespace Table

/-! ### Lines -/

/-- `text` consists of `rows`, each but the last ending with the only line feed in it. -/
inductive FallsInto : List Char → List (List Char) → Prop
  | nil : FallsInto [] []
  | last {row : List Char} (hne : row ≠ []) (hfree : '\n' ∉ row) : FallsInto row [row]
  | cons {row rest : List Char} {rows : List (List Char)} (hfree : '\n' ∉ row)
      (hrest : FallsInto rest rows) :
      FallsInto (row ++ '\n' :: rest) ((row ++ ['\n']) :: rows)

theorem FallsInto.prependToFirst {c : Char} {text : List Char} {rows : List (List Char)}
    (hfalls : FallsInto text rows) (hc : c ≠ '\n') :
    FallsInto (c :: text) (prependToFirst c rows) := by
  have hcons {row : List Char} (hfree : '\n' ∉ row) : '\n' ∉ c :: row := by
    simp [hc.symm, hfree]
  cases hfalls with
  | nil => exact .last (List.cons_ne_nil c []) (hcons List.not_mem_nil)
  | @last row hne hfree => exact .last (List.cons_ne_nil c _) (hcons hfree)
  | @cons row rest rows hfree hrest =>
    have hlonger : FallsInto ((c :: row) ++ '\n' :: rest) (((c :: row) ++ ['\n']) :: rows) :=
      .cons (hcons hfree) hrest
    exact hlonger

theorem fallsInto_lines (text : List Char) : FallsInto text (lines text) := by
  induction text with
  | nil => exact .nil
  | cons c rest ih =>
    rw [lines]
    split
    · next hc =>
      have hempty : FallsInto ([] ++ '\n' :: rest) (([] ++ ['\n']) :: lines rest) :=
        .cons List.not_mem_nil ih
      rw [hc]
      exact hempty
    · next hc => exact ih.prependToFirst hc

theorem lines_append_newline {row : List Char} (hfree : '\n' ∉ row) (rest : List Char) :
    lines (row ++ '\n' :: rest) = (row ++ ['\n']) :: lines rest := by
  induction row with
  | nil => rw [List.nil_append, lines, if_pos rfl, List.nil_append]
  | cons c row ih =>
    have hc := List.ne_of_not_mem_cons hfree
    have hrow := List.not_mem_of_not_mem_cons hfree
    rw [List.cons_append, lines, if_neg hc.symm, ih hrow, Table.prependToFirst, List.cons_append]

theorem lines_of_free {row : List Char} (hne : row ≠ []) (hfree : '\n' ∉ row) :
    lines row = [row] := by
  induction row with
  | nil => exact absurd rfl hne
  | cons c row ih =>
    have hc := List.ne_of_not_mem_cons hfree
    have hrow := List.not_mem_of_not_mem_cons hfree
    rw [lines, if_neg hc.symm]
    cases row with
    | nil => rfl
    | cons d row => rw [ih (List.cons_ne_nil d row) hrow, Table.prependToFirst]

section

variable {text : List Char} {rows : List (List Char)}

/-- **A text falls into lines in one way.** -/
theorem fallsInto_iff : FallsInto text rows ↔ rows = lines text := by
  constructor
  · intro hfalls
    induction hfalls with
    | nil => rfl
    | last hne hfree => exact (lines_of_free hne hfree).symm
    | @cons row rest rows hfree hrest ih => rw [lines_append_newline hfree, ih]
  · rintro rfl
    exact fallsInto_lines text

theorem fallsInto_of_unbroken {row : List Char} (hne : row ≠ []) (hfree : '\n' ∉ row.dropLast) :
    FallsInto row [row] := by
  rcases List.eq_nil_or_concat row with hnil | ⟨front, c, hlast⟩
  · exact absurd hnil hne
  · rw [List.concat_eq_append] at hlast
    rw [hlast, List.dropLast_concat] at hfree
    by_cases hc : c = '\n'
    · rw [hlast, hc]
      exact .cons hfree .nil
    · refine .last hne ?_
      rw [hlast, List.mem_append, List.mem_singleton]
      rintro (hmem | hend)
      · exact hfree hmem
      · exact hc hend.symm

/-- Rows with a line feed at the end of each but the last are the lines of a text. -/
theorem fallsInto_flatten (hne : ∀ row ∈ rows, row ≠ []) (hfree : ∀ row ∈ rows, '\n' ∉ row.dropLast)
    (hended : ∀ row ∈ rows.dropLast, row.getLast? = some '\n') : FallsInto rows.flatten rows := by
  induction rows with
  | nil => exact .nil
  | cons row rows ih =>
    have hrow := hfree row List.mem_cons_self
    cases rows with
    | nil =>
      rw [List.flatten_singleton]
      exact fallsInto_of_unbroken (hne row List.mem_cons_self) hrow
    | cons next rows =>
      rw [List.dropLast_cons_cons] at hended
      obtain ⟨front, hfront⟩ := List.getLast?_eq_some_iff.mp (hended row List.mem_cons_self)
      have hrest := ih (fun other h => hne other (List.mem_cons_of_mem row h))
        (fun other h => hfree other (List.mem_cons_of_mem row h))
        (fun other h => hended other (List.mem_cons_of_mem row h))
      rw [hfront, List.dropLast_concat] at hrow
      rw [hfront, List.flatten_cons, List.append_assoc]
      exact .cons hrow hrest

theorem FallsInto.eq_nil_iff (hfalls : FallsInto text rows) : rows = [] ↔ text = [] := by
  cases hfalls with
  | nil => simp
  | last hne hfree => simp [hne]
  | cons hfree hrest => simp

/-- A line has something in it, and a line feed at its end only. -/
theorem FallsInto.row_of_mem (hfalls : FallsInto text rows) :
    ∀ row ∈ rows, row ≠ [] ∧ '\n' ∉ row.dropLast := by
  induction hfalls with
  | nil => simp
  | @last row hne hfree =>
    intro other hother
    rw [List.mem_singleton.mp hother]
    exact ⟨hne, fun hmem => hfree ((List.dropLast_sublist row).subset hmem)⟩
  | @cons row rest rows hfree hrest ih =>
    intro other hother
    rcases List.mem_cons.mp hother with rfl | hlater
    · exact ⟨by simp, by rwa [List.dropLast_concat]⟩
    · exact ih other hlater

theorem FallsInto.getLast?_of_mem_dropLast (hfalls : FallsInto text rows) :
    ∀ row ∈ rows.dropLast, row.getLast? = some '\n' := by
  induction hfalls with
  | nil => simp
  | last hne hfree => simp
  | @cons row rest rows hfree hrest ih =>
    intro other hother
    cases rows with
    | nil => cases hother
    | cons next rows =>
      rw [List.dropLast_cons_cons] at hother
      rcases List.mem_cons.mp hother with rfl | hlater
      · exact List.getLast?_concat
      · exact ih other hlater

/-- The last line ends as the text does. -/
theorem FallsInto.getLast?_of_mem_getLast? (hfalls : FallsInto text rows) :
    ∀ row ∈ rows.getLast?, row.getLast? = text.getLast? := by
  induction hfalls with
  | nil => simp
  | last hne hfree => simp
  | @cons row rest rows hfree hrest ih =>
    intro other hother
    rw [List.getLast?_cons] at hother
    cases hlast : rows.getLast? with
    | none =>
      have hrows := List.getLast?_eq_none_iff.mp hlast
      rw [hrest.eq_nil_iff.mp hrows]
      rw [hlast] at hother
      cases hother
      rfl
    | some final =>
      have hrest' : rest ≠ [] := by
        intro hnil
        rw [hrest.eq_nil_iff.mpr hnil] at hlast
        cases hlast
      obtain rfl : final = other := by simpa [hlast] using hother
      rw [ih final hlast, List.getLast?_append, List.getLast?_cons,
        List.getLast?_eq_some_getLast hrest']
      rfl

/-- **One line more than line feeds**, if the text does not end with one. -/
theorem FallsInto.length_eq (hfalls : FallsInto text rows) (hne : text ≠ [])
    (hend : text.getLast? ≠ some '\n') : rows.length = 1 + text.count '\n' := by
  induction hfalls with
  | nil => exact absurd rfl hne
  | last hne' hfree => simp [List.count_eq_zero.mpr hfree]
  | @cons row rest rows hfree hrest ih =>
    have hrest' : rest ≠ [] := by
      rintro rfl
      simp at hend
    have hend' : rest.getLast? ≠ some '\n' := by
      rw [List.getLast?_append, List.getLast?_cons, List.getLast?_eq_some_getLast hrest'] at hend
      rwa [List.getLast?_eq_some_getLast hrest']
    rw [List.length_cons, ih hrest' hend', List.count_append, List.count_cons_self,
      List.count_eq_zero.mpr hfree]
    omega

end

/-! ### The code shown -/

theorem escapeLt_ne_nil (c : Char) : escapeLt c ≠ [] := by
  unfold escapeLt
  split
  · decide
  · simp

theorem shownCode_eq_nil_iff {body : List Char} : shownCode body = [] ↔ IsBlankText body := by
  rw [shownCode, List.flatMap_eq_nil_iff, ← trim_eq_nil_iff, List.eq_nil_iff_forall_not_mem]
  constructor
  · intro hnone c hc
    exact escapeLt_ne_nil c (hnone c hc)
  · intro hnone c hc
    exact absurd hc (hnone c)

theorem newline_not_mem_escapeLt {c : Char} (hc : c ≠ '\n') : '\n' ∉ escapeLt c := by
  unfold escapeLt
  split
  · decide
  · simp [hc.symm]

/-- Trimming takes the line feeds at the end away, and escaping adds none. -/
theorem getLast?_shownCode_ne (body : List Char) : (shownCode body).getLast? ≠ some '\n' := by
  rcases List.eq_nil_or_concat (trim body) with hnil | ⟨front, c, hlast⟩
  · simp [shownCode, hnil]
  · rw [List.concat_eq_append] at hlast
    have hink : isBlank c = false := by
      apply isBlank_getLast?_trimEnd (trimStart body)
      change c ∈ (trim body).getLast?
      rw [hlast]
      exact List.getLast?_concat
    have hc : c ≠ '\n' := by
      rintro rfl
      cases hink
    intro hend
    rw [shownCode, hlast, List.flatMap_append, List.flatMap_singleton, List.getLast?_append,
      List.getLast?_eq_some_getLast (escapeLt_ne_nil c), Option.some_or] at hend
    apply newline_not_mem_escapeLt hc
    rw [← Option.some.inj hend]
    exact List.getLast_mem _

/-- `shown` is `body` without the blanks at its ends. -/
structure IsTrimmed (body shown : List Char) : Prop where
  split : ∃ lead tail, IsBlankText lead ∧ IsBlankText tail ∧ body = lead ++ shown ++ tail
  front : ∀ c ∈ shown.head?, isBlank c = false
  back : ∀ c ∈ shown.getLast?, isBlank c = false

theorem isTrimmed_iff {body shown : List Char} : IsTrimmed body shown ↔ shown = trim body := by
  constructor
  · rintro ⟨⟨lead, tail, hlead, htail, rfl⟩, hfront, hback⟩
    have hstart : trimStart shown = shown := by
      cases shown with
      | nil => rfl
      | cons c rest => exact trimStart_cons_of_ink (hfront c rfl) rest
    rw [trim_append_append hlead shown htail, trim, hstart, trimEnd_of_getLast? hback]
  · rintro rfl
    refine ⟨exists_blank_append_trim body, ?_, isBlank_getLast?_trimEnd _⟩
    intro c hc
    obtain ⟨rest, hrest⟩ := List.head?_eq_some_iff.mp hc
    obtain ⟨tail, -, hstart⟩ := exists_trimEnd_append_blank (trimStart body)
    rw [← trim, hrest, List.cons_append] at hstart
    exact head_dropWhile_eq_false hstart

/-! ### The table -/

/-- `rows` are all of the code shown for `body`, line by line. -/
structure Shows (body : List Char) (rows : List (List Char)) : Prop where
  /-- The lines are the trimmed body with each `<` escaped. -/
  code : ∃ shown, IsTrimmed body shown ∧
    rows.flatten = shown.flatMap fun c => if c = '<' then "&lt;".toList else [c]
  nonempty : ∀ row ∈ rows, row ≠ []
  safe : ∀ row ∈ rows, '<' ∉ row
  /-- A line feed ends a line. -/
  unbroken : ∀ row ∈ rows, '\n' ∉ row.dropLast
  ended : ∀ row ∈ rows.dropLast, row.getLast? = some '\n'
  /-- The last line is not ended by a line feed. -/
  finished : ∀ row ∈ rows.getLast?, row.getLast? ≠ some '\n'
  blank : rows.length = 0 ↔ IsBlankText body
  count : ¬ IsBlankText body → rows.length = 1 + rows.flatten.count '\n'

theorem shows_lines (body : List Char) : Shows body (lines (shownCode body)) := by
  have hfalls := fallsInto_lines (shownCode body)
  have hend := getLast?_shownCode_ne body
  exact {
    code := ⟨_, isTrimmed_iff.mpr rfl, flatten_lines _⟩
    nonempty := fun row hrow => (hfalls.row_of_mem row hrow).1
    safe := fun row hrow => lt_not_mem_of_mem_lines hrow
    unbroken := fun row hrow => (hfalls.row_of_mem row hrow).2
    ended := hfalls.getLast?_of_mem_dropLast
    finished := by
      intro row hrow
      rwa [hfalls.getLast?_of_mem_getLast? row hrow]
    blank := by rw [List.length_eq_zero_iff, hfalls.eq_nil_iff, shownCode_eq_nil_iff]
    count := by
      intro hvisible
      rw [flatten_lines]
      exact hfalls.length_eq (mt shownCode_eq_nil_iff.mp hvisible) hend }

/-- **One list of rows shows the code.** -/
theorem shows_iff {body : List Char} {rows : List (List Char)} :
    Shows body rows ↔ rows = lines (shownCode body) := by
  constructor
  · intro hshows
    obtain ⟨shown, htrimmed, hcode⟩ := hshows.code
    have hfalls := fallsInto_flatten hshows.nonempty hshows.unbroken hshows.ended
    rw [hcode, isTrimmed_iff.mp htrimmed] at hfalls
    exact fallsInto_iff.mp hfalls
  · rintro rfl
    exact shows_lines body

/-- A column of spans, as text. -/
theorem toList_join_spans {α : Type} (opening closing : String) (shown : α → String)
    (items : List α) :
    (String.join (items.map fun item => opening ++ shown item ++ closing)).toList =
      items.flatMap fun item => opening.toList ++ (shown item).toList ++ closing.toList := by
  simp only [String.toList_join, List.flatMap_map, String.toList_append]

theorem gutter_eq (count : Nat) :
    gutter count = (String.join ((List.range' 1 count).map fun number =>
      "<span class='line-number'>" ++ toString number ++ "</span>\n")).toList := by
  have hdecimal (number : Nat) : (toString number).toList = decimal number := Nat.toList_repr
  rw [toList_join_spans, gutter, List.range'_eq_map_range, List.flatMap_map]
  simp only [hdecimal, Nat.add_comm 1]
  rfl

theorem flatMap_lineSpan (rows : List (List Char)) :
    rows.flatMap lineSpan = (String.join (rows.map fun row =>
      "<span class='line'>" ++ String.ofList row ++ "</span>")).toList := by
  rw [toList_join_spans]
  simp only [String.toList_ofList]
  rfl

/-- The table, as text. -/
theorem markup_eq (body : String) :
    markup body =
      "<div class='highlight'><table><tr><td class='gutter'><pre class='line-numbers'>" ++
        String.join ((List.range' 1 (lines (shownCode body.toList)).length).map fun number =>
          "<span class='line-number'>" ++ toString number ++ "</span>\n") ++
        "</pre></td><td class='code'><pre><code>" ++
        String.join ((lines (shownCode body.toList)).map fun row =>
          "<span class='line'>" ++ String.ofList row ++ "</span>") ++
        "</code></pre></td></tr></table></div>" := by
  apply String.toList_inj.mp
  rw [toList_append_five, ← gutter_eq, ← flatMap_lineSpan, markup, String.toList_ofList]
  rfl

end Table

namespace Renderer

/-- **The table shows the code line by line.**  Where a figure shows the table, the lines of
    the trimmed and escaped body stand in one column, each in a span of its own, and beside
    them the numbers from 1 on, one for each.  The lines are all of the code, each has
    something in it, and all but the last end with the one line feed in them. -/
theorem renderParsed_shows_lines {renderer : Renderer} {body : String} {params : Params}
    (hshows : renderer.ShowsTable body params) :
    ∃ rows : List (List Char), (∀ others, Table.Shows body.toList others ↔ others = rows) ∧
      (renderer.renderParsed body params).html =
        renderer.decorations.before.getD "" ++
          ("<figure class='code'>" ++ params.caption.getD "" ++
            ("<div class='highlight'><table><tr><td class='gutter'><pre class='line-numbers'>" ++
              String.join ((List.range' 1 rows.length).map fun number =>
                "<span class='line-number'>" ++ toString number ++ "</span>\n") ++
              "</pre></td><td class='code'><pre><code>" ++
              String.join (rows.map fun row =>
                "<span class='line'>" ++ String.ofList row ++ "</span>") ++
              "</code></pre></td></tr></table></div>") ++
            "</figure>") ++
          renderer.decorations.after.getD "" := by
  refine ⟨Table.lines (Table.shownCode body.toList), fun _ => Table.shows_iff, ?_⟩
  rcases renderer.html_renderParsed_cases body params with ⟨-, hhtml⟩ | ⟨hnot, -⟩
  · rw [hhtml, Figure.plain, Table.markup_eq]
    rfl
  · exact absurd hshows hnot

/-- A carriage return belongs to its line, and a line may hold nothing but its end. -/
theorem renderParsed_shows_lines_carriageReturn :
    let renderer : Renderer :=
      { highlighter := fun _ fileType => .error (.unknownFileType fileType)
        decorations := ⟨some "<hr>", none⟩ }
    renderer.ShowsTable " \r\na<b\r\n\n\tc<\n " ⟨some "rb", none, none, "lang:rb"⟩ ∧
      (renderer.renderParsed " \r\na<b\r\n\n\tc<\n " ⟨some "rb", none, none, "lang:rb"⟩).html =
        "<hr><figure class='code'><div class='highlight'><table><tr>" ++
          "<td class='gutter'><pre class='line-numbers'><span class='line-number'>1</span>\n" ++
          "<span class='line-number'>2</span>\n<span class='line-number'>3</span>\n</pre></td>" ++
          "<td class='code'><pre><code><span class='line'>a&lt;b\r\n</span>" ++
          "<span class='line'>\n</span><span class='line'>\tc&lt;</span></code></pre></td>" ++
          "</tr></table></div></figure>" := by
  intro renderer
  have hshows : renderer.ShowsTable " \r\na<b\r\n\n\tc<\n " ⟨some "rb", none, none, "lang:rb"⟩ := by
    refine .inr ?_
    rintro _ ⟨⟩
    exact ⟨.unknownFileType "rb", rfl⟩
  obtain ⟨rows, hunique, hhtml⟩ := renderParsed_shows_lines hshows
  have hrows := (hunique _).mp (Table.shows_lines _)
  rw [← hrows] at hhtml
  refine ⟨hshows, hhtml.trans ?_⟩
  decide +kernel

end Renderer

end CodeFigure
