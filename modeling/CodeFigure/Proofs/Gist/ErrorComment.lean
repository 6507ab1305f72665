/-
  CodeFigure/Proofs/Gist/ErrorComment.lean
  ========================================
  **What a page makes of the comment that stands for a failed gist.**

  The lines of the comment hold foreign text.  `disarm` rewrites one of the two
  marks that end a comment and leaves the other alone:

    * no `-->` is left, and none is made by the rewriting
      (`not_arrow_infix_disarm`);
    * `--!>` occurs behind the rewriting exactly where it occurred before
      (`bangArrow_infix_disarm_iff`).

  So the comment is what it is meant to be, one comment up to its last mark,
  exactly when no line of the error holds `--!>`.  A host can put that mark into a
  response, and then the rest of the response is part of the page.
-/
import CodeFigure.Gist.Tag
import CodeFigure.Proofs.Gist.Course
import CodeFigure.Proofs.Markup.CommentEnd

namespace CodeFigure.Comment

open CodeFigure.Text
open CodeFigure.Markup

/-! ### Disarming -/

/-- Disarming changes a text no earlier than at the end of an arrow, and there it
    puts an entity: texts with neither in them start both or none. -/
theorem prefix_disarm_iff {p s : List Char} (hentity : '&' ∉ p) (harrow : ¬ "-->".toList <:+: p) :
    p <+: disarm s ↔ p <+: s := by
  fun_induction disarm s generalizing p with
  | case1 rest ih =>
    match p with
    | [] => simp
    | [_] => simp
    | [_, _] => simp
    | a :: b :: c :: p =>
      constructor
      · intro hstart
        have hc : c = '&' := by
          simp at hstart
          exact hstart.2.2.1
        exact absurd (by simp [hc]) hentity
      · intro hstart
        obtain ⟨rfl, rfl, rfl, -⟩ : a = '-' ∧ b = '-' ∧ c = '>' ∧ p <+: rest := by
          simpa using hstart
        exact absurd ⟨[], p, rfl⟩ harrow
  | case2 c rest hne ih =>
    cases p with
    | nil => simp
    | cons a p =>
      have hp : '&' ∉ p := fun h => hentity (List.mem_cons_of_mem a h)
      have hp' : ¬ "-->".toList <:+: p := fun h => harrow (h.trans (List.suffix_cons a p).isInfix)
      rw [List.cons_prefix_cons, List.cons_prefix_cons, ih hp hp']
  | case3 => rfl

theorem not_arrow_infix_disarm (s : List Char) : ¬ "-->".toList <:+: disarm s := by
  fun_induction disarm s with
  | case1 rest ih => simpa [List.infix_cons_iff] using ih
  | case2 c rest hne ih =>
    rw [List.infix_cons_iff]
    rintro (hstart | hlater)
    · -- the arrow would have been there before
      have htail : ['-', '>'] <+: disarm rest ↔ ['-', '>'] <+: rest :=
        prefix_disarm_iff (by decide) (by decide)
      obtain ⟨hdash, hrest⟩ := List.cons_prefix_cons.mp hstart
      obtain ⟨behind, hbehind⟩ := htail.mp hrest
      exact hne behind hdash.symm hbehind.symm
    · exact ih hlater
  | case3 => decide

theorem bangArrow_infix_disarm_iff (s : List Char) :
    "--!>".toList <:+: disarm s ↔ "--!>".toList <:+: s := by
  fun_induction disarm s with
  | case1 rest ih => simpa [List.infix_cons_iff] using ih
  | case2 c rest hne ih =>
    have htail : ['-', '!', '>'] <+: disarm rest ↔ ['-', '!', '>'] <+: rest :=
      prefix_disarm_iff (by decide) (by decide)
    have hstart : "--!>".toList <+: c :: disarm rest ↔ "--!>".toList <+: c :: rest :=
      List.cons_prefix_cons.trans ((and_congr_right fun _ => htail).trans
        List.cons_prefix_cons.symm)
    rw [List.infix_cons_iff, List.infix_cons_iff, hstart, ih]
  | case3 => rfl

/-- A character in front of a part makes no arrow unless it starts one in the text that
    the part comes from. -/
theorem not_arrow_infix_cons {c : Char} {part text : List Char} (hpart : ¬ "-->".toList <:+: part)
    (htext : part <+: text) (hne : ∀ later, c = '-' → text = '-' :: '>' :: later → False) :
    ¬ "-->".toList <:+: c :: part := by
  rw [List.infix_cons_iff]
  rintro (hstart | hlater)
  · obtain ⟨hdash, hrest⟩ := List.cons_prefix_cons.mp hstart
    obtain ⟨later, hlater⟩ := hrest.trans htext
    exact hne later hdash.symm hlater.symm
  · exact hpart hlater

/-- **Disarming rewrites every arrow, and nothing else.** -/
theorem disarmed_disarm (s : List Char) : Disarmed s (disarm s) := by
  fun_induction disarm s with
  | case1 rest ih =>
    have hnone : ¬ "-->".toList <:+: [] := by decide
    exact .arrow hnone ih
  | case2 c rest hne ih =>
    -- the character goes in front of the first part
    generalize disarm rest = written at ih
    cases ih with
    | plain hpart => exact .plain (not_arrow_infix_cons hpart List.prefix_rfl hne)
    | @arrow part s written hpart hrest =>
      have hfirst : part <+: part ++ "-->".toList ++ s := by
        rw [List.append_assoc]
        exact List.prefix_append part _
      exact .arrow (not_arrow_infix_cons hpart hfirst hne) hrest
  | case3 => exact .plain (by decide)

theorem disarm_cons {c : Char} {rest : List Char}
    (hne : ∀ later, c = '-' → rest = '-' :: '>' :: later → False) :
    disarm (c :: rest) = c :: disarm rest := by
  generalize hs : c :: rest = s
  fun_cases disarm s with
  | case1 later =>
    obtain ⟨rfl, rfl⟩ := List.cons.inj hs
    exact (hne later rfl rfl).elim
  | case2 d rest' =>
    obtain ⟨rfl, rfl⟩ := List.cons.inj hs
    rfl
  | case3 => cases hs

/-- A line feed is part of no arrow. -/
theorem disarm_append_lineFeed (s t : List Char) :
    disarm (s ++ '\n' :: t) = disarm s ++ '\n' :: disarm t := by
  fun_induction disarm s with
  | case1 rest ih =>
    rw [List.append_assoc, ← ih]
    rfl
  | case2 c rest hne ih =>
    rw [List.cons_append, disarm_cons, ih, List.cons_append]
    intro later hc hrest
    match rest with
    | [] => cases hrest
    | [_] => cases hrest
    | d :: e :: rest =>
      obtain ⟨rfl, htail⟩ := List.cons.inj hrest
      obtain ⟨rfl, -⟩ := List.cons.inj htail
      exact hne rest hc rfl
  | case3 => exact disarm_cons nofun

/-! ### The comment -/

theorem toList_ofLines (lines : List String) :
    (ofLines lines).toList =
      "<!--".toList ++ ('\n' :: (disarm (String.intercalate "\n" lines).toList ++ ['\n']) ++
        "-->\n".toList) := by
  simp [ofLines]

/-- The first line comes first, and is over at a line feed. -/
theorem exists_toList_ofLines_cons (line : String) (lines : List String) :
    ∃ later, ¬ "-->".toList <:+: disarm line.toList ++ '\n' :: later ∧
      (ofLines (line :: lines)).toList =
        "<!--\n".toList ++ (disarm line.toList ++ '\n' :: later) ++ "-->\n".toList := by
  have hopen : "<!--\n".toList = "<!--".toList ++ ['\n'] := rfl
  rw [toList_ofLines, hopen]
  cases lines with
  | nil =>
    refine ⟨[], ?_, by simp⟩
    rw [infix_append_cons_iff (by decide)]
    rintro (harrow | harrow)
    · exact not_arrow_infix_disarm _ harrow
    · revert harrow
      decide
  | cons next lines =>
    refine ⟨disarm (String.intercalate "\n" (next :: lines)).toList ++ ['\n'], ?_, ?_⟩
    · rw [infix_append_cons_iff (by decide), infix_append_cons_iff (by decide)]
      rintro (harrow | harrow | harrow)
      · exact not_arrow_infix_disarm _ harrow
      · exact not_arrow_infix_disarm _ harrow
      · revert harrow
        decide
    · have hjoin : (String.intercalate "\n" (line :: next :: lines)).toList =
          line.toList ++ '\n' :: (String.intercalate "\n" (next :: lines)).toList := by
        rw [String.intercalate_cons_cons]
        simp
      rw [hjoin, disarm_append_lineFeed]
      simp

/-- **Lines make one comment iff none of them holds `--!>`.** -/
theorem isOneComment_ofLines_iff (lines : List String) :
    IsOneComment (ofLines lines).toList ↔ ∀ line ∈ lines, ¬ "--!>".toList <:+: line.toList := by
  have hlines := infix_intercalate_iff (p := "--!>".toList) (by decide) (by decide) lines
  rw [toList_ofLines, isOneComment_onLines_iff]
  constructor
  · intro hfree line hline hmark
    refine hfree _ (Or.inr rfl) ?_
    rw [bangArrow_infix_disarm_iff, hlines]
    exact ⟨line, hline, hmark⟩
  · rintro hfree mark (rfl | rfl)
    · exact not_arrow_infix_disarm _
    · rw [bangArrow_infix_disarm_iff, hlines]
      rintro ⟨line, hline, hmark⟩
      exact hfree line hline hmark

end CodeFigure.Comment

namespace CodeFigure.GistTag

open CodeFigure.Markup

theorem render_of_error {tag : GistTag} {past : List String} {text : String} {error : GistError}
    (hfail : (tag.tryRender past text).result = .error error) :
    (tag.render past text).result = error.comment := by
  simp only [render, hfail]

theorem render_of_ok {tag : GistTag} {past : List String} {text html : String}
    (hok : (tag.tryRender past text).result = .ok html) : (tag.render past text).result = html := by
  simp only [render, hok]

/-- **When a failed gist is one comment.**  What stands for a gist that cannot be
    rendered is one comment up to its last mark, with a line feed behind it,
    exactly when neither the message of the error nor one of its causes holds
    `--!>`. -/
theorem render_isOneComment_iff {tag : GistTag} {past : List String} {text : String}
    {error : GistError} (hfail : (tag.tryRender past text).result = .error error) :
    IsOneComment (tag.render past text).result.toList ↔
      ∀ line ∈ error.message :: error.causes, ¬ "--!>".toList <:+: line.toList := by
  rw [render_of_error hfail, GistError.comment_eq_ofLines]
  exact Comment.isOneComment_ofLines_iff _

/-- A response that is refused may be a comment itself. -/
theorem render_isOneComment_notFound :
    let tag := answering ⟨404, "<!-- Not Found -->"⟩
    (∃ error, (tag.tryRender [] "me/7").result = .error error) ∧
      IsOneComment (tag.render [] "me/7").result.toList := by
  intro tag
  have hread : Reference.parse "me/7" = .ok ⟨7, some "me", none⟩ := rfl
  have hanswer : tag.resolver.client [] (tag.resolver.rawUrl ⟨7, some "me", none⟩) =
      .ok ⟨404, "<!-- Not Found -->"⟩ := rfl
  have hfail := congrArg Attempt.result (tryRender_of_isError hread hanswer rfl)
  exact ⟨⟨_, hfail⟩, (render_isOneComment_iff hfail).mpr (by decide +kernel)⟩

/-- **A host can leave the comment.**  With `--!>` in a response that is refused,
    what stands for the gist is no longer one comment. -/
theorem not_isOneComment_of_bangArrow :
    let tag := answering ⟨404, "--!><b>"⟩
    (∃ error, (tag.tryRender [] "7").result = .error error) ∧
      ¬ IsOneComment (tag.render [] "7").result.toList := by
  intro tag
  have hread : Reference.parse "7" = .ok ⟨7, none, none⟩ := rfl
  have hanswer : tag.resolver.client [] (tag.resolver.rawUrl ⟨7, none, none⟩) =
      .ok ⟨404, "--!><b>"⟩ := rfl
  have hfail := congrArg Attempt.result (tryRender_of_isError hread hanswer rfl)
  refine ⟨⟨_, hfail⟩, ?_⟩
  rw [render_of_error hfail, GistError.comment_eq_ofLines, Comment.isOneComment_ofLines_iff]
  intro hfree
  exact hfree _ List.mem_cons_self (by decide +kernel)

end CodeFigure.GistTag
