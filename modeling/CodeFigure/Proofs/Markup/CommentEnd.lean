/-
  CodeFigure/Proofs/Markup/CommentEnd.lean
  ========================================
  **A comment ends at the first mark that ends one.**

  `cutAtCommentEnd?` walks over a text, and `cutAtCommentEnd?_eq_some_iff` says
  where it stops: in front of a mark (`-->` or `--!>`) such that none starts any
  earlier.  From that follows what a page makes of text that is put on lines of its
  own between `<!--` and `-->` (`isOneComment_onLines_iff`): it is one comment
  exactly when neither mark occurs in it.
-/
import CodeFigure.Markup.Comment
import CodeFigure.Proofs.Text.Occurrence

namespace CodeFigure.Markup

open CodeFigure.Text

/-! ### Marks -/

def IsCommentEnd (mark : List Char) : Prop := mark = "-->".toList ∨ mark = "--!>".toList

def EndsComment (s : List Char) : Prop := ∃ mark rest, IsCommentEnd mark ∧ s = mark ++ rest

theorem afterCommentEnd?_eq_some_iff {s rest : List Char} :
    afterCommentEnd? s = some rest ↔ ∃ mark, IsCommentEnd mark ∧ s = mark ++ rest := by
  rw [afterCommentEnd?, Option.or_eq_some_iff, after?_eq_some_iff, after?_eq_some_iff]
  constructor
  · rintro (hs | ⟨-, hs⟩)
    · exact ⟨_, Or.inl rfl, hs⟩
    · exact ⟨_, Or.inr rfl, hs⟩
  · rintro ⟨mark, rfl | rfl, rfl⟩
    · exact Or.inl rfl
    · refine Or.inr ⟨?_, rfl⟩
      -- the third character tells the two marks apart
      cases hread : after? "-->" ("--!>".toList ++ rest) with
      | none => rfl
      | some left =>
        have hmark := after?_eq_some_iff.mp hread
        simp at hmark

theorem afterCommentEnd?_eq_none_iff {s : List Char} :
    afterCommentEnd? s = none ↔ ¬ EndsComment s := by
  rw [Option.eq_none_iff_forall_not_mem]
  constructor
  · rintro hnone ⟨mark, rest, hmark, rfl⟩
    exact hnone rest (afterCommentEnd?_eq_some_iff.mpr ⟨mark, hmark, rfl⟩)
  · intro hends rest hrest
    obtain ⟨mark, hmark, rfl⟩ := afterCommentEnd?_eq_some_iff.mp hrest
    exact hends ⟨mark, rest, hmark, rfl⟩

/-! ### The first mark -/

/-- **A comment is cut at its first mark.** -/
theorem cutAtCommentEnd?_eq_some_iff {s inner rest : List Char} :
    cutAtCommentEnd? s = some (inner, rest) ↔
      ∃ mark, IsCommentEnd mark ∧ s = inner ++ (mark ++ rest) ∧
        ∀ front back, back ≠ [] → inner = front ++ back →
          ¬ EndsComment (back ++ (mark ++ rest)) := by
  induction s generalizing inner with
  | nil =>
    constructor
    · intro h
      cases h
    · rintro ⟨mark, rfl | rfl, hs, -⟩
      · simp at hs
      · simp at hs
  | cons c s ih =>
    rw [cutAtCommentEnd?]
    cases hread : afterCommentEnd? (c :: s) with
    | some left =>
      simp only [Option.some.injEq, Prod.mk.injEq]
      constructor
      · rintro ⟨rfl, rfl⟩
        obtain ⟨mark, hmark, hs⟩ := afterCommentEnd?_eq_some_iff.mp hread
        refine ⟨mark, hmark, hs, ?_⟩
        intro front back hback hinner
        exact absurd (List.append_eq_nil_iff.mp hinner.symm).2 hback
      · rintro ⟨mark, hmark, hs, hfirst⟩
        cases inner with
        | nil =>
          have hrest := afterCommentEnd?_eq_some_iff.mpr ⟨mark, hmark, hs⟩
          rw [hread] at hrest
          exact ⟨rfl, Option.some.inj hrest⟩
        | cons d inner =>
          -- a mark starts at once, so nothing is in front of the first one
          have hends : EndsComment (c :: s) := by
            obtain ⟨mark', hmark', hs'⟩ := afterCommentEnd?_eq_some_iff.mp hread
            exact ⟨mark', left, hmark', hs'⟩
          rw [hs] at hends
          exact absurd hends (hfirst [] (d :: inner) (List.cons_ne_nil d inner) rfl)
    | none =>
      have hnot := afterCommentEnd?_eq_none_iff.mp hread
      simp only [Option.map_eq_some_iff, Prod.exists, Prod.mk.injEq]
      constructor
      · rintro ⟨before, left, hcut, rfl, rfl⟩
        obtain ⟨mark, hmark, rfl, hfirst⟩ := ih.mp hcut
        refine ⟨mark, hmark, rfl, ?_⟩
        intro front back hback hinner
        cases front with
        | nil =>
          obtain rfl : c :: before = back := hinner
          exact hnot
        | cons d front => exact hfirst front back hback (List.cons.inj hinner).2
      · rintro ⟨mark, hmark, hs, hfirst⟩
        cases inner with
        | nil => exact absurd ⟨mark, rest, hmark, hs⟩ hnot
        | cons d inner =>
          obtain ⟨rfl, rfl⟩ := List.cons.inj hs
          refine ⟨inner, rest, ih.mpr ⟨mark, hmark, rfl, ?_⟩, rfl, rfl⟩
          intro front back hback hinner
          exact hfirst (c :: front) back hback (by rw [hinner]; rfl)

/-! ### One comment -/

/-- `html` is one comment that ends at its last mark, and a line feed. -/
def IsOneComment (html : List Char) : Prop :=
  ∃ inner, html = "<!--".toList ++ (inner ++ "-->\n".toList) ∧ comment? html = some (inner, ['\n'])

theorem isOneComment_iff {inner : List Char} :
    IsOneComment ("<!--".toList ++ (inner ++ "-->\n".toList)) ↔
      ∀ front back, back ≠ [] → inner = front ++ back → ¬ EndsComment (back ++ "-->\n".toList) := by
  have hcut : comment? ("<!--".toList ++ (inner ++ "-->\n".toList)) =
      cutAtCommentEnd? (inner ++ ("-->".toList ++ ['\n'])) := by
    rw [comment?, after?_append]
    rfl
  constructor
  · rintro ⟨inner', hhtml, hcomment⟩
    obtain rfl : inner = inner' :=
      List.append_cancel_right (List.append_cancel_left hhtml)
    rw [hcut, cutAtCommentEnd?_eq_some_iff] at hcomment
    obtain ⟨mark, -, hmark, hfirst⟩ := hcomment
    rwa [← List.append_cancel_left hmark] at hfirst
  · intro hfirst
    exact ⟨inner, rfl, hcut.trans (cutAtCommentEnd?_eq_some_iff.mpr ⟨_, Or.inl rfl, rfl, hfirst⟩)⟩

theorem newline_not_mem_of_isCommentEnd {mark : List Char} (hmark : IsCommentEnd mark) :
    '\n' ∉ mark := by
  rcases hmark with rfl | rfl <;> decide

theorem ne_nil_of_isCommentEnd {mark : List Char} (hmark : IsCommentEnd mark) : mark ≠ [] := by
  rcases hmark with rfl | rfl <;> decide

/-- **Text on lines of its own is one comment iff it holds no mark.**  The line
    feeds keep the marks around the text from joining with it. -/
theorem isOneComment_onLines_iff {shown : List Char} :
    IsOneComment ("<!--".toList ++ ('\n' :: (shown ++ ['\n']) ++ "-->\n".toList)) ↔
      ∀ mark, IsCommentEnd mark → ¬ mark <:+: shown := by
  rw [isOneComment_iff]
  constructor
  · intro hfirst mark hmark hmem
    obtain ⟨before, after, rfl⟩ := hmem
    refine hfirst ('\n' :: before) (mark ++ (after ++ ['\n'])) ?_ (by simp) ?_
    · intro hnil
      exact ne_nil_of_isCommentEnd hmark (List.append_eq_nil_iff.mp hnil).1
    · exact ⟨mark, after ++ ['\n'] ++ "-->\n".toList, hmark, by simp⟩
  · rintro hfree front back hback hinner ⟨mark, rest, hmark, hstart⟩
    have hnewline := newline_not_mem_of_isCommentEnd hmark
    -- what is left of the inner text ends in the last line feed
    obtain ⟨kept, rfl⟩ : ∃ kept, back = kept ++ ['\n'] := by
      rcases List.eq_nil_or_concat back with rfl | ⟨kept, c, rfl⟩
      · exact absurd rfl hback
      · rw [List.concat_eq_append, ← List.cons_append, ← List.append_assoc] at hinner
        have hlast := List.append_inj_right' hinner rfl
        exact ⟨kept, by rw [List.concat_eq_append, hlast]⟩
    have hkept : '\n' :: shown = front ++ kept := by
      rw [← List.cons_append, ← List.append_assoc] at hinner
      exact List.append_cancel_right hinner
    have hprefix : mark <+: kept ++ '\n' :: "-->\n".toList :=
      ⟨rest, by rw [← hstart]; simp⟩
    rw [prefix_append_cons_iff hnewline] at hprefix
    have hinfix : mark <:+: [] ++ '\n' :: shown := by
      rw [List.nil_append, hkept]
      exact hprefix.isInfix.trans (List.suffix_append front kept).isInfix
    rcases (infix_append_cons_iff hnewline [] shown).mp hinfix with hnil | hshown
    · exact ne_nil_of_isCommentEnd hmark (List.infix_nil.mp hnil)
    · exact hfree mark hmark hshown

end CodeFigure.Markup
