/-
  CodeFigure/Markup/Nesting.lean
  ==============================
  **Well-nested markup.**

  Markup is read at its `<` only: each of them has to start an opening tag, with
  a name behind it, or a closing tag, with `/` and a name behind it.  What else
  there is, attributes and text, does not matter.  Markup is well nested when
  every closing tag closes the tag that was opened last, and none is left open.

  The tags that are open are a stack, the innermost first.
-/
namespace CodeFigure.Markup

/-! ### Tags -/

inductive Tag where
  | opening (name : List Char)
  | closing (name : List Char)
deriving DecidableEq, Repr

def tagOf? : List Char → Option Tag
  | '/' :: rest =>
    match rest.takeWhile Char.isAlphanum with
    | [] => none
    | name => some (.closing name)
  | rest =>
    match rest.takeWhile Char.isAlphanum with
    | [] => none
    | name => some (.opening name)

/-- The tags of `s` in order, unless some `<` starts none. -/
def tags? : List Char → Option (List Tag)
  | [] => some []
  | c :: rest =>
    if c = '<' then
      match tagOf? rest, tags? rest with
      | some tag, some tags => some (tag :: tags)
      | _, _ => none
    else tags? rest

/-! ### Nesting -/

/-- What is open after `tags` when `opened` was open before; nothing when a
    closing tag does not match. -/
def run? (opened : List (List Char)) : List Tag → Option (List (List Char))
  | [] => some opened
  | .opening name :: tags => run? (name :: opened) tags
  | .closing name :: tags =>
    match opened with
    | [] => none
    | inner :: outer => if inner = name then run? outer tags else none

def WellNested (s : List Char) : Prop := ∃ tags, tags? s = some tags ∧ run? [] tags = some []

/-- One row of tags after another. -/
theorem run?_append (opened : List (List Char)) (front behind : List Tag) :
    run? opened (front ++ behind) = (run? opened front).bind fun left => run? left behind := by
  induction front generalizing opened with
  | nil => rfl
  | cons tag front ih =>
    cases tag with
    | opening name => exact ih (name :: opened)
    | closing name =>
      cases opened with
      | nil => rfl
      | cons inner outer =>
        simp only [List.cons_append, run?]
        split
        · exact ih outer
        · rfl

/-- Text without `<` has no tags. -/
theorem tags?_of_not_mem {s : List Char} (h : '<' ∉ s) : tags? s = some [] := by
  induction s with
  | nil => rfl
  | cons c rest ih =>
    simp only [List.mem_cons, not_or] at h
    rw [tags?, if_neg (Ne.symm h.1), ih h.2]

/-! ### Occurrences -/

/-- How often `part` starts in `s`. -/
def occurrences (part : List Char) : List Char → Nat
  | [] => 0
  | c :: rest => (if part.isPrefixOf (c :: rest) then 1 else 0) + occurrences part rest

end CodeFigure.Markup
