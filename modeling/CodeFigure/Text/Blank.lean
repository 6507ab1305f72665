/-
  CodeFigure/Text/Blank.lean
  ==========================
  **White space, and what trimming does.**

  A character is *blank* when it has the Unicode property `White_Space`.  Every
  place where the library skips, trims or separates by white space means this
  one class, so a text padded with any Unicode white space reads the same.

  Texts are treated as lists of characters here, and trimming is dropping from
  one end: `trimStart` drops the leading blanks, `trimEnd` the trailing ones.
-/
import CodeFigure.Text.CharSet

namespace CodeFigure.Text

/-! ### The class -/

def blanks : CharSet :=
  ⟨[(0x09, 0x0D), (0x20, 0x20), (0x85, 0x85), (0xA0, 0xA0), (0x1680, 0x1680),
    (0x2000, 0x200A), (0x2028, 0x2029), (0x202F, 0x202F), (0x205F, 0x205F), (0x3000, 0x3000)]⟩

def isBlank (c : Char) : Bool := blanks.contains c

/-- `c` is not white space: such characters make up tokens. -/
def isInk (c : Char) : Bool := !isBlank c

def allBlank (s : List Char) : Bool := s.all isBlank

/-! ### Trimming -/

/-- `s` without the longest run at its end whose elements satisfy `p`. -/
def dropEndWhile {α : Type} (p : α → Bool) (s : List α) : List α :=
  (s.reverse.dropWhile p).reverse

def trimStart (s : List Char) : List Char := s.dropWhile isBlank

def trimEnd (s : List Char) : List Char := dropEndWhile isBlank s

def trim (s : List Char) : List Char := trimEnd (trimStart s)

def trimmed (s : String) : String := String.ofList (trim s.toList)

theorem isInk_eq_true_iff {c : Char} : isInk c = true ↔ isBlank c = false := by
  cases h : isBlank c <;> simp [isInk, h]

/-- Dropping stops at an element that fails the test. -/
theorem head_dropWhile_eq_false {α : Type} {p : α → Bool} {s r : List α} {c : α}
    (h : s.dropWhile p = c :: r) : p c = false := by
  induction s with
  | nil => simp at h
  | cons a s ih =>
    rw [List.dropWhile_cons] at h
    split at h
    · exact ih h
    · next ha => cases h; simpa using ha

/-- What `dropEndWhile` leaves is an initial part. -/
theorem dropEndWhile_append {α : Type} (p : α → Bool) (s : List α) :
    dropEndWhile p s ++ (s.reverse.takeWhile p).reverse = s := by
  rw [dropEndWhile, ← List.reverse_append, List.takeWhile_append_dropWhile, List.reverse_reverse]

theorem mem_of_mem_dropEndWhile {α : Type} {p : α → Bool} {s : List α} {c : α}
    (h : c ∈ dropEndWhile p s) : c ∈ s := by
  rw [← dropEndWhile_append p s]
  exact List.mem_append_left _ h

theorem dropEndWhile_concat_of_not {α : Type} {p : α → Bool} {s : List α} {c : α}
    (h : p c = false) : dropEndWhile p (s ++ [c]) = s ++ [c] := by
  simp [dropEndWhile, h]

theorem dropEndWhile_dropEndWhile {α : Type} (p : α → Bool) (s : List α) :
    dropEndWhile p (dropEndWhile p s) = dropEndWhile p s := by
  simp only [dropEndWhile, List.reverse_reverse]
  cases h : s.reverse.dropWhile p with
  | nil => rfl
  | cons c r => rw [List.dropWhile_cons, head_dropWhile_eq_false h]; simp

theorem mem_of_mem_trim {s : List Char} {c : Char} (h : c ∈ trim s) : c ∈ s :=
  (List.dropWhile_sublist isBlank).subset (mem_of_mem_dropEndWhile h)

/-- A text that starts with a character that is not blank still does when its
    end is trimmed. -/
theorem trimStart_trimEnd_of_head {c : Char} {r : List Char} (h : isBlank c = false) :
    trimStart (trimEnd (c :: r)) = trimEnd (c :: r) := by
  have key : dropEndWhile isBlank (c :: r) ++ ((c :: r).reverse.takeWhile isBlank).reverse = c :: r :=
    dropEndWhile_append isBlank (c :: r)
  cases e : dropEndWhile isBlank (c :: r) with
  | nil => rw [trimEnd, e]; rfl
  | cons d t =>
    rw [e, List.cons_append] at key
    obtain ⟨rfl, -⟩ := List.cons.inj key
    rw [trimEnd, e, trimStart, List.dropWhile_cons, h]
    simp

/-- Trimming twice is trimming once. -/
theorem trim_trim (s : List Char) : trim (trim s) = trim s := by
  cases h : trimStart s with
  | nil => rw [trim, trim, h]; rfl
  | cons c r =>
    have hc : isBlank c = false := head_dropWhile_eq_false h
    rw [trim, trim, h, trimStart_trimEnd_of_head hc, trimEnd, trimEnd, dropEndWhile_dropEndWhile]

end CodeFigure.Text
