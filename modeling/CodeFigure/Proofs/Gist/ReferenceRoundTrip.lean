/-
  CodeFigure/Proofs/Gist/ReferenceRoundTrip.lean
  ==============================================
  **Writing and reading references.**

  A reference may be put together from any integer and any texts, and it is
  written whatever it holds.  Its text reads back as the same reference exactly
  when the parts are ones that the form has room for (`parse_text_eq_ok_iff`).

  One direction writes: the text of such a reference has the form, with the parts
  that were put in, and nothing is trimmed off it because both ends are ink.  The
  other direction needs no look at the text: whatever has been read can be
  written, so a reference that cannot be written is never the answer.  Its text
  may still be read as another one.
-/
import CodeFigure.Proofs.Gist.ReferenceGrammar

namespace CodeFigure.Reference

open CodeFigure.Text

/-! ### Written references -/

theorem isInkText_owner_digits {parts : Parts} (hform : parts.WellFormed) (gap : List Char) :
    IsInkText ((Parts.mk parts.owner [] none).written gap ++ parts.digits) := by
  have hdigits : IsInkText parts.digits := by
    intro c hc
    exact isBlank_of_isDecimalDigit (hform.digits.2 c hc)
  have hslash : IsInkText ['/'] := all_isInk_eq_true_iff.mp (by decide)
  apply isInkText_append ?_ hdigits
  cases howner : parts.owner with
  | none =>
    intro c hc
    cases hc
  | some owner =>
    have hink := (hform.owner owner howner).2.1
    simpa [Parts.written] using isInkText_append hink hslash

/-- A written reference has ink at both ends. -/
theorem trim_written {parts : Parts} (hform : parts.WellFormed) (gap : List Char) :
    trim (parts.written gap) = parts.written gap := by
  have hfront := isInkText_owner_digits hform gap
  have hfrontNe : (Parts.mk parts.owner [] none).written gap ++ parts.digits ≠ [] := by
    intro hnil
    exact hform.digits.1 (List.append_eq_nil_iff.mp hnil).2
  rw [written_eq]
  cases hname : parts.filename with
  | none =>
    have hempty : (Parts.mk none [] none).written gap = [] := rfl
    rw [hempty, List.append_nil]
    exact trim_of_ink hfront
  | some name =>
    obtain ⟨hne, hink⟩ := hform.filename name hname
    have hbehind : (Parts.mk none [] (some name)).written gap = gap ++ name := rfl
    rw [hbehind, ← List.append_assoc]
    exact trim_between_ink gap hfront hfrontNe hink hne

/-! ### The parts of a reference -/

def parts (reference : Reference) : Parts where
  owner := reference.owner.map String.toList
  digits := signedDecimal reference.id.toInt
  filename := reference.filename.map String.toList

theorem toList_text (reference : Reference) : reference.text.toList = reference.parts.written [' '] := by
  unfold text parts Parts.written
  cases reference.owner <;> cases reference.filename <;> simp [idText]

variable {reference : Reference}

theorem exists_id (hid : 0 ≤ reference.id) :
    ∃ n, reference.id.toInt = Int.ofNat n ∧ n ≤ maxId ∧ reference.parts.digits = decimal n := by
  have hlow : 0 ≤ reference.id.toInt := Int64.le_iff_toInt_le.mp hid
  have hhigh := Int64.toInt_lt reference.id
  obtain ⟨n, hn⟩ := Int.eq_ofNat_of_zero_le hlow
  refine ⟨n, hn, ?_, ?_⟩
  · unfold maxId
    omega
  · simp only [parts, hn]
    rfl

theorem wellFormed_parts (hwritable : reference.IsWritable) : reference.parts.WellFormed := by
  obtain ⟨n, -, -, hdigits⟩ := exists_id hwritable.id
  refine ⟨?_, ?_, ?_⟩
  · intro owner howner
    obtain ⟨name, hname, rfl⟩ := Option.map_eq_some_iff.mp howner
    exact hwritable.owner name hname
  · rw [hdigits]
    refine ⟨Nat.toDigits_ne_nil, ?_⟩
    intro c hc
    exact isDecimalDigit_of_isDigit (isDigit_of_mem_decimal hc)
  · intro name hname
    obtain ⟨word, hword, rfl⟩ := Option.map_eq_some_iff.mp hname
    exact hwritable.filename word hword

theorem writes_text (hwritable : reference.IsWritable) :
    reference.parts.Writes (trim reference.text.toList) := by
  have hform := wellFormed_parts hwritable
  rw [toList_text, trim_written hform]
  exact ⟨hform, [' '], List.cons_ne_nil ' ' [], isBlankText_singleton (by decide), rfl⟩

theorem hasId_parts (hid : 0 ≤ reference.id) : reference.parts.HasId := by
  obtain ⟨n, -, hbound, hdigits⟩ := exists_id hid
  unfold Parts.HasId
  rw [hdigits]
  refine ⟨?_, ?_⟩
  · intro c hc
    exact isDigit_of_mem_decimal hc
  · rw [decimal, Nat.ofDigitChars_ten_toDigits]
    exact hbound

theorem spells_parts (hid : 0 ≤ reference.id) : reference.parts.Spells reference := by
  obtain ⟨n, hn, -, hdigits⟩ := exists_id hid
  refine ⟨?_, ?_, ?_⟩
  · rw [hdigits, hn, decimal, Nat.ofDigitChars_ten_toDigits]
    rfl
  · simp [parts, Function.comp_def]
  · simp [parts, Function.comp_def]

/-! ### The round trip -/

theorem parse_text (hwritable : reference.IsWritable) : parse reference.text = .ok reference :=
  parse_eq_ok_iff.mpr ⟨reference.parts, writes_text hwritable, hasId_parts hwritable.id,
    spells_parts hwritable.id⟩

theorem bind_parse_text {text : String} :
    ((parse text).bind fun read => parse read.text) = parse text := by
  cases hread : parse text with
  | error error => rfl
  | ok read =>
    have hagain : parse read.text = .ok read := parse_text (isWritable_of_parse hread)
    rw [Except.bind, hagain]

/-- An empty filename is trimmed off with the blank in front of it. -/
theorem parse_text_emptyName : parse (Reference.text ⟨7, none, some ""⟩) = .ok ⟨7, none, none⟩ := rfl

/-- **Which references read back.**  The text of a reference is read as that
    reference exactly when the identifier is not negative and the owner and the
    filename, where there are any, can be written.  What is read from any text is
    such a reference, so writing it and reading it again changes nothing; a text
    written from any other may be read, but as something else. -/
theorem parse_text_eq_ok_iff :
    (∀ reference : Reference, parse reference.text = .ok reference ↔
      0 ≤ reference.id ∧
        (∀ owner ∈ reference.owner, owner.toList ≠ [] ∧ IsInkText owner.toList ∧ '/' ∉ owner.toList) ∧
        (∀ name ∈ reference.filename, name.toList ≠ [] ∧ IsInkText name.toList)) ∧
    (∀ (text : String) (reference : Reference), parse text = .ok reference → reference.IsWritable) ∧
    (∀ text : String, ((parse text).bind fun read => parse read.text) = parse text) ∧
    (∃ reference read : Reference, ¬ reference.IsWritable ∧ parse reference.text = .ok read ∧
      read ≠ reference) := by
  refine ⟨?_, fun text reference => isWritable_of_parse, fun text => bind_parse_text, ?_⟩
  · intro reference
    constructor
    · intro hread
      have hwritable := isWritable_of_parse hread
      exact ⟨hwritable.id, hwritable.owner, hwritable.filename⟩
    · rintro ⟨hid, howner, hname⟩
      exact parse_text ⟨hid, howner, hname⟩
  · refine ⟨⟨7, none, some ""⟩, ⟨7, none, none⟩, ?_, parse_text_emptyName, by decide⟩
    intro hwritable
    exact (hwritable.filename "" rfl).1 rfl

end CodeFigure.Reference
