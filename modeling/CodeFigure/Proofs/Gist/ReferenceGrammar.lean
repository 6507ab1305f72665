/-
  CodeFigure/Proofs/Gist/ReferenceGrammar.lean
  ============================================
  **What reading a reference answers, said by the form of the text.**

  A text without blanks around it has the form `[owner/]id [filename]` in one way
  at most (`eq_of_writes`), so its parts may be spoken of.  They decide the
  answer:

    * no form: the text is malformed, and the error shows it untrimmed;
    * digits that write an identifier: the reference of these parts;
    * any other digits: an invalid identifier.  The reason is the first thing
      wrong from the left.  Digits without a value are found only when those in
      front of them are not too many already.

  So a reference that has been read can be written (`isWritable_of_parse`).
-/
import CodeFigure.Proofs.Gist.ReferenceParts

namespace CodeFigure.Reference

open CodeFigure.Text

/-! ### One form at most -/

theorem eq_of_writes {s : List Char} {parts parts' : Parts} (h : parts.Writes s)
    (h' : parts'.Writes s) : parts = parts' := by
  have hsame : some parts = some parts' := by
    rw [← parts?_of_writes h, parts?_of_writes h']
  exact Option.some.inj hsame

/-- The blanks in front of a filename are those that the text has there. -/
theorem gap_eq_of_written {parts : Parts} {gap gap' : List Char}
    (h : parts.written gap = parts.written gap') : parts.filename = none ∨ gap = gap' := by
  cases hname : parts.filename with
  | none => exact Or.inl rfl
  | some name =>
    unfold Parts.written at h
    rw [hname] at h
    exact Or.inr (List.append_cancel_right (List.append_cancel_left h))

/-! ### From the parts to the answer -/

/-- `reference` consists of these parts, and its identifier is what the digits are
    worth. -/
structure Parts.Spells (parts : Parts) (reference : Reference) : Prop where
  id : reference.id.toInt = Nat.ofDigitChars 10 parts.digits 0
  owner : reference.owner = parts.owner.map String.ofList
  filename : reference.filename = parts.filename.map String.ofList

def Parts.HasId (parts : Parts) : Prop :=
  (∀ c ∈ parts.digits, c.isDigit = true) ∧ Nat.ofDigitChars 10 parts.digits 0 ≤ maxId

variable {text : String} {parts : Parts} {reference : Reference}

theorem toInt_ofNat_of_le {n : Nat} (hn : n ≤ maxId) : (Int64.ofNat n).toInt = n :=
  Int64.toInt_ofNat_of_lt (Nat.lt_succ_of_le hn)

theorem ofParts_eq_ok_iff :
    ofParts parts = .ok reference ↔ parts.HasId ∧ parts.Spells reference := by
  unfold ofParts
  cases hread : readBounded maxId parts.digits with
  | error reason =>
    simp only [reduceCtorEq, false_iff]
    rintro ⟨⟨hdigits, hbound⟩, -⟩
    rw [readBounded_eq_ok_iff.mpr ⟨hdigits, rfl, hbound⟩] at hread
    cases hread
  | ok n =>
    obtain ⟨hdigits, rfl, hbound⟩ := readBounded_eq_ok_iff.mp hread
    have hid := toInt_ofNat_of_le hbound
    constructor
    · intro hmade
      cases hmade
      exact ⟨⟨hdigits, hbound⟩, hid, rfl, rfl⟩
    · rintro ⟨-, hspells⟩
      obtain ⟨id, owner, filename⟩ := reference
      obtain ⟨hvalue, rfl, rfl⟩ := hspells
      obtain rfl : id = Int64.ofNat (Nat.ofDigitChars 10 parts.digits 0) :=
        Int64.toInt_inj.mp (hvalue.trans hid.symm)
      rfl

theorem ofParts_eq_invalidId_iff {id : String} {reason : DigitsError} :
    ofParts parts = .error (.invalidId id reason) ↔
      readBounded maxId parts.digits = .error reason ∧ id = String.ofList parts.digits := by
  unfold ofParts
  cases readBounded maxId parts.digits with
  | error reason' => simp [and_comm, eq_comm]
  | ok n => simp

theorem ofParts_ne_malformed (malformed : String) : ofParts parts ≠ .error (.malformed malformed) := by
  unfold ofParts
  cases readBounded maxId parts.digits with
  | error reason => simp
  | ok n => simp

/-- The digits are no identifier for one of two reasons. -/
theorem readBounded_eq_error_iff {reason : DigitsError} :
    readBounded maxId parts.digits = .error reason ↔
      ¬ parts.HasId ∧
        (reason = .invalidDigit ↔
          (∃ c ∈ parts.digits, c.isDigit = false) ∧
            Nat.ofDigitChars 10 (parts.digits.takeWhile Char.isDigit) 0 ≤ maxId) := by
  rw [← readBounded_eq_invalid_iff]
  cases hread : readBounded maxId parts.digits with
  | ok n =>
    obtain ⟨hdigits, rfl, hbound⟩ := readBounded_eq_ok_iff.mp hread
    have hid : parts.HasId := ⟨hdigits, hbound⟩
    simp [hid]
  | error reason' =>
    have hnone : ¬ parts.HasId := by
      rintro ⟨hdigits, hbound⟩
      rw [readBounded_eq_ok_iff.mpr ⟨hdigits, rfl, hbound⟩] at hread
      cases hread
    cases reason with
    | invalidDigit => simp [hnone]
    | tooLarge => cases reason' <;> simp [hnone]

/-! ### Reading -/

theorem parse_of_writes (hwrites : parts.Writes (trim text.toList)) : parse text = ofParts parts := by
  rw [parse, parts?_of_writes hwrites]

theorem parse_of_not_writes (hnone : ¬ ∃ parts : Parts, parts.Writes (trim text.toList)) :
    parse text = .error (.malformed text) := by
  rw [parse]
  cases hparts : parts? (trim text.toList) with
  | none => rfl
  | some parts => exact absurd ⟨parts, writes_of_parts? hparts⟩ hnone

/-- What `parse` answers where the text has a form is what its parts answer. -/
theorem parse_eq_iff_of_ofParts {answer : Except ReferenceError Reference}
    (hmalformed : answer ≠ .error (.malformed text)) :
    parse text = answer ↔
      ∃ parts : Parts, parts.Writes (trim text.toList) ∧ ofParts parts = answer := by
  by_cases hform : ∃ parts : Parts, parts.Writes (trim text.toList)
  · obtain ⟨parts, hwrites⟩ := hform
    rw [parse_of_writes hwrites]
    constructor
    · intro hanswer
      exact ⟨parts, hwrites, hanswer⟩
    · rintro ⟨parts', hwrites', hanswer⟩
      rw [eq_of_writes hwrites hwrites', hanswer]
  · rw [parse_of_not_writes hform]
    constructor
    · intro hanswer
      exact absurd hanswer.symm hmalformed
    · rintro ⟨parts, hwrites, -⟩
      exact absurd ⟨parts, hwrites⟩ hform

theorem parse_eq_ok_iff :
    parse text = .ok reference ↔
      ∃ parts : Parts, parts.Writes (trim text.toList) ∧ parts.HasId ∧ parts.Spells reference := by
  rw [parse_eq_iff_of_ofParts (by simp)]
  simp only [ofParts_eq_ok_iff]

theorem parse_eq_malformed_iff {malformed : String} :
    parse text = .error (.malformed malformed) ↔
      malformed = text ∧ ¬ ∃ parts : Parts, parts.Writes (trim text.toList) := by
  by_cases hform : ∃ parts : Parts, parts.Writes (trim text.toList)
  · obtain ⟨parts, hwrites⟩ := hform
    rw [parse_of_writes hwrites]
    simp only [ofParts_ne_malformed, false_iff]
    rintro ⟨-, hnone⟩
    exact hnone ⟨parts, hwrites⟩
  · rw [parse_of_not_writes hform]
    simp [hform, eq_comm]

theorem parse_eq_invalidId_iff {id : String} {reason : DigitsError} :
    parse text = .error (.invalidId id reason) ↔
      ∃ parts : Parts, parts.Writes (trim text.toList) ∧ ¬ parts.HasId ∧
        id = String.ofList parts.digits ∧
        (reason = .invalidDigit ↔
          (∃ c ∈ parts.digits, c.isDigit = false) ∧
            Nat.ofDigitChars 10 (parts.digits.takeWhile Char.isDigit) 0 ≤ maxId) := by
  rw [parse_eq_iff_of_ofParts (by simp)]
  simp only [ofParts_eq_invalidId_iff, readBounded_eq_error_iff]
  constructor
  · rintro ⟨parts, hwrites, ⟨hid, hreason⟩, htext⟩
    exact ⟨parts, hwrites, hid, htext, hreason⟩
  · rintro ⟨parts, hwrites, hid, htext, hreason⟩
    exact ⟨parts, hwrites, ⟨hid, hreason⟩, htext⟩

/-- A reference that has been read can be written. -/
theorem isWritable_of_parse (hread : parse text = .ok reference) : IsWritable reference := by
  obtain ⟨parts, ⟨hform, -⟩, -, hspells⟩ := parse_eq_ok_iff.mp hread
  refine ⟨?_, ?_, ?_⟩
  · rw [Int64.le_iff_toInt_le, hspells.id]
    exact Int.natCast_nonneg _
  · intro owner howner
    rw [hspells.owner] at howner
    obtain ⟨name, hname, rfl⟩ := Option.map_eq_some_iff.mp howner
    rw [String.toList_ofList]
    exact hform.owner name hname
  · intro word hword
    rw [hspells.filename] at hword
    obtain ⟨name, hname, rfl⟩ := Option.map_eq_some_iff.mp hword
    rw [String.toList_ofList]
    exact hform.filename name hname

/-- **A reference is read by its form.**  The text without the blanks around it has
    at most one form.  Without one it is malformed; with one it is a reference if
    the digits write an identifier, and otherwise the digits are invalid, for the
    reason that comes first. -/
theorem parse_by_form (text : String) :
    (∀ parts parts' : Parts, parts.Writes (trim text.toList) → parts'.Writes (trim text.toList) →
      parts = parts') ∧
    (∀ (parts : Parts) (gap gap' : List Char), parts.written gap = parts.written gap' →
      parts.filename = none ∨ gap = gap') ∧
    (∀ malformed, parse text = .error (.malformed malformed) ↔
      malformed = text ∧ ¬ ∃ parts : Parts, parts.Writes (trim text.toList)) ∧
    (∀ reference, parse text = .ok reference ↔
      ∃ parts : Parts, parts.Writes (trim text.toList) ∧ parts.HasId ∧ parts.Spells reference) ∧
    (∀ id reason, parse text = .error (.invalidId id reason) ↔
      ∃ parts : Parts, parts.Writes (trim text.toList) ∧ ¬ parts.HasId ∧
        id = String.ofList parts.digits ∧
        (reason = .invalidDigit ↔
          (∃ c ∈ parts.digits, c.isDigit = false) ∧
            Nat.ofDigitChars 10 (parts.digits.takeWhile Char.isDigit) 0 ≤ maxId)) := by
  refine ⟨fun parts parts' => eq_of_writes, fun parts gap gap' => gap_eq_of_written, ?_, ?_, ?_⟩
  · intro malformed
    exact parse_eq_malformed_iff
  · intro reference
    exact parse_eq_ok_iff
  · intro id reason
    exact parse_eq_invalidId_iff

/-- Too many digits come first, if they do. -/
example :
    parse "9\u0663" = .error (.invalidId "9\u0663" .invalidDigit) ∧
      parse "9223372036854775808\u0663" =
        .error (.invalidId "9223372036854775808\u0663" .tooLarge) :=
  ⟨rfl, rfl⟩

end CodeFigure.Reference
