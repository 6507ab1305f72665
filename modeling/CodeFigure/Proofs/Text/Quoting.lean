/-
  CodeFigure/Proofs/Text/Quoting.lean
  ===================================
  **Quoted text is one visible line, and tells what was quoted.**

  A character is quoted as itself, as a backslash with a letter, or as a backslash with its
  code point in braces (`EscapedAs`).  The three are told apart by what they start with, and
  a code point ends at its brace, so a row of escapes can be read from the left in one way
  (`EscapedAs.append_inj`): text that looks like an escape is quoted differently from the
  character that the escape is for.

  All that is written is printable, and what is printable ends no line and is no control
  (`isLineBreak_of_isPrintable`, `isControl_of_isPrintable`).
-/
import CodeFigure.Proofs.Text.Numerals
import CodeFigure.Text.LineBreak
import CodeFigure.Text.Quoted

namespace CodeFigure.Text

/-! ### Hexadecimal -/

/-- The last digit, and what is in front of it. -/
theorem hexadecimal_eq (n : Nat) :
    hexadecimal n =
      (if n < 16 then [] else hexadecimal (n / 16)) ++ [Nat.digitChar (n % 16)] := by
  unfold hexadecimal
  split
  · next hsmall => rw [Nat.toDigits_of_lt_base hsmall, Nat.mod_eq_of_lt hsmall, List.nil_append]
  · next hlarge => rw [Nat.toDigits_of_base_le (by decide) (Nat.le_of_not_lt hlarge)]

theorem exists_digit_of_mem_hexadecimal {c : Char} {n : Nat} (hc : c ∈ hexadecimal n) :
    ∃ k < 16, c = Nat.digitChar k := by
  induction n using Nat.strongRecOn with
  | ind n ih =>
    rw [hexadecimal_eq, List.mem_append, List.mem_singleton] at hc
    rcases hc with hfront | hlast
    · split at hfront
      · cases hfront
      · exact ih (n / 16) (by omega) hfront
    · exact ⟨n % 16, Nat.mod_lt n (by decide), hlast⟩

theorem digitChar_inj {j k : Nat} (hj : j < 16) (hk : k < 16)
    (hsame : Nat.digitChar j = Nat.digitChar k) : j = k := by
  have htable : ∀ j < 16, ∀ k < 16, Nat.digitChar j = Nat.digitChar k → j = k := by decide
  exact htable j hj k hk hsame

theorem hexadecimal_inj {m n : Nat} (hsame : hexadecimal m = hexadecimal n) : m = n := by
  induction m using Nat.strongRecOn generalizing n with
  | ind m ih =>
    rw [hexadecimal_eq m, hexadecimal_eq n] at hsame
    obtain ⟨hfront, hlast⟩ := List.append_inj' hsame rfl
    have hrest : m % 16 = n % 16 :=
      digitChar_inj (Nat.mod_lt m (by decide)) (Nat.mod_lt n (by decide))
        (List.singleton_inj.mp hlast)
    have hnonempty (k : Nat) : hexadecimal k ≠ [] := Nat.toDigits_ne_nil
    split at hfront
    · split at hfront
      · omega
      · exact absurd hfront.symm (hnonempty _)
    · split at hfront
      · exact absurd hfront (hnonempty _)
      · have hquotient := ih (m / 16) (by omega) hfront
        omega

/-! ### Printable characters -/

theorem isPrintable_digitChar {k : Nat} (hk : k < 16) : isPrintable (Nat.digitChar k) = true := by
  have htable : ∀ k < 16, isPrintable (Nat.digitChar k) = true := by decide
  exact htable k hk

theorem CharSet.not_between_of_contains_eq_false {set : CharSet} {c : Char} {i : Nat × Nat}
    (hc : set.contains c = false) (hi : i ∈ set.intervals) : ¬ (i.1 ≤ c.toNat ∧ c.toNat ≤ i.2) := by
  intro hbetween
  cases hc.symm.trans (CharSet.contains_iff.mpr ⟨i, hi, hbetween⟩)

/-- Nothing printable lies among the controls or at the separators. -/
theorem toNat_of_isPrintable {c : Char} (hc : isPrintable c = true) :
    0x20 ≤ c.toNat ∧
      (c.toNat < 0x7F ∨ 0xA0 < c.toNat ∧ (c.toNat < 0x2028 ∨ 0x202F < c.toNat)) := by
  unfold isPrintable at hc
  split at hc
  · simp only [Bool.and_eq_true, decide_eq_true_eq] at hc
    omega
  · have houtside : unprintablesBeyondAscii.contains c = false := by simpa using hc
    have hlatin : (0x80, 0xA0) ∈ unprintablesBeyondAscii.intervals := by decide +kernel
    have hseparators : (0x2028, 0x202F) ∈ unprintablesBeyondAscii.intervals := by decide +kernel
    have hnotLatin := CharSet.not_between_of_contains_eq_false houtside hlatin
    have hnotSeparator := CharSet.not_between_of_contains_eq_false houtside hseparators
    omega

theorem isLineBreak_of_isPrintable {c : Char} (hc : isPrintable c = true) :
    isLineBreak c = false := by
  have hplace := toNat_of_isPrintable hc
  apply Bool.eq_false_iff.mpr
  intro hbreak
  simp only [isLineBreak, lineBreaks, CharSet.contains_cons_iff, CharSet.contains_nil_iff,
    or_false] at hbreak
  omega

theorem isControl_of_isPrintable {c : Char} (hc : isPrintable c = true) : isControl c = false := by
  have hplace := toNat_of_isPrintable hc
  apply Bool.eq_false_iff.mpr
  intro hcontrol
  simp only [isControl, controls, CharSet.contains_cons_iff, CharSet.contains_nil_iff,
    or_false] at hcontrol
  omega

theorem isBlank_of_isLineBreak {c : Char} (hc : isLineBreak c = true) : isBlank c = true := by
  simp only [isLineBreak, lineBreaks, CharSet.contains_cons_iff, CharSet.contains_nil_iff,
    or_false] at hc
  simp only [isBlank, blanks, CharSet.contains_cons_iff, CharSet.contains_nil_iff, or_false]
  omega

/-- No line ends inside of what is visible. -/
theorem EndsLines.of_isPrintable {ends : Char → Bool} (hends : EndsLines ends) {c : Char}
    (hc : isPrintable c = true) : ends c = false := by
  apply Bool.eq_false_iff.mpr
  intro hend
  cases (isLineBreak_of_isPrintable hc).symm.trans (hends.lineBreak c hend)

/-- No line ends inside of a token. -/
theorem EndsLines.of_ink {ends : Char → Bool} (hends : EndsLines ends) {c : Char}
    (hc : isBlank c = false) : ends c = false := by
  apply Bool.eq_false_iff.mpr
  intro hend
  cases hc.symm.trans (isBlank_of_isLineBreak (hends.lineBreak c hend))

def IsVisible (s : String) : Prop := ∀ c ∈ s.toList, isPrintable c = true

theorem IsVisible.append {s t : String} (hs : IsVisible s) (ht : IsVisible t) :
    IsVisible (s ++ t) := by
  intro c hc
  rw [String.toList_append, List.mem_append] at hc
  rcases hc with hc | hc
  · exact hs c hc
  · exact ht c hc

theorem isVisible_decimal (n : Nat) : IsVisible (String.ofList (decimal n)) := by
  intro c hc
  rw [String.toList_ofList] at hc
  obtain ⟨hlow, hhigh⟩ := Char.isDigit_iff_toNat.mp (isDigit_of_mem_decimal hc)
  simp only [Char.reduceToNat] at hlow hhigh
  have hascii : c.toNat < 0x80 := by omega
  simp only [isPrintable, if_pos hascii, Bool.and_eq_true, decide_eq_true_eq]
  omega

/-! ### Escapes -/

/-- The characters with a short name, and the names. -/
def shortEscapes : List (Char × Char) :=
  [('\x00', '0'), ('\t', 't'), ('\r', 'r'), ('\n', 'n'), ('\\', '\\'), ('\x22', '\x22')]

/-- What may stand for `c` inside quotes. -/
inductive EscapedAs (c : Char) : List Char → Prop
  | itself (hprints : isPrintable c = true) (hc : c ≠ '\\') : EscapedAs c [c]
  | short {name : Char} (hname : (c, name) ∈ shortEscapes) : EscapedAs c ['\\', name]
  | codePoint : EscapedAs c (codePointEscape c)

theorem escapedAs_escape (c : Char) : EscapedAs c (escape c) := by
  unfold escape
  split
  · next hnul => exact .short (by rw [hnul]; decide)
  split
  · next htab => exact .short (by rw [htab]; decide)
  split
  · next hreturn => exact .short (by rw [hreturn]; decide)
  split
  · next hfeed => exact .short (by rw [hfeed]; decide)
  split
  · next hbackslash => exact .short (by rw [hbackslash]; decide)
  · next hnot =>
    split
    · next hquote => exact .short (by rw [hquote]; decide)
    split
    · exact .codePoint
    · next hshows =>
      simp only [Bool.or_eq_true, Bool.not_eq_true', not_or, Bool.not_eq_false] at hshows
      exact .itself hshows.2 hnot

theorem EscapedAs.ne_nil {c : Char} {u : List Char} (hu : EscapedAs c u) : u ≠ [] := by
  cases hu with
  | itself => exact List.cons_ne_nil _ _
  | short => exact List.cons_ne_nil _ _
  | codePoint => exact List.cons_ne_nil _ _

/-- The name of a short escape is not the `u` of a code point. -/
theorem short_ne_codePoint {c d name : Char} (hname : (c, name) ∈ shortEscapes) (s t : List Char) :
    ['\\', name] ++ s ≠ codePointEscape d ++ t := by
  intro hsame
  have hu : name = 'u' := (List.cons.inj (List.cons.inj hsame).2).1
  have hunnamed : shortEscapes.all (fun entry => entry.2 != 'u') = true := by decide
  have hne : (name != 'u') = true := List.all_eq_true.mp hunnamed (c, name) hname
  exact bne_iff_ne.mp hne hu

theorem shortEscapes_inj {c d name : Char} (hc : (c, name) ∈ shortEscapes)
    (hd : (d, name) ∈ shortEscapes) : c = d := by
  have htable : shortEscapes.all (fun entry =>
      shortEscapes.all fun other => entry.2 != other.2 || entry.1 == other.1) = true := by decide
  have hboth := List.all_eq_true.mp (List.all_eq_true.mp htable _ hc) _ hd
  simpa using hboth

theorem codePointEscape_append_inj {c d : Char} {s t : List Char}
    (hsame : codePointEscape c ++ s = codePointEscape d ++ t) : c = d ∧ s = t := by
  have hbrace (n : Nat) : '}' ∉ hexadecimal n := by
    intro hmem
    obtain ⟨k, hk, hdigit⟩ := exists_digit_of_mem_hexadecimal hmem
    have htable : ∀ k < 16, '}' ≠ Nat.digitChar k := by decide
    exact htable k hk hdigit
  simp only [codePointEscape, List.append_assoc, List.singleton_append] at hsame
  have hbehind := List.append_cancel_left hsame
  obtain ⟨hdigits, hrest⟩ := append_cons_inj (hbrace _) (hbrace _) hbehind
  exact ⟨Char.toNat_inj.mp (hexadecimal_inj hdigits), hrest⟩

/-- **Escapes are read in one way.** -/
theorem EscapedAs.append_inj {c d : Char} {u v s t : List Char} (hu : EscapedAs c u)
    (hv : EscapedAs d v) (hsame : u ++ s = v ++ t) : c = d ∧ s = t := by
  cases hu with
  | itself _ hc =>
    cases hv with
    | itself => exact List.cons.inj hsame
    | short => exact absurd (List.cons.inj hsame).1 hc
    | codePoint => exact absurd (List.cons.inj hsame).1 hc
  | short hname =>
    cases hv with
    | itself _ hd => exact absurd (List.cons.inj hsame).1.symm hd
    | short hname' =>
      obtain ⟨rfl, hrest⟩ := List.cons.inj (List.cons.inj hsame).2
      exact ⟨shortEscapes_inj hname hname', hrest⟩
    | codePoint => exact absurd hsame (short_ne_codePoint hname s t)
  | codePoint =>
    cases hv with
    | itself _ hd => exact absurd (List.cons.inj hsame).1.symm hd
    | short hname' => exact absurd hsame.symm (short_ne_codePoint hname' t s)
    | codePoint => exact codePointEscape_append_inj hsame

/-! ### Quoted text -/

theorem flatMap_escape_inj {s t : List Char} (hsame : s.flatMap escape = t.flatMap escape) :
    s = t := by
  induction s generalizing t with
  | nil =>
    cases t with
    | nil => rfl
    | cons d t =>
      have hnil := (List.append_eq_nil_iff.mp hsame.symm).1
      exact absurd hnil (escapedAs_escape d).ne_nil
  | cons c s ih =>
    cases t with
    | nil =>
      have hnil := (List.append_eq_nil_iff.mp hsame).1
      exact absurd hnil (escapedAs_escape c).ne_nil
    | cons d t =>
      obtain ⟨rfl, hrest⟩ := (escapedAs_escape c).append_inj (escapedAs_escape d) hsame
      rw [ih hrest]

theorem quote_inj {s t : List Char} (hsame : quote s = quote t) : s = t :=
  flatMap_escape_inj (List.append_cancel_right (List.cons.inj hsame).2)

theorem quoted_inj {s t : String} (hsame : quoted s = quoted t) : s = t :=
  String.toList_inj.mp (quote_inj (String.ofList_injective hsame))

theorem EscapedAs.isPrintable {c d : Char} {u : List Char} (hu : EscapedAs c u) (hd : d ∈ u) :
    isPrintable d = true := by
  cases hu with
  | itself hprints =>
    rw [List.mem_singleton.mp hd]
    exact hprints
  | @short name hname =>
    have hnames : shortEscapes.all (fun entry => Text.isPrintable entry.2) = true := by decide
    rcases List.mem_cons.mp hd with rfl | hd
    · decide
    · rw [List.mem_singleton.mp hd]
      exact List.all_eq_true.mp hnames _ hname
  | codePoint =>
    have hmark : ['\\', 'u', '{'].all Text.isPrintable = true := by decide
    rw [codePointEscape, List.mem_append, List.mem_append] at hd
    rcases hd with (hmarked | hdigit) | hclose
    · exact List.all_eq_true.mp hmark d hmarked
    · obtain ⟨k, hk, rfl⟩ := exists_digit_of_mem_hexadecimal hdigit
      exact isPrintable_digitChar hk
    · rw [List.mem_singleton.mp hclose]
      decide

theorem isVisible_quoted (s : String) : IsVisible (quoted s) := by
  intro c hc
  rw [quoted, String.toList_ofList, quote, List.mem_cons, List.mem_append, List.mem_singleton] at hc
  rcases hc with rfl | hinside | rfl
  · decide
  · obtain ⟨d, -, hd⟩ := List.mem_flatMap.mp hinside
    exact (escapedAs_escape d).isPrintable hd
  · decide

end CodeFigure.Text
