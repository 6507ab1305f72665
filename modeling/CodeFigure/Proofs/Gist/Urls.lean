/-
  CodeFigure/Proofs/Gist/Urls.lean
  ================================
  **The addresses of a gist.**

  A host is given by an address and used without the slashes at its end.  That
  leaves the scheme in place when anything but slashes follows it
  (`hostOf_append`), and normalising twice is normalising once.  So the page of a
  reference that has been read has an address of the same scheme, without blanks
  when the host has none (`isHttpUrl_prettyUrl`, `isInkText_prettyUrl`).
-/
import CodeFigure.Gist.Resolver
import CodeFigure.Proofs.Gist.ReferenceGrammar

namespace CodeFigure

open CodeFigure.Text

/-- `url` is one of the two schemes with something behind it. -/
def IsHttpUrl (url : List Char) : Prop :=
  ∃ scheme rest, (scheme = "http://" ∨ scheme = "https://") ∧ rest ≠ [] ∧
    url = scheme.toList ++ rest

/-- `base` is one of the two schemes with something behind it that is not all
    slashes. -/
def IsHttpBase (base : List Char) : Prop :=
  ∃ scheme rest, (scheme = "http://" ∨ scheme = "https://") ∧ (∃ c ∈ rest, c ≠ '/') ∧
    base = scheme.toList ++ rest

namespace Reference

/-- Its paths start with two slashes, because its owner is empty or starts with one. -/
def DoublesSlash (reference : Reference) : Prop :=
  ∃ owner ∈ reference.owner, owner = "" ∨ "/".toList <+: owner.toList

/-! ### Hosts -/

theorem hostOf_append {base : String} {scheme rest : List Char}
    (hbase : base.toList = scheme ++ rest) (hrest : ∃ c ∈ rest, c ≠ '/') :
    (hostOf base).toList = scheme ++ dropEndWhile (· == '/') rest := by
  rw [hostOf, String.toList_ofList, hbase, dropEndWhile_append_of_exists]
  obtain ⟨c, hc, hne⟩ := hrest
  exact ⟨c, hc, by simpa using hne⟩

theorem hostOf_append_slashes {base : String} {front slashes : List Char}
    (hbase : base.toList = front ++ slashes) (hslashes : ∀ c ∈ slashes, c = '/') :
    (hostOf base).toList = dropEndWhile (· == '/') front := by
  rw [hostOf, String.toList_ofList, hbase, dropEndWhile_append_of_forall]
  simpa using hslashes

theorem hostOf_hostOf (base : String) : hostOf (hostOf base) = hostOf base := by
  rw [hostOf, hostOf, String.toList_ofList, dropEndWhile_dropEndWhile]

/-! ### Pages -/

theorem isInkText_idText (reference : Reference) : IsInkText reference.idText.toList := by
  rw [idText, String.toList_ofList]
  unfold signedDecimal
  split
  · exact isInkText_decimal _
  · intro c hc
    rcases List.mem_cons.mp hc with rfl | hc
    · decide
    · exact isInkText_decimal _ c hc

theorem isInkText_prettyPath {reference : Reference}
    (howner : ∀ owner ∈ reference.owner, IsInkText owner.toList) :
    IsInkText reference.prettyPath.toList := by
  have hslash : IsInkText "/".toList := all_isInk_eq_true_iff.mp (by decide)
  have hid := isInkText_idText reference
  unfold prettyPath
  cases ho : reference.owner with
  | none =>
    simp only [String.toList_append]
    exact isInkText_append hslash hid
  | some owner =>
    simp only [String.toList_append]
    have hname := howner owner ho
    exact isInkText_append (isInkText_append (isInkText_append hslash hname) hslash) hid

theorem prettyPath_ne_nil (reference : Reference) : reference.prettyPath.toList ≠ [] := by
  unfold prettyPath
  cases reference.owner with
  | none => simp
  | some owner => simp

theorem isInkText_hostOf {base : String} (hbase : IsInkText base.toList) :
    IsInkText (hostOf base).toList := by
  intro c hc
  rw [hostOf, String.toList_ofList] at hc
  exact hbase c (mem_of_mem_dropEndWhile hc)

theorem isInkText_prettyUrl {reference : Reference} {base : String}
    (howner : ∀ owner ∈ reference.owner, IsInkText owner.toList) (hbase : IsInkText base.toList) :
    IsInkText (reference.prettyUrl base).toList := by
  rw [prettyUrl, String.toList_append]
  exact isInkText_append (isInkText_hostOf hbase) (isInkText_prettyPath howner)

theorem isHttpUrl_prettyUrl (reference : Reference) {base : String}
    (hbase : IsHttpBase base.toList) : IsHttpUrl (reference.prettyUrl base).toList := by
  obtain ⟨scheme, rest, hscheme, hrest, hsplit⟩ := hbase
  refine ⟨scheme, dropEndWhile (· == '/') rest ++ reference.prettyPath.toList, hscheme, ?_, ?_⟩
  · intro hnil
    exact prettyPath_ne_nil reference (List.append_eq_nil_iff.mp hnil).2
  · rw [prettyUrl, String.toList_append, hostOf_append hsplit hrest, List.append_assoc]

/-! ### Slashes at the start -/

theorem slashes_prefix_iff {owner : String} {rest : List Char} :
    "//".toList <+: "/".toList ++ (owner.toList ++ ("/".toList ++ rest)) ↔
      owner = "" ∨ "/".toList <+: owner.toList := by
  rw [← String.toList_eq_nil_iff]
  cases owner.toList with
  | nil => simp
  | cons c owner => simp

theorem slash_not_mem_idText (reference : Reference) : '/' ∉ reference.idText.toList := by
  have hdecimal (n : Nat) : '/' ∉ decimal n := not_mem_decimal (by decide) n
  rw [idText, String.toList_ofList]
  unfold signedDecimal
  split
  · exact hdecimal _
  · simp [hdecimal]

theorem slashes_prefix_rawPath_iff {reference : Reference} :
    "//".toList <+: reference.rawPath.toList ↔ reference.DoublesSlash := by
  unfold rawPath DoublesSlash
  cases reference.owner with
  | none => simp
  | some owner =>
    simp only [String.toList_append, List.append_assoc]
    exact slashes_prefix_iff.trans (by simp)

theorem slashes_prefix_prettyPath_iff {reference : Reference} :
    "//".toList <+: reference.prettyPath.toList ↔ reference.DoublesSlash := by
  unfold prettyPath DoublesSlash
  cases reference.owner with
  | none =>
    have hslash := slash_not_mem_idText reference
    cases htext : reference.idText.toList with
    | nil => simp [htext]
    | cons c rest =>
      rw [htext] at hslash
      simp [htext, List.ne_of_not_mem_cons hslash]
  | some owner =>
    simp only [String.toList_append, List.append_assoc]
    exact slashes_prefix_iff.trans (by simp)

theorem not_doublesSlash_of_parse {text : String} {reference : Reference}
    (hparse : parse text = .ok reference) : ¬ reference.DoublesSlash := by
  rintro ⟨owner, howner, hslash⟩
  obtain ⟨hne, -, hnot⟩ := (isWritable_of_parse hparse).owner owner howner
  rcases hslash with rfl | ⟨rest, hrest⟩
  · exact hne rfl
  · rw [← hrest] at hnot
    exact hnot (by simp)

end Reference

theorem Resolver.rawUrl_forHost (client : Client) (base : String) (reference : Reference) :
    (forHost client base).rawUrl reference = reference.rawUrl base := by
  rw [rawUrl, forHost, Reference.rawUrl, Reference.hostOf_hostOf, Reference.rawUrl]

theorem Resolver.prettyUrl_forHost (client : Client) (base : String) (reference : Reference) :
    (forHost client base).prettyUrl reference = reference.prettyUrl base := by
  rw [prettyUrl, forHost, Reference.prettyUrl, Reference.hostOf_hostOf, Reference.prettyUrl]

end CodeFigure
