/-
  CodeFigure/Proofs/Params/FileTypes.lean
  =======================================
  **Where the file type of a code block comes from.**

  Parameters may name the file type, and then nothing else counts.  The first language tag
  does, and only that one is taken out, with the blanks in front of it
  (`LangTag.find?_eq_some_iff`).  What is left is read as a caption whatever it looks like:
  a later tag is part of it (`parse_of_isFirst`).

  Parameters without a tag may still mention a file type, as the extension of a file in the
  title (`HasTitle.fileType?_eq`).  The address and the label of a link are not searched, and
  a lone address has no title but itself, so they mention none.
-/
import CodeFigure.Proofs.Caption.Extensions
import CodeFigure.Proofs.Params.CaptionText

namespace CodeFigure

open CodeFigure.Text

/-! ### The first tag -/

namespace LangTag

theorem map_eq_iff_of_forall {α β : Type} {f g : α → β} {written : List α} {target : List β}
    (hsame : ∀ k ∈ target, ∀ c, f c = k ↔ g c = k) :
    written.map f = target ↔ written.map g = target := by
  induction target generalizing written with
  | nil => simp
  | cons k target ih =>
    cases written with
    | nil => simp
    | cons c written =>
      rw [List.map_cons, List.map_cons, List.cons.injEq, List.cons.injEq,
        hsame k List.mem_cons_self c, ih fun k hk => hsame k (List.mem_cons_of_mem _ hk)]

/-- The two letters with a third form are not in the keyword, so only ASCII spells it. -/
theorem isKeyword_iff {written : List Char} :
    IsKeyword written ↔ written.map Char.toLower = "lang:".toList := by
  apply map_eq_iff_of_forall
  intro k hk c
  have hne {form : Char} (hform : form ∉ "lang:".toList) : form ≠ k := by
    rintro rfl
    exact hform hk
  unfold foldCase
  split
  · next hlong =>
    rw [hlong]
    exact iff_of_false (hne (by decide)) (hne (by decide))
  · split
    · next hkelvin =>
      rw [hkelvin]
      exact iff_of_false (hne (by decide)) (hne (by decide))
    · rfl

theorem isFirst_iff {before gap keyword value after : List Char} :
    IsFirst before gap keyword value after ↔
      IsFirstKeyword (before ++ gap) keyword (value ++ after) ∧ IsBlankText gap ∧
        (∀ c ∈ before.getLast?, isBlank c = false) ∧ IsToken [] value after := by
  constructor
  · intro hfirst
    refine ⟨⟨hfirst.isKeyword, ?_, ?_⟩, hfirst.blankGap, hfirst.inkBefore, hfirst.wholeRun⟩
    · obtain ⟨c, rest, rfl⟩ := List.exists_cons_of_ne_nil hfirst.wholeRun.nonempty
      exact ⟨c, rfl, hfirst.wholeRun.ink c List.mem_cons_self⟩
    · intro early late hsplit
      apply hfirst.first early late
      rw [hsplit, ← List.append_assoc]
  · rintro ⟨hkeyword, hgap, hbefore, hvalue⟩
    refine ⟨hkeyword.isKeyword, hgap, hbefore, hvalue, ?_⟩
    intro early late hsplit
    apply hkeyword.first early late
    rw [hsplit, List.append_assoc]

/-- **The tag that is found is the first one**, and all that precedes it but the blanks
    directly in front of it stays, and all that follows it. -/
theorem find?_eq_some_iff {s : List Char} {tag : LangTag} :
    find? s = some tag ↔
      ∃ gap keyword, IsFirst tag.before gap keyword tag.fileType tag.after ∧
        s = tag.before ++ gap ++ keyword ++ tag.fileType ++ tag.after := by
  rw [find?, Option.map_eq_some_iff]
  constructor
  · rintro ⟨⟨front, rest⟩, hcut, rfl⟩
    obtain ⟨keyword, hkeyword, rfl⟩ := cut?_eq_some_iff.mp hcut
    obtain ⟨c, hc, hink⟩ := hkeyword.inkBehind
    obtain ⟨behind, rfl⟩ := List.head?_eq_some_iff.mp hc
    obtain ⟨gap, hgap, hfront⟩ := exists_trimEnd_append_blank front
    refine ⟨gap, keyword, isFirst_iff.mpr ⟨?_, hgap, ?_, ?_⟩, ?_⟩
    · rwa [← hfront, List.takeWhile_append_dropWhile]
    · exact isBlank_getLast?_trimEnd front
    · exact isToken_takeWhile (isInk_eq_true_iff.mpr hink)
    · rw [← hfront, List.append_assoc (front ++ keyword), List.takeWhile_append_dropWhile]
  · rintro ⟨gap, keyword, hfirst, hsplit⟩
    obtain ⟨hkeyword, hgap, hbefore, hvalue⟩ := isFirst_iff.mp hfirst
    refine ⟨(tag.before ++ gap, tag.fileType ++ tag.after), ?_, ?_⟩
    · rw [cut?_eq_some_iff]
      refine ⟨keyword, hkeyword, ?_⟩
      rw [hsplit, List.append_assoc]
    · rw [trimEnd_append_of_blank tag.before hgap, trimEnd_of_getLast? hbefore,
        Caption.takeWhile_token hvalue, Caption.dropWhile_token hvalue]

theorem hasTag_iff_exists_isFirst {s : List Char} :
    HasTag s ↔ ∃ before gap keyword value after, IsFirst before gap keyword value after ∧
      s = before ++ gap ++ keyword ++ value ++ after := by
  rw [← isSome_cut?_iff]
  constructor
  · intro hcut
    have hfound : (find? s).isSome = true := by rwa [find?, Option.isSome_map]
    obtain ⟨tag, htag⟩ := Option.isSome_iff_exists.mp hfound
    obtain ⟨gap, keyword, hfirst, hsplit⟩ := find?_eq_some_iff.mp htag
    exact ⟨tag.before, gap, keyword, tag.fileType, tag.after, hfirst, hsplit⟩
  · rintro ⟨before, gap, keyword, value, after, hfirst, hsplit⟩
    have hfound : find? s = some ⟨before, value, after⟩ :=
      find?_eq_some_iff.mpr ⟨gap, keyword, hfirst, hsplit⟩
    rw [← Option.isSome_map, ← find?, hfound]
    rfl

end LangTag

/-! ### File types -/

namespace Caption

/-- The caption has this title beside a link, or alone. -/
inductive HasTitle (title : String) : Caption → Prop
  | titled : HasTitle title (.titled title)
  | linked (href label : String) : HasTitle title (.linked title href label)

theorem HasTitle.title_eq {title : String} {caption : Caption} (htitle : HasTitle title caption) :
    caption.title = title := by
  cases htitle with
  | titled => rfl
  | linked href label => rfl

theorem HasTitle.fileType?_eq {title : String} {caption : Caption}
    (htitle : HasTitle title caption) :
    caption.fileType? = (extension? title.toList).map String.ofList := by
  cases htitle with
  | titled => rfl
  | linked href label => rfl

theorem isInkText_of_fileType? {caption : Caption} {fileType : String}
    (htype : caption.fileType? = some fileType) :
    fileType.toList ≠ [] ∧ IsInkText fileType.toList := by
  have htoken {title : String} (hfound : (extension? title.toList).map String.ofList = some fileType) :
      fileType.toList ≠ [] ∧ IsInkText fileType.toList := by
    obtain ⟨word, hword, rfl⟩ := Option.map_eq_some_iff.mp hfound
    rw [String.toList_ofList]
    exact isInkText_of_extension? hword
  cases caption with
  | titled title => exact htoken htype
  | linked title href label => exact htoken htype
  | address href => cases htype

end Caption

namespace Params

open CodeFigure.Caption

theorem parse_of_isFirst {raw : String} {before gap keyword value after : List Char}
    (hfirst : LangTag.IsFirst before gap keyword value after)
    (hraw : raw.toList = before ++ gap ++ keyword ++ value ++ after) :
    parse raw = ofParts raw (some (String.ofList value)) (ofText? (before ++ after)) := by
  have hfound : LangTag.find? raw.toList = some ⟨before, value, after⟩ :=
    LangTag.find?_eq_some_iff.mpr ⟨gap, keyword, hfirst, hraw⟩
  rw [parse, hfound]
  rfl

theorem fileType_parse_of_not_hasTag {raw : String} (hraw : ¬ LangTag.HasTag raw.toList) :
    (parse raw).fileType = (ofText? raw.toList).bind fileType? := by
  rw [parse_of_not_hasTag hraw]
  rfl

theorem isInkText_fileType {raw fileType : String} (htype : (parse raw).fileType = some fileType) :
    fileType.toList ≠ [] ∧ IsInkText fileType.toList := by
  by_cases hraw : LangTag.HasTag raw.toList
  · obtain ⟨before, gap, keyword, value, after, hfirst, hsplit⟩ :=
      LangTag.hasTag_iff_exists_isFirst.mp hraw
    rw [parse_of_isFirst hfirst hsplit] at htype
    cases htype
    rw [String.toList_ofList]
    exact ⟨hfirst.wholeRun.nonempty, hfirst.wholeRun.ink⟩
  · rw [fileType_parse_of_not_hasTag hraw] at htype
    obtain ⟨caption, -, hmentioned⟩ := Option.bind_eq_some_iff.mp htype
    exact isInkText_of_fileType? hmentioned

/-- **The first tag names the file type and is taken out.**  It starts at the least place
    where `lang:`, in any case of ASCII letters, has a character behind it that is no blank.
    Its value is the file type, and the caption is read from the text without it, with all
    that follows left in place.  Without such a place the whole text is read as a caption,
    and a file type can only be one that the caption mentions.  In any case the parameters
    are kept as they were written, and a file type is a token. -/
theorem parse_takes_first_tag (raw : String) :
    (LangTag.HasTag raw.toList ↔ ∃ before gap keyword value after,
      LangTag.IsFirst before gap keyword value after ∧
        raw.toList = before ++ gap ++ keyword ++ value ++ after) ∧
    (∀ before gap keyword value after, LangTag.IsFirst before gap keyword value after →
      raw.toList = before ++ gap ++ keyword ++ value ++ after →
        keyword.map Char.toLower = "lang:".toList ∧
        (parse raw).fileType = some (String.ofList value) ∧
        (parse raw).caption = (ofText? (before ++ after)).map Caption.markup ∧
        (parse raw).title = (ofText? (before ++ after)).map Caption.title) ∧
    (¬ LangTag.HasTag raw.toList →
      (parse raw).fileType = (ofText? raw.toList).bind fileType? ∧
        (parse raw).caption = (ofText? raw.toList).map Caption.markup ∧
        (parse raw).title = (ofText? raw.toList).map Caption.title) ∧
    (parse raw).raw = raw ∧
    ∀ fileType ∈ (parse raw).fileType, fileType.toList ≠ [] ∧ IsInkText fileType.toList := by
  refine ⟨LangTag.hasTag_iff_exists_isFirst, ?_, ?_, ?_, fun fileType => isInkText_fileType⟩
  · intro before gap keyword value after hfirst hsplit
    rw [parse_of_isFirst hfirst hsplit]
    exact ⟨LangTag.isKeyword_iff.mp hfirst.isKeyword, rfl, rfl, rfl⟩
  · intro hraw
    rw [parse_of_not_hasTag hraw]
    exact ⟨rfl, rfl, rfl⟩
  · rw [parse_eq_ofParts]
    rfl

/-- A keyword that only blanks follow is passed over, one inside the value belongs to it,
    and one behind it stays. -/
theorem parse_takes_first_tag_nested :
    (∃ gap keyword, LangTag.IsFirst "A lang:".toList gap keyword "lang:x".toList
        " b.c LANG:y".toList ∧
      "A lang: \u2003lAnG:lang:x b.c LANG:y".toList =
        "A lang:".toList ++ gap ++ keyword ++ "lang:x".toList ++ " b.c LANG:y".toList) ∧
    (parse "A lang: \u2003lAnG:lang:x b.c LANG:y").fileType = some "lang:x" ∧
    (parse "A lang: \u2003lAnG:lang:x b.c LANG:y").title = some "A lang: b.c LANG:y" := by
  have hfound : LangTag.find? "A lang: \u2003lAnG:lang:x b.c LANG:y".toList =
      some ⟨"A lang:".toList, "lang:x".toList, " b.c LANG:y".toList⟩ := by decide
  obtain ⟨gap, keyword, hfirst, hsplit⟩ := LangTag.find?_eq_some_iff.mp hfound
  obtain ⟨-, htag, -⟩ := parse_takes_first_tag "A lang: \u2003lAnG:lang:x b.c LANG:y"
  obtain ⟨-, htype, -, htitle⟩ := htag _ gap keyword _ _ hfirst hsplit
  exact ⟨⟨gap, keyword, hfirst, hsplit⟩, htype, htitle.trans (by decide)⟩

/-- **Without a tag, the title mentions the file type.**  Beside a link or alone, a title
    mentions the word behind its last dot that stands between two word characters, and
    nothing when it has no such dot.  A lone address mentions nothing, and neither do the
    address and the label of a link: captions with one title mention the same. -/
theorem parse_infers_extension {raw : String} (hfree : ¬ LangTag.HasTag raw.toList) :
    (∀ caption title, ReadsAs raw.toList (some caption) → HasTitle title caption →
      (parse raw).title = some title ∧
      (∀ extension, (parse raw).fileType = some extension ↔
        ∃ before after, title.toList = before ++ '.' :: (extension.toList ++ after) ∧
          IsExtension before extension.toList after) ∧
      ((parse raw).fileType = none ↔ ¬ HasInnerDot title.toList)) ∧
    (∀ href, ReadsAs raw.toList (some (.address href)) → (parse raw).fileType = none) ∧
    (ReadsAs raw.toList none → (parse raw).fileType = none) ∧
    (∀ other caption caption' title, ¬ LangTag.HasTag other.toList →
      ReadsAs raw.toList (some caption) → ReadsAs other.toList (some caption') →
      HasTitle title caption → HasTitle title caption' →
        (parse other).fileType = (parse raw).fileType) := by
  have hread {text : String} {reading : Option Caption} (htext : ¬ LangTag.HasTag text.toList)
      (hreads : ReadsAs text.toList reading) : (parse text).fileType = reading.bind fileType? := by
    rw [fileType_parse_of_not_hasTag htext, readsAs_iff.mp hreads]
  refine ⟨?_, ?_, ?_, ?_⟩
  · intro caption title hreads htitle
    have htype := hread hfree hreads
    rw [Option.bind_some, htitle.fileType?_eq] at htype
    refine ⟨?_, ?_, ?_⟩
    · rw [title_parse, captionText_of_not_hasTag hfree, readsAs_iff.mp hreads, Option.map_some,
        htitle.title_eq]
    · intro extension
      rw [← extension?_eq_some_iff, htype, Option.map_eq_some_iff]
      constructor
      · rintro ⟨word, hword, rfl⟩
        rwa [String.toList_ofList]
      · intro hword
        exact ⟨extension.toList, hword, String.ofList_toList⟩
    · rw [htype, Option.map_eq_none_iff, extension?_eq_none_iff]
  · intro href hreads
    exact hread hfree hreads
  · intro hreads
    exact hread hfree hreads
  · intro other caption caption' title hother hreads hreads' htitle htitle'
    rw [hread hfree hreads, hread hother hreads', Option.bind_some, Option.bind_some,
      htitle.fileType?_eq, htitle'.fileType?_eq]

/-- The last dot inside a word counts, and not that of the address or the one that ends
    the title. -/
theorem parse_infers_extension_archive :
    ¬ LangTag.HasTag "see lib/a.t\u0301ar.gz, 1. /x/y.rb z.py".toList ∧
      ReadsAs "see lib/a.t\u0301ar.gz, 1. /x/y.rb z.py".toList
        (some (.linked "see lib/a.t\u0301ar.gz, 1." "/x/y.rb" "z.py")) ∧
      (parse "see lib/a.t\u0301ar.gz, 1. /x/y.rb z.py").fileType = some "gz" := by
  have hfree : ¬ LangTag.HasTag "see lib/a.t\u0301ar.gz, 1. /x/y.rb z.py".toList :=
    LangTag.cut?_eq_none_iff.mp (by decide)
  have hreads : ReadsAs "see lib/a.t\u0301ar.gz, 1. /x/y.rb z.py".toList
      (some (.linked "see lib/a.t\u0301ar.gz, 1." "/x/y.rb" "z.py")) := readsAs_iff.mpr (by decide)
  obtain ⟨htitled, -⟩ := parse_infers_extension hfree
  obtain ⟨-, htype, -⟩ := htitled _ _ hreads (.linked _ _)
  have hextension : extension? "see lib/a.t\u0301ar.gz, 1.".toList = some "gz".toList := by
    decide +kernel
  exact ⟨hfree, hreads, (htype "gz").mpr (extension?_eq_some_iff.mp hextension)⟩

end Params

end CodeFigure
