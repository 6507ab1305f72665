/-
  CodeFigure/Proofs/Caption/Words.lean
  ====================================
  **What one word and two words read as.**

  Blanks around a text do not change what it reads as (`ofText?_between_blanks`).
  A word alone is an address or a title (`ofText?_word`).  Of two words the second
  may be the link, and then the first is the title (`ofText?_two_words`).

  The parts of a caption stand in its markup as they are, so the length of the markup
  is known from theirs (`length_markup`), and it tells captions apart.
-/
import CodeFigure.Proofs.Caption.Addresses

namespace CodeFigure.Caption

open CodeFigure.Text

/-! ### Reading -/

theorem linked?_of_cut {s before link : List Char}
    (hcut : cutAtLastAddress? s = some (before, link)) :
    linked? s = some (.linked (String.ofList (trimEnd before)) (String.ofList (link.takeWhile isInk))
      (labelOrDefault (trim (link.dropWhile isInk)))) := by
  rw [linked?, hcut]
  rfl

theorem linked?_eq_none {s : List Char} (hcut : cutAtLastAddress? s = none) : linked? s = none := by
  rw [linked?, hcut]
  rfl

theorem linked?_append_of_blank (s : List Char) {tail : List Char} (htail : IsBlankText tail) :
    linked? (s ++ tail) = linked? s := by
  have hstop := isInk_head_of_blank htail
  rw [linked?, linked?, cutAtLastAddress?_append_of_blank s htail, Option.map_map]
  congr 1
  funext cut
  simp only [Function.comp, takeWhile_append_of_stop cut.2 hstop, dropWhile_append_of_stop cut.2 hstop]
  have htrim := trim_append_append isBlankText_nil (cut.2.dropWhile isInk) htail
  rw [List.nil_append] at htrim
  rw [htrim]

/-- **Blanks around a caption mean nothing.** -/
theorem ofText?_between_blanks {lead tail : List Char} (hlead : IsBlankText lead) (s : List Char)
    (htail : IsBlankText tail) : ofText? (lead ++ s ++ tail) = ofText? s := by
  have hlinked : linked? (trimStart (lead ++ s ++ tail)) = linked? (trimStart s) := by
    rw [List.append_assoc, trimStart_append_of_blank hlead]
    by_cases hs : IsBlankText s
    · rw [trimStart_append_of_blank hs, trimStart_eq_nil_iff.mpr htail, trimStart_eq_nil_iff.mpr hs]
    · rw [trimStart_append_of_not_blank hs, linked?_append_of_blank _ htail]
  rw [ofText?, ofText?, hlinked, trim_append_append hlead s htail]

theorem ofText?_blank_append {lead : List Char} (hlead : IsBlankText lead) (s : List Char) :
    ofText? (lead ++ s) = ofText? s := by
  have hboth := ofText?_between_blanks hlead s isBlankText_nil
  rwa [List.append_nil] at hboth

/-- **One word.** -/
theorem ofText?_word {word : List Char} (hword : IsInkText word) (hne : word ≠ []) :
    ofText? word = some (if startsAddress word then .address (String.ofList word)
      else .titled (String.ofList word)) := by
  obtain ⟨c, rest, rfl⟩ := List.exists_cons_of_ne_nil hne
  have hstart : trimStart (c :: rest) = c :: rest :=
    trimStart_cons_of_ink (hword c List.mem_cons_self) rest
  rw [ofText?, hstart, linked?_eq_none (cutAtLastAddress?_of_ink hword), trim_of_ink hword]
  simp only [plain?, all_isInk_eq_true_iff.mpr hword, Bool.true_and]
  split
  · rfl
  · rfl

/-- **Two words.** -/
theorem ofText?_two_words {first second : List Char} {b : Char} (hb : isBlank b = true)
    (hfirst : IsInkText first) (hfirstNe : first ≠ []) (hsecond : IsInkText second)
    (hsecondNe : second ≠ []) :
    ofText? (first ++ b :: second) =
      some (if startsAddress second then
          .linked (String.ofList first) (String.ofList second) defaultLabel
        else .titled (String.ofList (first ++ b :: second))) := by
  have hstart : trimStart (first ++ b :: second) = first ++ b :: second := by
    obtain ⟨c, rest, rfl⟩ := List.exists_cons_of_ne_nil hfirstNe
    exact trimStart_cons_of_ink (hfirst c List.mem_cons_self) _
  have hcut : cutAtLastAddress? (first ++ b :: second) =
      if startsAddress second then some (first ++ [b], second) else none := by
    rw [cutAtLastAddress?_append_blank hb, cutAtLastAddress?_cons,
      cutAtLastAddress?_of_ink hsecond, cutAtLastAddress?_of_ink hfirst, hb, Bool.true_and]
    cases startsAddress second with
    | true => rfl
    | false => rfl
  rw [ofText?, hstart, trim_two_words b hfirst hfirstNe hsecond hsecondNe]
  split at hcut
  · next haddress =>
    rw [linked?_of_cut hcut, takeWhile_isInk_of_ink hsecond, dropWhile_isInk_of_ink hsecond,
      trimEnd_append_of_blank first (isBlankText_singleton hb), trimEnd_of_ink hfirst, if_pos haddress]
    rfl
  · next haddress =>
    rw [linked?_eq_none hcut, if_neg haddress]
    have hmixed : (first ++ b :: second).all isInk = false := by
      simp [isInk, hb]
    obtain ⟨c, rest, rfl⟩ := List.exists_cons_of_ne_nil hfirstNe
    rw [List.cons_append] at hmixed ⊢
    simp only [plain?, hmixed, Bool.false_and]
    rfl

/-! ### Markup -/

theorem markup_titled (title : String) :
    (titled title).markup = "<figcaption><span>" ++ title ++ "</span></figcaption>" := by
  have hclose : "</span></figcaption>" = "</span>" ++ ("" ++ "</figcaption>") := by decide
  unfold markup linkMarkup
  rw [hclose]
  simp only [Caption.title, link?, String.append_assoc]

theorem markup_labelled (title href label : String) :
    (linked title href label).markup =
      "<figcaption><span>" ++ title ++ "</span><a href='" ++ href ++ "'>" ++ label ++
        "</a></figcaption>" := by
  have hopen : "</span><a href='" = "</span>" ++ "<a href='" := by decide
  have hclose : "</a></figcaption>" = "</a>" ++ "</figcaption>" := by decide
  unfold markup linkMarkup
  rw [hopen, hclose]
  simp only [Caption.title, link?, String.append_assoc]

theorem markup_linked (title href : String) :
    (linked title href defaultLabel).markup =
      "<figcaption><span>" ++ title ++ "</span><a href='" ++ href ++ "'>link</a></figcaption>" := by
  have hlabel : "'>link</a></figcaption>" = "'>" ++ (defaultLabel ++ "</a></figcaption>") := by decide
  rw [markup_labelled, hlabel]
  simp only [String.append_assoc]

/-- The markup of a caption has a link in it or none. -/
theorem markup_cases (caption : Caption) :
    (caption.link? = none ∧
      caption.markup = "<figcaption><span>" ++ caption.title ++ "</span></figcaption>") ∨
    ∃ href label, caption.link? = some (href, label) ∧
      caption.markup = "<figcaption><span>" ++ caption.title ++ "</span><a href='" ++ href ++
        "'>" ++ label ++ "</a></figcaption>" := by
  cases caption with
  | titled title => exact .inl ⟨rfl, markup_titled title⟩
  | linked title href label => exact .inr ⟨href, label, rfl, markup_labelled title href label⟩
  | address href =>
    exact .inr ⟨href, defaultLabel, rfl,
      markup_labelled href href defaultLabel⟩

theorem length_markup (caption : Caption) :
    caption.markup.length =
      38 + caption.title.length + (linkMarkup caption.link?).length := by
  have hopen : "<figcaption><span>".length = 18 := by rfl
  have hmiddle : "</span>".length = 7 := by rfl
  have hclose : "</figcaption>".length = 13 := by rfl
  unfold markup
  simp only [String.length_append, hopen, hmiddle, hclose]
  omega

theorem length_linkMarkup (href label : String) :
    (linkMarkup (some (href, label))).length = 15 + href.length + label.length := by
  have hopen : "<a href='".length = 9 := by rfl
  have hmiddle : "'>".length = 2 := by rfl
  have hclose : "</a>".length = 4 := by rfl
  unfold linkMarkup
  simp only [String.length_append, hopen, hmiddle, hclose]
  omega

theorem length_markup_titled (title : String) :
    (titled title).markup.length = 38 + title.length := by
  rw [length_markup]
  rfl

theorem length_markup_linked (title href : String) :
    (linked title href defaultLabel).markup.length = 57 + title.length + href.length := by
  have hlabel : defaultLabel.length = 4 := by rfl
  have hmarkup := length_markup (linked title href defaultLabel)
  simp only [Caption.title, link?, length_linkMarkup, hlabel] at hmarkup
  omega

/-- The markup of one word is no longer than its letters allow. -/
theorem length_markup_word {word : List Char} {caption : Caption} (hword : IsInkText word)
    (hne : word ≠ []) (hread : ofText? word = some caption) :
    caption.markup.length ≤ 57 + word.length + word.length := by
  rw [ofText?_word hword hne] at hread
  split at hread
  · cases hread
    have hmarkup := length_markup_linked (String.ofList word) (String.ofList word)
    rw [String.length_ofList] at hmarkup
    exact Nat.le_of_eq hmarkup
  · cases hread
    rw [length_markup_titled, String.length_ofList]
    omega

theorem length_markup_two_words {first second : List Char} {b : Char} {caption : Caption}
    (hb : isBlank b = true) (hfirst : IsInkText first) (hfirstNe : first ≠ [])
    (hsecond : IsInkText second) (hsecondNe : second ≠ [])
    (hread : ofText? (first ++ b :: second) = some caption) :
    caption.markup.length ≤ 57 + first.length + second.length := by
  rw [ofText?_two_words hb hfirst hfirstNe hsecond hsecondNe] at hread
  split at hread
  · cases hread
    have hmarkup := length_markup_linked (String.ofList first) (String.ofList second)
    rw [String.length_ofList, String.length_ofList] at hmarkup
    exact Nat.le_of_eq hmarkup
  · cases hread
    rw [length_markup_titled, String.length_ofList, List.length_append, List.length_cons]
    omega

end CodeFigure.Caption
