/-
  CodeFigure/Proofs/Caption/Links.lean
  ====================================
  **The walk over a caption reads its tokens.**

  The link of a caption is found by one walk over its characters, and its rules are
  about tokens (`ReadsAs`).  The walk cuts a text behind the last blank that an
  address follows.

  Such a cut stands in front of a whole token: a token begins behind the blank, and
  whether it is an address is decided before the next blank.  So the places for a cut
  are the addresses among the tokens after the first
  (`StartsAfterBlank.isLaterAddress`), the last of them is the link
  (`isLink_iff_hasNoCut`), and every text is read by its tokens in exactly one way
  (`readsAs_iff`).
-/
import CodeFigure.Proofs.Caption.Words

namespace CodeFigure.Caption

open CodeFigure.Text

/-! ### Cuts and tokens -/

theorem startsAddress_token_iff {before token after : List Char}
    (htoken : IsToken before token after) :
    startsAddress (token ++ after) = true ↔ IsAddress token := by
  cases after with
  | nil => rw [List.append_nil, startsAddress_iff_isAddress htoken.ink]
  | cons b rest =>
    have hb : isBlank b = true := htoken.blankAfter b rfl
    rw [startsAddress_append_blank hb, startsAddress_iff_isAddress htoken.ink]

theorem takeWhile_token {before token after : List Char} (htoken : IsToken before token after) :
    (token ++ after).takeWhile isInk = token := by
  apply takeWhile_append_of_head (isInk_of_isInkText htoken.ink)
  intro c hc
  simp [isInk, htoken.blankAfter c hc]

theorem dropWhile_token {before token after : List Char} (htoken : IsToken before token after) :
    (token ++ after).dropWhile isInk = after := by
  apply dropWhile_append_of_head (isInk_of_isInkText htoken.ink)
  intro c hc
  simp [isInk, htoken.blankAfter c hc]

theorem IsLaterAddress.before_ne_nil {before token after : List Char}
    (hlater : IsLaterAddress before token after) : before ≠ [] := by
  rintro rfl
  exact hlater.notFirst isBlankText_nil

theorem IsLaterAddress.startsAfterBlank {before token after : List Char}
    (hlater : IsLaterAddress before token after) : StartsAfterBlank before (token ++ after) := by
  have hlast := List.getLast?_eq_some_getLast hlater.before_ne_nil
  refine ⟨⟨_, hlast, hlater.isToken.blankBefore _ hlast⟩, ?_⟩
  exact (startsAddress_token_iff hlater.isToken).mpr hlater.isAddress

/-- The token behind a cut is an address, and not the first token if there is
    another in front of the cut. -/
theorem StartsAfterBlank.isLaterAddress {front back : List Char}
    (hstarts : StartsAfterBlank front back) (hfront : ¬ IsBlankText front) :
    IsLaterAddress front (back.takeWhile isInk) (back.dropWhile isInk) := by
  obtain ⟨c, rest, rfl, hc⟩ := isInk_of_startsAddress hstarts.address
  have htoken : IsToken [] ((c :: rest).takeWhile isInk) ((c :: rest).dropWhile isInk) :=
    isToken_takeWhile hc
  refine ⟨⟨htoken.nonempty, htoken.ink, ?_, htoken.blankAfter⟩, ?_, hfront⟩
  · intro d hd
    obtain ⟨e, he, hblank⟩ := hstarts.blank
    cases Option.mem_unique hd he
    exact hblank
  · rw [← startsAddress_token_iff htoken, List.takeWhile_append_dropWhile]
    exact hstarts.address

theorem isLink_iff_hasNoCut {before token after : List Char}
    (hlater : IsLaterAddress before token after) :
    IsLink before token after ↔ HasNoCut (token ++ after) := by
  constructor
  · intro hlink front back hsplit hstarts
    rcases List.append_eq_append_iff.mp hsplit with ⟨between, rfl, hafter⟩ | ⟨between, htoken, -⟩
    · -- the cut is behind the token
      have hne : token ++ between ≠ [] := by simp [hlater.isToken.nonempty]
      have hstarts' : StartsAfterBlank (before ++ token ++ between) back := by
        rw [List.append_assoc]
        exact (startsAfterBlank_append_iff hne).mpr hstarts
      apply hlink.last between (back.takeWhile isInk) (back.dropWhile isInk)
      · rw [List.append_assoc, List.takeWhile_append_dropWhile, hafter]
      · apply hstarts'.isLaterAddress
        intro hblank
        apply hlater.notFirst
        intro c hc
        exact hblank c (by simp [hc])
    · -- the cut is inside the token, where there is no blank
      obtain ⟨c, hc, hblank⟩ := hstarts.blank
      have hmem : c ∈ token := by
        rw [htoken]
        exact List.mem_append_left _ (List.mem_of_getLast? hc)
      have hink := hlater.isToken.ink c hmem
      rw [hblank] at hink
      cases hink
  · intro hnone
    refine ⟨hlater, ?_⟩
    intro between token' after' hafter hlater'
    have hne : token ++ between ≠ [] := by simp [hlater.isToken.nonempty]
    have hstarts := hlater'.startsAfterBlank
    rw [List.append_assoc, startsAfterBlank_append_iff hne] at hstarts
    apply hnone (token ++ between) (token' ++ after') _ hstarts
    rw [hafter]
    simp only [List.append_assoc]

/-! ### Texts with blanks in front -/

theorem startsAfterBlank_trimStart_iff {before back : List Char} (hbefore : ¬ IsBlankText before) :
    StartsAfterBlank (trimStart before) back ↔ StartsAfterBlank before back := by
  obtain ⟨lead, -, hsplit⟩ := exists_blank_append_trimStart before
  have hne : trimStart before ≠ [] := by
    intro hnil
    exact hbefore (trimStart_eq_nil_iff.mp hnil)
  have happend : StartsAfterBlank (lead ++ trimStart before) back ↔
      StartsAfterBlank (trimStart before) back := startsAfterBlank_append_iff hne
  rw [← hsplit] at happend
  exact happend.symm

theorem cutAtLastAddress?_of_isLink {before token after : List Char}
    (hlink : IsLink before token after) :
    cutAtLastAddress? (trimStart (before ++ token ++ after)) =
      some (trimStart before, token ++ after) := by
  have hlater := hlink.later
  rw [cutAtLastAddress?_eq_some_iff, startsAfterBlank_trimStart_iff hlater.notFirst,
    List.append_assoc, trimStart_append_of_not_blank hlater.notFirst]
  exact ⟨rfl, hlater.startsAfterBlank, (isLink_iff_hasNoCut hlater).mp hlink⟩

/-- A cut behind the leading blanks of a text is one in the text, and something is
    in front of it. -/
theorem exists_before_of_startsAfterBlank {text front back : List Char}
    (hsplit : trimStart text = front ++ back) (hstarts : StartsAfterBlank front back) :
    ∃ before, text = before ++ back ∧ trimStart before = front ∧ ¬ IsBlankText before ∧
      StartsAfterBlank before back := by
  obtain ⟨lead, hlead, htext⟩ := exists_blank_append_trimStart text
  obtain ⟨c, rest, rfl⟩ := List.exists_cons_of_ne_nil (ne_nil_of_endsBlank hstarts.blank)
  have hc : isBlank c = false := head_dropWhile_eq_false (hsplit.trans (List.cons_append ..))
  have hvisible : ¬ IsBlankText (lead ++ c :: rest) := by
    intro hblank
    have hc' := hblank c (by simp)
    rw [hc] at hc'
    cases hc'
  refine ⟨lead ++ c :: rest, ?_, ?_, hvisible, ?_⟩
  · rw [htext, hsplit, List.append_assoc]
  · rw [trimStart_append_of_blank hlead, trimStart_cons_of_ink hc]
  · exact (startsAfterBlank_append_iff (List.cons_ne_nil c rest)).mpr hstarts

theorem exists_isLink_of_cut {text front link : List Char}
    (hcut : cutAtLastAddress? (trimStart text) = some (front, link)) :
    ∃ before token after, text = before ++ token ++ after ∧ IsLink before token after := by
  obtain ⟨hsplit, hstarts, hnone⟩ := cutAtLastAddress?_eq_some_iff.mp hcut
  obtain ⟨before, htext, -, hvisible, hstarts'⟩ := exists_before_of_startsAfterBlank hsplit hstarts
  have hlater := hstarts'.isLaterAddress hvisible
  refine ⟨before, link.takeWhile isInk, link.dropWhile isInk, ?_, ?_⟩
  · rw [List.append_assoc, List.takeWhile_append_dropWhile, htext]
  · rw [isLink_iff_hasNoCut hlater, List.takeWhile_append_dropWhile]
    exact hnone

theorem hasNoLink_iff {text : List Char} :
    HasNoLink text ↔ cutAtLastAddress? (trimStart text) = none := by
  rw [cutAtLastAddress?_eq_none_iff]
  constructor
  · intro hnone front back hsplit hstarts
    obtain ⟨before, htext, -, hvisible, hstarts'⟩ :=
      exists_before_of_startsAfterBlank hsplit hstarts
    apply hnone before (back.takeWhile isInk) (back.dropWhile isInk)
    · rw [List.append_assoc, List.takeWhile_append_dropWhile, htext]
    · exact hstarts'.isLaterAddress hvisible
  · rintro hnone before token after rfl hlater
    apply hnone (trimStart before) (token ++ after)
    · rw [List.append_assoc, trimStart_append_of_not_blank hlater.notFirst]
    · exact (startsAfterBlank_trimStart_iff hlater.notFirst).mpr hlater.startsAfterBlank

/-! ### Readings -/

theorem labelOf_iff {after : List Char} {label : String} :
    LabelOf after label ↔ label = labelOrDefault (trim after) := by
  unfold LabelOf labelOrDefault
  by_cases hafter : IsBlankText after
  · simp [hafter, trim_eq_nil_iff.mpr hafter]
  · have hne : trim after ≠ [] := by
      intro hnil
      exact hafter (trim_eq_nil_iff.mp hnil)
    obtain ⟨c, rest, hcons⟩ := List.exists_cons_of_ne_nil hne
    simp [hafter, hcons]

theorem plain?_trim {text : List Char} :
    plain? (trim text) =
      if IsBlankText text then none
      else if (trim text).all isInk && startsAddress (trim text) then
        some (.address (String.ofList (trim text)))
      else some (.titled (String.ofList (trim text))) := by
  unfold plain?
  by_cases htext : IsBlankText text
  · rw [trim_eq_nil_iff.mpr htext, if_pos htext]
  · rw [if_neg htext]
    split
    · next hnil => exact absurd (trim_eq_nil_iff.mp hnil) htext
    · rfl

theorem isLoneAddress_iff {text : List Char} :
    IsLoneAddress text ↔ ((trim text).all isInk && startsAddress (trim text)) = true := by
  rw [Bool.and_eq_true, all_isInk_eq_true_iff, IsLoneAddress]
  constructor
  · rintro ⟨hink, haddress⟩
    exact ⟨hink, (startsAddress_iff_isAddress hink).mpr haddress⟩
  · rintro ⟨hink, haddress⟩
    exact ⟨hink, (startsAddress_iff_isAddress hink).mp haddress⟩

theorem not_isBlankText_of_isLoneAddress {text : List Char} (hlone : IsLoneAddress text) :
    ¬ IsBlankText text := by
  intro hblank
  obtain ⟨-, mark, rest, -, hrest, hsplit⟩ := hlone
  rw [trim_eq_nil_iff.mpr hblank] at hsplit
  exact hrest (List.append_eq_nil_iff.mp hsplit.symm).2

theorem hasNoLink_of_isBlankText {text : List Char} (htext : IsBlankText text) :
    HasNoLink text := by
  rw [hasNoLink_iff, trimStart_eq_nil_iff.mpr htext]
  rfl

theorem ofText?_of_isLink {before token after : List Char} (hlink : IsLink before token after) :
    ofText? (before ++ token ++ after) =
      some (.linked (String.ofList (trim before)) (String.ofList token)
        (labelOrDefault (trim after))) := by
  have htoken := hlink.later.isToken
  rw [ofText?, linked?_of_cut (cutAtLastAddress?_of_isLink hlink), takeWhile_token htoken,
    dropWhile_token htoken]
  rfl

theorem ofText?_of_hasNoLink {text : List Char} (hnone : HasNoLink text) :
    ofText? text = plain? (trim text) := by
  rw [ofText?, linked?_eq_none (hasNoLink_iff.mp hnone)]

theorem ofText?_of_readsAs {text : List Char} {reading : Option Caption}
    (hreads : ReadsAs text reading) : ofText? text = reading := by
  cases hreads with
  | linked cut link labelled =>
    rw [cut, ofText?_of_isLink link, labelOf_iff.mp labelled]
  | address noLink lone =>
    rw [ofText?_of_hasNoLink noLink, plain?_trim, if_neg (not_isBlankText_of_isLoneAddress lone),
      if_pos (isLoneAddress_iff.mp lone)]
  | titled noLink notLone visible =>
    rw [ofText?_of_hasNoLink noLink, plain?_trim, if_neg visible,
      if_neg (mt isLoneAddress_iff.mpr notLone)]
  | nothing blank =>
    rw [ofText?_of_hasNoLink (hasNoLink_of_isBlankText blank), plain?_trim, if_pos blank]

theorem exists_readsAs (text : List Char) : ∃ reading, ReadsAs text reading := by
  cases hcut : cutAtLastAddress? (trimStart text) with
  | some cut =>
    obtain ⟨before, token, after, hsplit, hlink⟩ := exists_isLink_of_cut hcut
    exact ⟨_, .linked hsplit hlink (labelOf_iff.mpr rfl)⟩
  | none =>
    have hnone := hasNoLink_iff.mpr hcut
    by_cases hblank : IsBlankText text
    · exact ⟨_, .nothing hblank⟩
    · by_cases hlone : IsLoneAddress text
      · exact ⟨_, .address hnone hlone⟩
      · exact ⟨_, .titled hnone hlone hblank⟩

/-- **Captions are read by their tokens.**  Every text has one reading, and the walk
    over its characters finds it. -/
theorem readsAs_iff {text : List Char} {reading : Option Caption} :
    ReadsAs text reading ↔ ofText? text = reading := by
  constructor
  · exact ofText?_of_readsAs
  · rintro rfl
    obtain ⟨reading, hreads⟩ := exists_readsAs text
    rw [ofText?_of_readsAs hreads]
    exact hreads

theorem ofText?_eq_none_iff {text : List Char} : ofText? text = none ↔ IsBlankText text := by
  rw [← readsAs_iff]
  constructor
  · rintro ⟨⟩
    assumption
  · exact .nothing

end CodeFigure.Caption
