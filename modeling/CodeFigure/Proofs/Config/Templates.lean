/-
  CodeFigure/Proofs/Config/Templates.lean
  =======================================
  **A value with references means what its template means.**

  A template is written as a value, and the value is cut into the pieces of the template,
  segment by segment (`pieces_written`): a segment that fits in front of the next one is
  not read beyond its end.  Only pieces are looked up.  A value that is put in for a
  variable, or a default, has been cut already, or was never part of the text, so neither
  is read again.

  The pieces are looked up from left to right, so the first variable that has to be set and
  is not is the error (`lookUpAll_pieces`).
-/
import CodeFigure.Config.Template
import CodeFigure.Proofs.Config.Stages
import CodeFigure.Proofs.Text.Padding

namespace CodeFigure.Expansion

open CodeFigure.Text

/-! ### Names -/

theorem isNameChar_of_isAsciiWord {c : Char} (hc : isAsciiWord c = true) : isNameChar c = true := by
  rw [isAsciiWord, Bool.or_eq_true] at hc
  rw [isNameChar, Bool.or_eq_true]
  refine hc.imp_left fun halnum => ?_
  rw [isAlphanumeric, inClass_of_lt (toNat_lt_of_isAlphanum halnum), halnum]

variable {name fallback inside rest : List Char}

theorem IsIdentifier.ne_nil (hname : IsIdentifier name) : name ≠ [] := by
  obtain ⟨-, c, hc, -⟩ := hname
  rintro rfl
  cases hc

theorem isIdentifier_cons {c : Char} (hword : (c :: rest).all isAsciiWord = true)
    (hletter : c.isDigit = false) : IsIdentifier (c :: rest) :=
  ⟨List.all_eq_true.mp hword, c, rfl, hletter⟩

theorem IsIdentifier.not_mem (hname : IsIdentifier name) {c : Char} (hc : isAsciiWord c = false) :
    c ∉ name := by
  intro hmem
  cases hc.symm.trans (hname.1 c hmem)

/-! ### Cutting at a default -/

theorem cutAtDefault?_cons_of_ne {c : Char} (hc : c ≠ ':') (s : List Char) :
    cutAtDefault? (c :: s) = (cutAtDefault? s).map fun cut => (c :: cut.1, cut.2) := by
  rw [cutAtDefault?]
  rintro rest rfl
  exact absurd rfl hc

theorem cutAtDefault?_append (hname : ':' ∉ name) (s : List Char) :
    cutAtDefault? (name ++ s) = (cutAtDefault? s).map fun cut => (name ++ cut.1, cut.2) := by
  induction name with
  | nil => simp
  | cons c name ih =>
    have hc : c ≠ ':' := fun h => List.ne_of_not_mem_cons hname h.symm
    rw [List.cons_append, cutAtDefault?_cons_of_ne hc, ih (List.not_mem_of_not_mem_cons hname),
      Option.map_map]
    rfl

theorem braced_of_not_mem (hname : ':' ∉ name) : braced name = .variable name none := by
  have hcut : cutAtDefault? name = none := by
    have happend := cutAtDefault?_append hname []
    rw [List.append_nil] at happend
    rw [happend, cutAtDefault?, Option.map_none]
  rw [braced, hcut]

theorem braced_withDefault (hname : IsIdentifier name) :
    braced (name ++ ':' :: '-' :: fallback) = .variable name (some fallback) := by
  have hcut : cutAtDefault? (name ++ ':' :: '-' :: fallback) = some (name, fallback) := by
    rw [cutAtDefault?_append (hname.not_mem (by decide)), cutAtDefault?, Option.map_some,
      List.append_nil]
  obtain ⟨c, word, rfl⟩ := List.exists_cons_of_ne_nil hname.ne_nil
  rw [braced, hcut]

/-! ### Pieces -/

theorem pieces_cons_of_ne {c : Char} (hc : c ≠ '$') (rest : List Char) :
    pieces (c :: rest) = .char c :: pieces rest := by
  rw [pieces]
  · rintro _ rfl
    exact absurd rfl hc
  · rintro _ rfl
    exact absurd rfl hc
  · rintro rfl
    exact absurd rfl hc

theorem pieces_append_literal (htext : '$' ∉ inside) (rest : List Char) :
    pieces (inside ++ rest) = inside.map .char ++ pieces rest := by
  induction inside with
  | nil => rfl
  | cons c inside ih =>
    have hc : c ≠ '$' := fun h => List.ne_of_not_mem_cons htext h.symm
    rw [List.cons_append, pieces_cons_of_ne hc, ih (List.not_mem_of_not_mem_cons htext),
      List.map_cons, List.cons_append]

/-- Braces end at the first `}`. -/
theorem pieces_braces (hinside : '}' ∉ inside) (rest : List Char) :
    pieces ('$' :: '{' :: (inside ++ '}' :: rest)) = braced inside :: pieces rest := by
  have hall : ∀ c ∈ inside, isInsideBraces c = true := by
    intro c hc
    rw [isInsideBraces, bne_iff_ne]
    rintro rfl
    exact hinside hc
  have hstop : ∀ c ∈ ('}' :: rest).head?, isInsideBraces c = false := by
    rintro _ ⟨⟩
    decide
  rw [pieces, takeWhile_append_of_head hall hstop, dropWhile_append_of_head hall hstop]
  simp

/-- Without braces a name ends where no character of a name follows. -/
theorem pieces_bare (hname : IsIdentifier name) (hrest : ∀ c ∈ rest.head?, isNameChar c = false) :
    pieces ('$' :: (name ++ rest)) = .variable name none :: pieces rest := by
  have hall : ∀ c ∈ name, isNameChar c = true := fun c hc =>
    isNameChar_of_isAsciiWord (hname.1 c hc)
  have hne : ¬ name.isEmpty = true := by simpa using hname.ne_nil
  have hhead {d : Char} (hd : isAsciiWord d = false) (s : List Char) : name ++ rest ≠ d :: s := by
    intro hsame
    obtain ⟨c, word, rfl⟩ := List.exists_cons_of_ne_nil hname.ne_nil
    exact List.ne_of_not_mem_cons (hname.not_mem hd) (List.cons.inj hsame).1.symm
  rw [pieces]
  · rw [takeWhile_append_of_head hall hrest, dropWhile_append_of_head hall hrest, if_neg hne]
  · exact hhead (by decide)
  · exact hhead (by decide)

/-! ### Segments -/

def Segment.pieces : Segment → List Piece
  | .literal text => text.map .char
  | .bare name => [.variable name none]
  | .braced name => [.variable name none]
  | .withDefault name fallback => [.variable name (some fallback)]

variable {segment : Segment} {template : List Segment}

/-- A segment that fits is read up to its end. -/
theorem pieces_append_of_fits (hfits : segment.Fits rest) :
    pieces (segment.written ++ rest) = segment.pieces ++ pieces rest := by
  cases segment with
  | literal text => exact pieces_append_literal hfits rest
  | bare name => exact pieces_bare hfits.1 hfits.2
  | braced name =>
    have hname : IsIdentifier name := hfits
    have hread := pieces_braces (hname.not_mem (by decide)) rest
    rw [braced_of_not_mem (hname.not_mem (by decide))] at hread
    simpa [Segment.written, Segment.pieces] using hread
  | withDefault name fallback =>
    obtain ⟨hname, hfallback⟩ := hfits
    have hinside : '}' ∉ name ++ ':' :: '-' :: fallback := by
      simp [hname.not_mem (c := '}') (by decide), hfallback]
    have hread := pieces_braces hinside rest
    rw [braced_withDefault hname] at hread
    simpa [Segment.written, Segment.pieces] using hread

/-- **A template is cut into the pieces of its segments.** -/
theorem pieces_written (hfits : WellFormed template) :
    pieces (written template) = template.flatMap Segment.pieces := by
  induction template with
  | nil => rw [written, List.flatMap_nil, pieces, List.flatMap_nil]
  | cons segment rest ih =>
    have hread := pieces_append_of_fits hfits.1
    rw [ih hfits.2] at hread
    rw [List.flatMap_cons, ← hread, written, List.flatMap_cons]
    rfl

/-! ### Looking up -/

variable {environment : Environment}

theorem lookUp_of_some {text : List Char} {fallback : Option (List Char)}
    (hvalue : (valueOf? environment name).or fallback = some text) :
    (Piece.variable name fallback).lookUp environment = .ok text := by
  rw [valueOf?] at hvalue
  cases hset : environment (String.ofList name) with
  | some value =>
    rw [hset, Option.map_some, Option.some_or] at hvalue
    cases hvalue
    simp only [Piece.lookUp, hset]
  | none =>
    rw [hset, Option.map_none, Option.none_or] at hvalue
    simp only [Piece.lookUp, hset, hvalue]

theorem lookUp_of_none (hunset : valueOf? environment name = none) :
    (Piece.variable name none).lookUp environment = .error (String.ofList name) := by
  rw [valueOf?, Option.map_eq_none_iff] at hunset
  simp only [Piece.lookUp, hunset]

theorem lookUpAll_cons_of_ok {piece : Piece} {text : List Char}
    (hpiece : piece.lookUp environment = .ok text) (behind : List Piece) :
    lookUpAll environment (piece :: behind) = (lookUpAll environment behind).map (text ++ ·) := by
  rw [lookUpAll, hpiece]
  cases lookUpAll environment behind with
  | error name => rfl
  | ok texts => rfl

theorem lookUpAll_literal (text : List Char) (behind : List Piece) :
    lookUpAll environment (text.map .char ++ behind) =
      (lookUpAll environment behind).map (text ++ ·) := by
  induction text with
  | nil =>
    rw [List.map_nil, List.nil_append]
    cases lookUpAll environment behind with
    | error name => rfl
    | ok texts => rfl
  | cons c text ih =>
    have hchar : (Piece.char c).lookUp environment = .ok [c] := rfl
    rw [List.map_cons, List.cons_append, lookUpAll_cons_of_ok hchar, ih]
    cases lookUpAll environment behind with
    | error name => rfl
    | ok texts => rfl

theorem meaning?_eq_none_iff :
    segment.meaning? environment = none ↔
      ∃ name ∈ segment.required?, valueOf? environment name = none := by
  cases segment with
  | literal text => simp [Segment.meaning?, Segment.required?]
  | bare name => simp [Segment.meaning?, Segment.required?]
  | braced name => simp [Segment.meaning?, Segment.required?]
  | withDefault name fallback => simp [Segment.meaning?, Segment.required?]

/-- A segment that stands for something is replaced by it. -/
theorem lookUpAll_append_of_some {text : List Char}
    (hmeaning : segment.meaning? environment = some text) (behind : List Piece) :
    lookUpAll environment (segment.pieces ++ behind) =
      (lookUpAll environment behind).map (text ++ ·) := by
  cases segment with
  | literal text' =>
    cases hmeaning
    exact lookUpAll_literal text behind
  | bare name =>
    refine lookUpAll_cons_of_ok (lookUp_of_some ?_) behind
    rw [Option.or_none]
    exact hmeaning
  | braced name =>
    refine lookUpAll_cons_of_ok (lookUp_of_some ?_) behind
    rw [Option.or_none]
    exact hmeaning
  | withDefault name fallback =>
    refine lookUpAll_cons_of_ok (lookUp_of_some ?_) behind
    rw [Option.or_some]
    exact hmeaning

theorem lookUpAll_append_of_none (hrequired : segment.required? = some name)
    (hunset : valueOf? environment name = none) (behind : List Piece) :
    lookUpAll environment (segment.pieces ++ behind) = .error (String.ofList name) := by
  have hfirst : segment.pieces = [.variable name none] := by
    cases segment with
    | literal text => cases hrequired
    | bare other => cases hrequired; rfl
    | braced other => cases hrequired; rfl
    | withDefault other fallback => cases hrequired
  rw [hfirst, List.singleton_append, lookUpAll, lookUp_of_none hunset]

theorem missing_cons_of_some {text : List Char}
    (hmeaning : segment.meaning? environment = some text) (rest : List Segment) :
    missing environment (segment :: rest) = missing environment rest := by
  unfold missing
  cases hrequired : segment.required? with
  | none => rw [List.filterMap_cons_none hrequired]
  | some name =>
    have hset : (valueOf? environment name).isNone = false := by
      apply Bool.eq_false_iff.mpr
      intro hunset
      have hnone := meaning?_eq_none_iff.mpr ⟨name, hrequired, Option.isNone_iff_eq_none.mp hunset⟩
      cases hmeaning.symm.trans hnone
    rw [List.filterMap_cons_some hrequired, List.filter_cons_of_neg (by rw [hset]; decide)]

theorem missing_cons_of_none (hrequired : segment.required? = some name)
    (hunset : valueOf? environment name = none) (rest : List Segment) :
    missing environment (segment :: rest) = name :: missing environment rest := by
  rw [missing, List.filterMap_cons_some hrequired, List.filter_cons_of_pos (by rw [hunset]; rfl),
    missing]

theorem meaning_cons_of_some {text : List Char}
    (hmeaning : segment.meaning? environment = some text) (rest : List Segment) :
    meaning environment (segment :: rest) = text ++ meaning environment rest := by
  rw [meaning, List.flatMap_cons, hmeaning, Option.getD_some, meaning]

/-- **Looking up a template.**  It stands for the row of what its segments stand for, unless
    a required variable is not set. -/
theorem lookUpAll_pieces (environment : Environment) (template : List Segment) :
    lookUpAll environment (template.flatMap Segment.pieces) =
      match missing environment template with
      | [] => .ok (meaning environment template)
      | name :: _ => .error (String.ofList name) := by
  induction template with
  | nil => rfl
  | cons segment rest ih =>
    rw [List.flatMap_cons]
    cases hmeaning : segment.meaning? environment with
    | some text =>
      rw [lookUpAll_append_of_some hmeaning, ih, missing_cons_of_some hmeaning,
        meaning_cons_of_some hmeaning]
      cases missing environment rest with
      | nil => rfl
      | cons name names => rfl
    | none =>
      obtain ⟨name, hrequired, hunset⟩ := meaning?_eq_none_iff.mp hmeaning
      rw [lookUpAll_append_of_none hrequired hunset, missing_cons_of_none hrequired hunset]

theorem mem_missing_iff :
    name ∈ missing environment template ↔
      ∃ segment ∈ template, segment.required? = some name ∧ valueOf? environment name = none := by
  rw [missing, List.mem_filter, List.mem_filterMap, Option.isNone_iff_eq_none]
  constructor
  · rintro ⟨⟨segment, hmem, hrequired⟩, hunset⟩
    exact ⟨segment, hmem, hrequired, hunset⟩
  · rintro ⟨segment, hmem, hrequired, hunset⟩
    exact ⟨⟨segment, hmem, hrequired⟩, hunset⟩

/-! ### Braces -/

theorem hasBraces_eq_true_iff {s : List Char} : hasBraces s = true ↔ ['$', '{'] <:+: s := by
  fun_induction hasBraces s with
  | case1 rest => exact iff_of_true rfl ⟨[], rest, rfl⟩
  | case2 c rest hne ih =>
    rw [ih, List.infix_cons_iff, or_iff_right]
    rintro ⟨behind, hsplit⟩
    obtain ⟨hc, hrest⟩ := List.cons.inj hsplit
    exact hne behind hc.symm hrest.symm
  | case3 => simp

theorem prefix_written_of_isBraced (hbraced : segment.isBraced = true) :
    ['$', '{'] <+: segment.written := by
  cases segment with
  | literal text => cases hbraced
  | bare name => cases hbraced
  | braced name => exact ⟨_, rfl⟩
  | withDefault name fallback => exact ⟨_, rfl⟩

theorem hasBraces_written (hbraced : ∃ segment ∈ template, segment.isBraced = true) :
    hasBraces (written template) = true := by
  obtain ⟨segment, hmem, hsegment⟩ := hbraced
  obtain ⟨front, behind, rfl⟩ := List.append_of_mem hmem
  have hinside : segment.written <:+: written (front ++ segment :: behind) := by
    rw [written, List.flatMap_append, List.flatMap_cons, ← List.append_assoc]
    exact List.infix_append _ _ _
  exact hasBraces_eq_true_iff.mpr ((prefix_written_of_isBraced hsegment).isInfix.trans hinside)

/-- **A template is expanded in one pass.** -/
theorem expand_written (environment : Environment) (hfits : WellFormed template)
    (hbraced : ∃ segment ∈ template, segment.isBraced = true) :
    expand environment (String.ofList (written template)) =
      match missing environment template with
      | [] => .ok (String.ofList (meaning environment template))
      | name :: _ => .error (String.ofList name) := by
  rw [expand, String.toList_ofList, if_pos (hasBraces_written hbraced), pieces_written hfits,
    lookUpAll_pieces]
  cases missing environment template with
  | nil => rfl
  | cons name names => rfl

theorem expand_of_no_braces (environment : Environment) {value : String}
    (hvalue : ¬ ['$', '{'] <:+: value.toList) : expand environment value = .ok value := by
  rw [expand, if_neg (fun hbraces => hvalue (hasBraces_eq_true_iff.mp hbraces))]

end CodeFigure.Expansion

namespace CodeFigure.Config

open CodeFigure.Expansion

variable {environment : Environment} {field : ExpandedField} {template : List Segment}

theorem expandField_of_none_missing (hfits : WellFormed template)
    (hbraced : ∃ segment ∈ template, segment.isBraced = true)
    (hmissing : missing environment template = []) :
    expandField environment field (String.ofList (written template)) =
      .ok (String.ofList (meaning environment template)) := by
  have hexpand := expand_written environment hfits hbraced
  rw [hmissing] at hexpand
  exact expandField_eq_ok_iff.mpr hexpand

theorem expandField_of_missing {name : List Char} {names : List (List Char)}
    (hfits : WellFormed template) (hbraced : ∃ segment ∈ template, segment.isBraced = true)
    (hmissing : missing environment template = name :: names) :
    expandField environment field (String.ofList (written template)) =
      .error (.unsetVariable field (String.ofList name)) := by
  have hexpand := expand_written environment hfits hbraced
  rw [hmissing] at hexpand
  exact expandField_eq_error_iff.mpr ⟨_, hexpand, rfl⟩

/-- **Variables are substituted once, from left to right.**  A setting that is written from a
    template with braces becomes the text of the template, with the value of each variable
    that is set and the default of each other one as they are, if every variable without a
    default is set; else the error names the first that is not.  A setting without `${` is
    taken as it is. -/
theorem expandField_substitutes (environment : Environment) (field : ExpandedField) :
    (∀ template, WellFormed template → (∃ segment ∈ template, segment.isBraced = true) →
      let result := expandField environment field (String.ofList (written template))
      (missing environment template = [] →
        result = .ok (String.ofList (meaning environment template))) ∧
      (∀ name names, missing environment template = name :: names →
        result = .error (.unsetVariable field (String.ofList name))) ∧
      ((∃ error, result = .error error) ↔
        ∃ segment ∈ template, ∃ name ∈ segment.required?,
          Expansion.valueOf? environment name = none)) ∧
    ∀ value : String, ¬ ['$', '{'] <:+: value.toList →
      expandField environment field value = .ok value := by
  constructor
  · intro template hfits hbraced result
    refine ⟨expandField_of_none_missing hfits hbraced,
      fun _ _ => expandField_of_missing hfits hbraced, ?_⟩
    constructor
    · rintro ⟨error, herror⟩
      cases hmissing : missing environment template with
      | nil => cases herror.symm.trans (expandField_of_none_missing hfits hbraced hmissing)
      | cons name names =>
        have hlisted : name ∈ missing environment template := by
          rw [hmissing]
          exact List.mem_cons_self
        obtain ⟨segment, hmem, hrequired, hunset⟩ := mem_missing_iff.mp hlisted
        exact ⟨segment, hmem, name, hrequired, hunset⟩
    · rintro ⟨segment, hmem, name, hrequired, hunset⟩
      have hlisted : name ∈ missing environment template :=
        mem_missing_iff.mpr ⟨segment, hmem, hrequired, hunset⟩
      obtain ⟨first, names, hmissing⟩ := List.exists_cons_of_ne_nil (List.ne_nil_of_mem hlisted)
      exact ⟨_, expandField_of_missing hfits hbraced hmissing⟩
  · intro value hvalue
    exact expandField_eq_ok_iff.mpr (expand_of_no_braces environment hvalue)

/-- What looks like a reference in a value or in a default is not one. -/
theorem expandField_substitutes_dollars :
    let environment : Environment := fun name =>
      if name = "HOST" then some "h$\x7bPORT\x7d$$" else none
    expandField environment .baseUrl "http://$\x7bHOST\x7d:$\x7bPORT:-$HOST:-\x7b\x7d/$HOST" =
        .ok "http://h$\x7bPORT\x7d$$:$HOST:-\x7b/h$\x7bPORT\x7d$$" ∧
      expandField environment .before "$\x7bPORT:-\x7d$A$\x7bB\x7d" =
        .error (.unsetVariable .before "A") ∧
      expandField environment .after "$HOST\x7b$A\x7d" = .ok "$HOST\x7b$A\x7d" := by
  intro environment
  have hhost : IsIdentifier "HOST".toList := isIdentifier_cons (by decide) (by decide)
  have hport : IsIdentifier "PORT".toList := isIdentifier_cons (by decide) (by decide)
  have ha : IsIdentifier "A".toList := isIdentifier_cons (by decide) (by decide)
  have hb : IsIdentifier "B".toList := isIdentifier_cons (by decide) (by decide)
  have hnone : ∀ c ∈ ([] : List Char).head?, isNameChar c = false := by rintro _ ⟨⟩
  have hdollar : ∀ c ∈ ('$' :: "\x7bB\x7d".toList).head?, isNameChar c = false := by
    rintro _ ⟨⟩
    decide
  let address : List Segment := [.literal "http://".toList, .braced "HOST".toList,
    .literal ":".toList, .withDefault "PORT".toList "$HOST:-\x7b".toList, .literal "/".toList,
    .bare "HOST".toList]
  have htext {text rest : List Char} (hdollars : '$' ∉ text) : (Segment.literal text).Fits rest :=
    hdollars
  have haddress : WellFormed address :=
    ⟨htext (by decide), hhost, htext (by decide), ⟨hport, by decide⟩, htext (by decide),
      ⟨hhost, hnone⟩, trivial⟩
  let markup : List Segment := [.withDefault "PORT".toList [], .bare "A".toList, .braced "B".toList]
  have hmarkup : WellFormed markup := ⟨⟨hport, by decide⟩, ⟨ha, hdollar⟩, hb, trivial⟩
  refine ⟨?_, ?_, ?_⟩
  · obtain ⟨hok, -, -⟩ := (expandField_substitutes environment .baseUrl).1 address haddress
      ⟨_, List.mem_cons_of_mem _ List.mem_cons_self, rfl⟩
    exact hok (by decide +kernel)
  · obtain ⟨-, herror, -⟩ := (expandField_substitutes environment .before).1 markup hmarkup
      ⟨_, List.mem_cons_self, rfl⟩
    exact herror _ ["B".toList] (by decide +kernel)
  · exact (expandField_substitutes environment .after).2 _ (by decide +kernel)

end CodeFigure.Config
