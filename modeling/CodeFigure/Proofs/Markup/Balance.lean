/-
  CodeFigure/Proofs/Markup/Balance.lean
  =====================================
  **Markup is nested part by part.**

  Well-nested markup can be put together from parts, and this file says how:

    * the tags of parts that stand side by side are the tags of the one and then those
      of the other, unless a name runs from one into the other (`tags?_append`);
    * a row of tags that leaves nothing open leaves alone what was open before it
      (`balanced_iff`), so such rows may stand side by side and inside an element.

  How often a tag is written in a text can be read off its row of tags
  (`occurrences_opening`, `occurrences_closing_le`).  So the text of an element writes
  the tags of its name once when nothing inside has the name (`occurrences_element`).
-/
import CodeFigure.Markup.Nesting
import CodeFigure.Proofs.Text.Padding

namespace CodeFigure.Markup

open CodeFigure.Text

/-! ### Balanced rows of tags -/

/-- What is open before `tags` is what is open after them. -/
def Balanced (tags : List Tag) : Prop := ∀ opened, run? opened tags = some opened

/-- Tags that are read do not see what was open further out. -/
theorem run?_append_outer {opened left : List (List Char)} {tags : List Tag}
    (hrun : run? opened tags = some left) (outer : List (List Char)) :
    run? (opened ++ outer) tags = some (left ++ outer) := by
  induction tags generalizing opened with
  | nil =>
    cases hrun
    rfl
  | cons tag tags ih =>
    cases tag with
    | opening name => exact ih hrun
    | closing name =>
      cases opened with
      | nil => cases hrun
      | cons inner opened =>
        simp only [run?, Option.ite_none_right_eq_some] at hrun
        obtain ⟨hname, hrest⟩ := hrun
        rw [List.cons_append, run?, if_pos hname]
        exact ih hrest

theorem balanced_iff {tags : List Tag} : Balanced tags ↔ run? [] tags = some [] := by
  constructor
  · intro hbalanced
    exact hbalanced []
  · intro hrun opened
    exact run?_append_outer hrun opened

theorem wellNested_iff {s : List Char} :
    WellNested s ↔ ∃ tags, tags? s = some tags ∧ Balanced tags := by
  simp only [WellNested, balanced_iff]

theorem balanced_nil : Balanced [] := by
  intro opened
  rfl

theorem Balanced.append {front behind : List Tag} (hfront : Balanced front)
    (hbehind : Balanced behind) : Balanced (front ++ behind) := by
  intro opened
  rw [run?_append, hfront opened, Option.bind_some, hbehind opened]

def element (name : String) (inner : List Tag) : List Tag :=
  .opening name.toList :: inner ++ [.closing name.toList]

theorem Balanced.element {inner : List Tag} (hinner : Balanced inner) (name : String) :
    Balanced (element name inner) := by
  intro opened
  have hclose : run? (name.toList :: opened) [.closing name.toList] = some opened := by
    simp [run?]
  rw [Markup.element, List.cons_append, run?, run?_append, hinner, Option.bind_some, hclose]

theorem Balanced.flatMap {α : Type} {f : α → List Tag} (hf : ∀ a, Balanced (f a)) (as : List α) :
    Balanced (as.flatMap f) := by
  induction as with
  | nil => exact balanced_nil
  | cons a as ih =>
    rw [List.flatMap_cons]
    exact (hf a).append ih

theorem countP_element (p : Tag → Bool) (name : String) (inner : List Tag) :
    (element name inner).countP p =
      inner.countP p + [Tag.opening name.toList, Tag.closing name.toList].countP p := by
  simp only [element, List.countP_cons, List.countP_append, List.countP_nil]
  omega

/-! ### Tags of parts -/

def startsInName (s : List Char) : Bool := s.head?.any Char.isAlphanum

def endsInName (s : List Char) : Bool := s.getLast?.any Char.isAlphanum

/-- No name runs from `s` into `t`. -/
def Apart (s t : List Char) : Prop := endsInName s = true → startsInName t = false

theorem apart_of_ends {s : List Char} (hs : endsInName s = false) (t : List Char) : Apart s t := by
  intro hname
  rw [hs] at hname
  cases hname

theorem apart_of_starts (s : List Char) {t : List Char} (ht : startsInName t = false) :
    Apart s t := by
  intro _
  exact ht

theorem endsInName_append (s : List Char) {t : List Char} (ht : t ≠ []) :
    endsInName (s ++ t) = endsInName t := by
  rw [endsInName, endsInName, List.getLast?_append, List.getLast?_eq_some_getLast ht,
    Option.some_or]

theorem Apart.of_cons {c : Char} {s t : List Char} (hapart : Apart (c :: s) t) : Apart s t := by
  intro hends
  cases s with
  | nil => cases hends
  | cons d s =>
    apply hapart
    rwa [← endsInName_append [c] (List.cons_ne_nil d s)] at hends

/-- A name that is read stays what it is when a part without more of it follows. -/
theorem takeWhile_append_of_apart {s t : List Char} (hname : s.takeWhile Char.isAlphanum ≠ [])
    (hapart : Apart s t) : (s ++ t).takeWhile Char.isAlphanum = s.takeWhile Char.isAlphanum := by
  by_cases hall : ∀ c ∈ s, c.isAlphanum = true
  · have hs : s ≠ [] := by
      rintro rfl
      exact hname rfl
    have hends : endsInName s = true := by
      rw [endsInName, List.getLast?_eq_some_getLast hs]
      exact hall _ (List.getLast_mem hs)
    apply takeWhile_append_of_stop
    intro c hc
    have hstarts := hapart hends
    rwa [startsInName, hc] at hstarts
  · rw [List.takeWhile_append, if_neg]
    intro hlength
    apply hall
    intro c hc
    rw [← (List.takeWhile_prefix Char.isAlphanum).eq_of_length hlength] at hc
    exact List.all_eq_true.mp List.all_takeWhile c hc

theorem tagOf?_eq_opening_iff {s name : List Char} :
    tagOf? s = some (.opening name) ↔ name ≠ [] ∧ s.takeWhile Char.isAlphanum = name := by
  unfold tagOf?
  split
  · next rest =>
    -- a slash is no letter
    have hslash : ('/' :: rest).takeWhile Char.isAlphanum = [] := List.takeWhile_cons_of_neg (by decide)
    rw [hslash]
    split
    · simp
    · simp
  · split
    · next hempty =>
      rw [hempty]
      simp
    · next hne =>
      simp only [Option.some.injEq, Tag.opening.injEq, iff_and_self]
      rintro rfl
      exact hne

theorem tagOf?_eq_closing_iff {s name : List Char} :
    tagOf? s = some (.closing name) ↔
      name ≠ [] ∧ ∃ rest, s = '/' :: rest ∧ rest.takeWhile Char.isAlphanum = name := by
  unfold tagOf?
  split
  · next rest =>
    simp only [List.cons.injEq, true_and]
    split
    · next hempty =>
      simp only [reduceCtorEq, false_iff, not_and, not_exists]
      rintro hne rest' rfl hname
      exact hne (hname.symm.trans hempty)
    · next hne =>
      simp only [Option.some.injEq, Tag.closing.injEq]
      constructor
      · rintro rfl
        exact ⟨hne, rest, rfl, rfl⟩
      · rintro ⟨-, rest', rfl, hname⟩
        exact hname
  · next hslash =>
    split
    · simp only [reduceCtorEq, false_iff, not_and, not_exists]
      intro _ rest hs
      exact absurd hs (hslash rest)
    · simp only [Option.some.injEq, reduceCtorEq, false_iff, not_and, not_exists]
      intro _ rest hs
      exact absurd hs (hslash rest)

theorem tagOf?_append {s t : List Char} {tag : Tag} (htag : tagOf? s = some tag)
    (hapart : Apart s t) : tagOf? (s ++ t) = some tag := by
  cases tag with
  | opening name =>
    obtain ⟨hne, rfl⟩ := tagOf?_eq_opening_iff.mp htag
    exact tagOf?_eq_opening_iff.mpr ⟨hne, takeWhile_append_of_apart hne hapart⟩
  | closing name =>
    obtain ⟨hne, rest, rfl, rfl⟩ := tagOf?_eq_closing_iff.mp htag
    refine tagOf?_eq_closing_iff.mpr ⟨hne, rest ++ t, rfl, ?_⟩
    exact takeWhile_append_of_apart hne hapart.of_cons

theorem tags?_cons_lt_eq_some_iff {s : List Char} {tags : List Tag} :
    tags? ('<' :: s) = some tags ↔
      ∃ tag rest, tagOf? s = some tag ∧ tags? s = some rest ∧ tags = tag :: rest := by
  rw [tags?, if_pos rfl]
  cases tagOf? s with
  | none => simp
  | some tag =>
    cases tags? s with
    | none => simp
    | some rest => simp [eq_comm]

theorem tags?_cons_of_ne {c : Char} (hc : c ≠ '<') (s : List Char) : tags? (c :: s) = tags? s := by
  rw [tags?, if_neg hc]

/-- **The tags of parts that stand side by side.** -/
theorem tags?_append {s t : List Char} {front behind : List Tag} (hs : tags? s = some front)
    (ht : tags? t = some behind) (hapart : Apart s t) : tags? (s ++ t) = some (front ++ behind) := by
  induction s generalizing front with
  | nil =>
    cases hs
    exact ht
  | cons c s ih =>
    by_cases hc : c = '<'
    · subst hc
      obtain ⟨tag, rest, htag, hrest, rfl⟩ := tags?_cons_lt_eq_some_iff.mp hs
      rw [List.cons_append, tags?_cons_lt_eq_some_iff]
      exact ⟨tag, rest ++ behind, tagOf?_append htag hapart.of_cons, ih hrest hapart.of_cons, rfl⟩
    · rw [tags?_cons_of_ne hc] at hs
      rw [List.cons_append, tags?_cons_of_ne hc]
      exact ih hs hapart.of_cons

theorem tags?_between {s inner t : List Char} {front middle behind : List Tag}
    (hs : tags? s = some front) (hsEnd : endsInName s = false)
    (hinner : tags? inner = some middle) (ht : tags? t = some behind)
    (htStart : startsInName t = false) :
    tags? (s ++ inner ++ t) = some (front ++ middle ++ behind) := by
  have hopened := tags?_append hs hinner (apart_of_ends hsEnd inner)
  exact tags?_append hopened ht (apart_of_starts _ htStart)

/-- Two parts between three that begin and end apart from them. -/
theorem tags?_between_three {s inner middle inner' t : List Char}
    {front front' mid behind' behind : List Tag}
    (hs : tags? s = some front) (hsEnd : endsInName s = false)
    (hinner : tags? inner = some front')
    (hmiddle : tags? middle = some mid) (hmiddleStart : startsInName middle = false)
    (hmiddleNe : middle ≠ []) (hmiddleEnd : endsInName middle = false)
    (hinner' : tags? inner' = some behind')
    (ht : tags? t = some behind) (htStart : startsInName t = false) :
    tags? (s ++ inner ++ middle ++ inner' ++ t) = some (front ++ front' ++ mid ++ behind' ++ behind) := by
  have hfirst := tags?_between hs hsEnd hinner hmiddle hmiddleStart
  refine tags?_between hfirst ?_ hinner' ht htStart
  rw [endsInName_append _ hmiddleNe]
  exact hmiddleEnd

/-- Well-nested markup may stand on both sides of a part that begins and ends apart. -/
theorem WellNested.between {s part t : List Char} (hs : WellNested s) (hpart : WellNested part)
    (ht : WellNested t) (hne : part ≠ []) (hstart : startsInName part = false)
    (hend : endsInName part = false) : WellNested (s ++ part ++ t) := by
  rw [wellNested_iff] at hs hpart ht ⊢
  obtain ⟨front, hs, hfront⟩ := hs
  obtain ⟨middle, hpart, hmiddle⟩ := hpart
  obtain ⟨behind, ht, hbehind⟩ := ht
  have hpaired := tags?_append hs hpart (apart_of_starts s hstart)
  have hapart : Apart (s ++ part) t := by
    apply apart_of_ends
    rw [endsInName_append s hne]
    exact hend
  exact ⟨_, tags?_append hpaired ht hapart, (hfront.append hmiddle).append hbehind⟩

theorem tags?_flatMap {α : Type} {f : α → List Char} {g : α → List Tag} (as : List α)
    (hf : ∀ a ∈ as, tags? (f a) = some (g a)) (hend : ∀ a ∈ as, endsInName (f a) = false) :
    tags? (as.flatMap f) = some (as.flatMap g) := by
  induction as with
  | nil => rfl
  | cons a as ih =>
    have hrest := ih (fun b hb => hf b (List.mem_cons_of_mem a hb))
      fun b hb => hend b (List.mem_cons_of_mem a hb)
    rw [List.flatMap_cons, List.flatMap_cons]
    exact tags?_append (hf a List.mem_cons_self) hrest
      (apart_of_ends (hend a List.mem_cons_self) _)

/-! ### Counting tags -/

def Tag.opensLike (name : List Char) : Tag → Bool
  | .opening written => name.isPrefixOf written
  | .closing _ => false

theorem prefix_takeWhile_iff {name s : List Char} (hname : ∀ c ∈ name, c.isAlphanum = true) :
    name <+: s.takeWhile Char.isAlphanum ↔ name <+: s := by
  constructor
  · intro hprefix
    exact hprefix.trans (List.takeWhile_prefix _)
  · rintro ⟨rest, rfl⟩
    rw [List.takeWhile_append_of_pos hname]
    exact List.prefix_append _ _

theorem opensLike_tagOf? {name s : List Char} {tag : Tag} (hname : ∀ c ∈ name, c.isAlphanum = true)
    (hne : name ≠ []) (htag : tagOf? s = some tag) :
    tag.opensLike name = name.isPrefixOf s := by
  rw [Bool.eq_iff_iff]
  cases tag with
  | opening written =>
    obtain ⟨-, rfl⟩ := tagOf?_eq_opening_iff.mp htag
    simp only [Tag.opensLike, List.isPrefixOf_iff_prefix]
    exact prefix_takeWhile_iff hname
  | closing written =>
    obtain ⟨-, rest, rfl, -⟩ := tagOf?_eq_closing_iff.mp htag
    simp only [Tag.opensLike, List.isPrefixOf_iff_prefix, Bool.false_eq_true, false_iff]
    intro hprefix
    obtain ⟨c, name, rfl⟩ := List.exists_cons_of_ne_nil hne
    have hslash := hname c List.mem_cons_self
    rw [(List.cons_prefix_cons.mp hprefix).1] at hslash
    exact absurd hslash (by decide)

/-- **Where an opening tag is written, one is read.** -/
theorem occurrences_opening {name s : List Char} {tags : List Tag}
    (hname : ∀ c ∈ name, c.isAlphanum = true) (hne : name ≠ []) (htags : tags? s = some tags) :
    occurrences ('<' :: name) s = tags.countP (Tag.opensLike name) := by
  induction s generalizing tags with
  | nil =>
    cases htags
    rfl
  | cons c s ih =>
    by_cases hc : c = '<'
    · subst hc
      obtain ⟨tag, rest, htag, hrest, rfl⟩ := tags?_cons_lt_eq_some_iff.mp htags
      have hstart : ('<' :: name).isPrefixOf ('<' :: s) = name.isPrefixOf s := by
        simp [List.isPrefixOf]
      rw [occurrences, ih hrest, List.countP_cons, hstart, opensLike_tagOf? hname hne htag,
        Nat.add_comm]
    · rw [tags?_cons_of_ne hc] at htags
      have hstart : ('<' :: name).isPrefixOf (c :: s) = false := by
        simp [List.isPrefixOf, Ne.symm hc]
      rw [occurrences, hstart, ih htags]
      simp

theorem tagOf?_closing {name s : List Char} (hname : ∀ c ∈ name, c.isAlphanum = true)
    (hne : name ≠ []) : tagOf? ('/' :: (name ++ '>' :: s)) = some (.closing name) := by
  refine tagOf?_eq_closing_iff.mpr ⟨hne, name ++ '>' :: s, rfl, ?_⟩
  apply takeWhile_append_of_head hname
  intro c hc
  cases hc
  decide

/-- Where a closing tag is written, one is read. -/
theorem occurrences_closing_le {name s : List Char} {tags : List Tag}
    (hname : ∀ c ∈ name, c.isAlphanum = true) (hne : name ≠ []) (htags : tags? s = some tags) :
    occurrences ("</".toList ++ name ++ ['>']) s ≤ tags.count (.closing name) := by
  induction s generalizing tags with
  | nil =>
    cases htags
    exact Nat.le_refl 0
  | cons c s ih =>
    by_cases hc : c = '<'
    · subst hc
      obtain ⟨tag, rest, htag, hrest, rfl⟩ := tags?_cons_lt_eq_some_iff.mp htags
      rw [occurrences, List.count_cons, Nat.add_comm]
      apply Nat.add_le_add (ih hrest)
      split
      · next hstart =>
        obtain ⟨behind, hbehind⟩ := List.isPrefixOf_iff_prefix.mp hstart
        have hs : s = '/' :: (name ++ '>' :: behind) := by simpa using hbehind.symm
        rw [hs, tagOf?_closing hname hne] at htag
        cases htag
        simp
      · exact Nat.zero_le _
    · rw [tags?_cons_of_ne hc] at htags
      have hstart : ("</".toList ++ name ++ ['>']).isPrefixOf (c :: s) = false := by
        simp [List.isPrefixOf, Ne.symm hc]
      rw [occurrences, hstart]
      simpa using ih htags

theorem occurrences_pos {part : List Char} (hpart : part ≠ []) {s : List Char}
    (hs : part <:+: s) : 0 < occurrences part s := by
  induction s with
  | nil => exact absurd (List.infix_nil.mp hs) hpart
  | cons c s ih =>
    rw [occurrences]
    rcases List.infix_cons_iff.mp hs with hstart | hlater
    · rw [if_pos (List.isPrefixOf_iff_prefix.mpr hstart)]
      exact Nat.lt_of_lt_of_le Nat.one_pos (Nat.le_add_right 1 _)
    · exact Nat.lt_of_lt_of_le (ih hlater) (Nat.le_add_left _ _)

/-! ### An element that holds none of its name -/

def Tag.isLike (name : List Char) : Tag → Bool
  | .opening written => name.isPrefixOf written
  | .closing written => name.isPrefixOf written

/-- No tag of the row has a name that starts with `name`. -/
def Free (name : List Char) (tags : List Tag) : Prop := ∀ tag ∈ tags, tag.isLike name = false

section

variable {name : List Char}

theorem free_nil (name : List Char) : Free name [] := by
  intro tag hmem
  cases hmem

theorem Free.append {front behind : List Tag} (hfront : Free name front)
    (hbehind : Free name behind) : Free name (front ++ behind) := by
  intro tag hmem
  rcases List.mem_append.mp hmem with hmem | hmem
  · exact hfront tag hmem
  · exact hbehind tag hmem

theorem Free.element {inner : List Tag} (hinner : Free name inner) (other : String)
    (hother : name.isPrefixOf other.toList = false) : Free name (element other inner) := by
  intro tag hmem
  simp only [Markup.element, List.cons_append, List.mem_cons, List.mem_append, List.not_mem_nil,
    or_false] at hmem
  rcases hmem with rfl | hmem | rfl
  · exact hother
  · exact hinner tag hmem
  · exact hother

theorem Free.flatMap {α : Type} {f : α → List Tag} (hf : ∀ a, Free name (f a)) (as : List α) :
    Free name (as.flatMap f) := by
  intro tag hmem
  obtain ⟨a, -, ha⟩ := List.mem_flatMap.mp hmem
  exact hf a tag ha

theorem Free.countP_opensLike {tags : List Tag} (hfree : Free name tags) :
    tags.countP (Tag.opensLike name) = 0 := by
  rw [List.countP_eq_zero]
  intro tag hmem
  cases tag with
  | opening written =>
    have hother : name.isPrefixOf written = false := hfree _ hmem
    rw [Tag.opensLike, hother]
    exact Bool.false_ne_true
  | closing written => exact Bool.false_ne_true

theorem Free.count_closing {tags : List Tag} (hfree : Free name tags) :
    tags.count (.closing name) = 0 := by
  rw [List.count_eq_zero]
  intro hmem
  have hother : name.isPrefixOf name = false := hfree _ hmem
  have hself : name.isPrefixOf name = true := by simp
  rw [hself] at hother
  cases hother

end

/-- **An element is opened once and closed once.** -/
theorem occurrences_element {name : String} (hname : name.toList.all Char.isAlphanum = true)
    (hne : name.toList ≠ []) {inner : List Tag} (hfree : Free name.toList inner) {s : List Char}
    (htags : tags? s = some (element name inner))
    (hclosed : "</".toList ++ name.toList ++ ['>'] <:+: s) :
    occurrences ('<' :: name.toList) s = 1 ∧
      occurrences ("</".toList ++ name.toList ++ ['>']) s = 1 := by
  rw [List.all_eq_true] at hname
  constructor
  · have hself : name.toList.isPrefixOf name.toList = true := by simp
    rw [occurrences_opening hname hne htags, countP_element, hfree.countP_opensLike]
    simp [Tag.opensLike, hself]
  · have hle := occurrences_closing_le hname hne htags
    have hcount : (element name inner).count (.closing name.toList) = 1 := by
      rw [List.count, countP_element, ← List.count, hfree.count_closing]
      simp
    rw [hcount] at hle
    exact Nat.le_antisymm hle (occurrences_pos (by simp) hclosed)

end CodeFigure.Markup
