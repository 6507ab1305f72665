/-
  CodeFigure/Proofs/Gist/Collisions.lean
  ======================================
  **Which references share an address.**

  Neither an owner nor an identifier has a slash, so a path is taken apart at its slashes
  in one way.  The page of a gist therefore tells its owner and its identifier
  (`prettyPath_eq_iff`).

  Contents are kept under two layouts, `/OWNER/ID/raw` and `/raw/ID`, and a filename may
  follow either.  Both are a segment, an identifier and what looks like a filename behind
  it (`toList_rawPath`).  So where the owner is called `raw`, the end of the first layout is
  a filename under the second, since filenames may have slashes (`Shadows`).  There is no
  other way for two references to share an address (`rawPath_eq_iff`).
-/
import CodeFigure.Proofs.Gist.Course
import CodeFigure.Proofs.Gist.Urls

namespace CodeFigure.Reference

open CodeFigure.Text

/-! ### Identifiers and filenames in a path -/

theorem idText_inj {r s : Reference} (hsame : r.idText = s.idText) : r.id = s.id := by
  have hdigits : signedDecimal r.id.toInt = signedDecimal s.id.toInt := String.ofList_injective hsame
  exact Int64.toInt_inj.mp (signedDecimal_inj hdigits)

def pathTail : Option String → List Char
  | some name => '/' :: name.toList
  | none => []

/-- A segment ends at the first slash behind it. -/
theorem append_pathTail_inj {front front' : List Char} {name name' : Option String}
    (hfront : '/' ∉ front) (hfront' : '/' ∉ front')
    (hsame : front ++ pathTail name = front' ++ pathTail name') : front = front' ∧ name = name' := by
  cases name with
  | none =>
    rw [pathTail, List.append_nil] at hsame
    cases name' with
    | none =>
      rw [pathTail, List.append_nil] at hsame
      exact ⟨hsame, rfl⟩
    | some word' =>
      rw [hsame] at hfront
      exact absurd (List.mem_append_right front' List.mem_cons_self) hfront
  | some word =>
    cases name' with
    | none =>
      rw [pathTail, pathTail, List.append_nil] at hsame
      rw [← hsame] at hfront'
      exact absurd (List.mem_append_right front List.mem_cons_self) hfront'
    | some word' =>
      obtain ⟨hfronts, hwords⟩ := append_cons_inj hfront hfront' hsame
      exact ⟨hfronts, congrArg some (String.toList_inj.mp hwords)⟩

/-- The filename that `raw` and a filename behind it look like. -/
def nameUnderRaw : Option String → String
  | some name => "raw/" ++ name
  | none => "raw"

theorem nameUnderRaw_inj {name name' : Option String}
    (hsame : nameUnderRaw name = nameUnderRaw name') : name = name' := by
  have hlonger (word : String) : "raw/" ++ word ≠ "raw" := by
    intro hraw
    have hlists := congrArg String.toList hraw
    simp at hlists
  cases name with
  | none =>
    cases name' with
    | none => rfl
    | some word' => exact absurd hsame.symm (hlonger word')
  | some word =>
    cases name' with
    | none => exact absurd hsame (hlonger word)
    | some word' => exact congrArg some ((String.append_right_inj "raw/").mp hsame)

/-! ### Paths -/

def OwnerInSegment (reference : Reference) : Prop := ∀ owner ∈ reference.owner, '/' ∉ owner.toList

theorem ownerInSegment_of_parse {text : String} {reference : Reference}
    (hread : parse text = .ok reference) : reference.OwnerInSegment :=
  fun owner howner => ((isWritable_of_parse hread).owner owner howner).2.2

def rawSegment (reference : Reference) : String := reference.owner.getD "raw"

def nameBehindId (reference : Reference) : Option String :=
  match reference.owner with
  | some _ => some (nameUnderRaw reference.filename)
  | none => reference.filename

/-- **Both layouts of raw paths.** -/
theorem toList_rawPath (reference : Reference) :
    reference.rawPath.toList = '/' :: (reference.rawSegment.toList ++
      '/' :: (reference.idText.toList ++ pathTail reference.nameBehindId)) := by
  unfold rawPath rawSegment nameBehindId pathTail nameUnderRaw
  cases reference.owner with
  | none => cases reference.filename <;> simp
  | some owner => cases reference.filename <;> simp

variable {r s : Reference}

theorem slash_not_mem_rawSegment (hr : r.OwnerInSegment) : '/' ∉ r.rawSegment.toList := by
  unfold rawSegment
  cases howner : r.owner with
  | none => decide
  | some owner => exact hr owner howner

theorem rawPath_eq_iff_segments (hr : r.OwnerInSegment) (hs : s.OwnerInSegment) :
    r.rawPath = s.rawPath ↔
      r.rawSegment = s.rawSegment ∧ r.id = s.id ∧ r.nameBehindId = s.nameBehindId := by
  rw [← String.toList_inj, toList_rawPath, toList_rawPath]
  constructor
  · intro hsame
    obtain ⟨hsegments, hbehind⟩ := append_cons_inj (slash_not_mem_rawSegment hr)
      (slash_not_mem_rawSegment hs) (List.cons.inj hsame).2
    obtain ⟨hids, hnames⟩ :=
      append_pathTail_inj (slash_not_mem_idText r) (slash_not_mem_idText s) hbehind
    exact ⟨String.toList_inj.mp hsegments, idText_inj (String.toList_inj.mp hids), hnames⟩
  · rintro ⟨hsegment, hid, hname⟩
    rw [hsegment, hname, idText, idText, hid]

/-- The raw path of `owned`, whose owner is `raw`, is that of `free`, which has none: the end
    of the path is taken for a filename. -/
structure Shadows (owned free : Reference) : Prop where
  owner : owned.owner = some "raw"
  unowned : free.owner = none
  id : owned.id = free.id
  filename : free.filename = some (nameUnderRaw owned.filename)

theorem Shadows.rawPath_eq {owned free : Reference} (hshadows : owned.Shadows free) :
    owned.rawPath = free.rawPath := by
  rw [← String.toList_inj, toList_rawPath, toList_rawPath, rawSegment, rawSegment, nameBehindId,
    nameBehindId, idText, idText, hshadows.owner, hshadows.unowned, hshadows.id, hshadows.filename]
  rfl

/-- **Which references have one raw path.** -/
theorem rawPath_eq_iff (hr : r.OwnerInSegment) (hs : s.OwnerInSegment) :
    r.rawPath = s.rawPath ↔ r = s ∨ r.Shadows s ∨ s.Shadows r := by
  constructor
  · intro hsame
    obtain ⟨hsegment, hid, hname⟩ := (rawPath_eq_iff_segments hr hs).mp hsame
    obtain ⟨id, owner, filename⟩ := r
    obtain ⟨id', owner', filename'⟩ := s
    obtain rfl : id = id' := hid
    cases owner with
    | none =>
      cases owner' with
      | none =>
        obtain rfl : filename = filename' := hname
        exact .inl rfl
      | some name' =>
        obtain rfl : "raw" = name' := hsegment
        exact .inr (.inr ⟨rfl, rfl, rfl, hname⟩)
    | some name =>
      cases owner' with
      | none =>
        obtain rfl : name = "raw" := hsegment
        exact .inr (.inl ⟨rfl, rfl, rfl, hname.symm⟩)
      | some name' =>
        obtain rfl : name = name' := hsegment
        obtain rfl : filename = filename' := nameUnderRaw_inj (Option.some.inj hname)
        exact .inl rfl
  · rintro (rfl | hshadows | hshadows)
    · rfl
    · exact hshadows.rawPath_eq
    · exact hshadows.rawPath_eq.symm

def pageSegment (reference : Reference) : String := reference.owner.getD reference.idText

/-- Where there is an owner, the identifier is the second segment. -/
def pageTail (reference : Reference) : Option String := reference.owner.map fun _ => reference.idText

theorem toList_prettyPath (reference : Reference) :
    reference.prettyPath.toList =
      '/' :: (reference.pageSegment.toList ++ pathTail reference.pageTail) := by
  unfold prettyPath pageSegment pageTail pathTail
  cases reference.owner <;> simp

theorem slash_not_mem_pageSegment (hr : r.OwnerInSegment) : '/' ∉ r.pageSegment.toList := by
  unfold pageSegment
  cases howner : r.owner with
  | none => exact slash_not_mem_idText r
  | some owner => exact hr owner howner

/-- **Which references have one page.** -/
theorem prettyPath_eq_iff (hr : r.OwnerInSegment) (hs : s.OwnerInSegment) :
    r.prettyPath = s.prettyPath ↔ r.id = s.id ∧ r.owner = s.owner := by
  constructor
  · intro hsame
    have hlists := congrArg String.toList hsame
    rw [toList_prettyPath, toList_prettyPath] at hlists
    obtain ⟨hsegments, htail⟩ := append_pathTail_inj (slash_not_mem_pageSegment hr)
      (slash_not_mem_pageSegment hs) (List.cons.inj hlists).2
    have hsegment := String.toList_inj.mp hsegments
    unfold pageSegment at hsegment
    unfold pageTail at htail
    cases howner : r.owner with
    | none =>
      cases howner' : s.owner with
      | none =>
        rw [howner, howner'] at hsegment
        exact ⟨idText_inj hsegment, rfl⟩
      | some owner' =>
        rw [howner, howner'] at htail
        cases htail
    | some owner =>
      cases howner' : s.owner with
      | none =>
        rw [howner, howner'] at htail
        cases htail
      | some owner' =>
        rw [howner, howner'] at hsegment htail
        exact ⟨idText_inj (Option.some.inj htail), congrArg some hsegment⟩
  · rintro ⟨hid, howner⟩
    rw [prettyPath, prettyPath, idText, idText, hid, howner]

/-! ### Addresses -/

/-- **What an address tells of the reference.**  Under one host, two references that have
    been read have the same page when identifier and owner are the same.  Their contents
    have the same address when they are the same reference, or when one of them belongs to
    the owner `raw`, the other to nobody, and the filename of the latter is `raw` with the
    filename of the former behind it.  So where no owner is called `raw`, the address that
    is fetched tells the reference. -/
theorem urls_eq_iff {text text' : String} {r s : Reference} (hr : parse text = .ok r)
    (hs : parse text' = .ok s) (baseUrl : String) :
    (r.prettyUrl baseUrl = s.prettyUrl baseUrl ↔ r.id = s.id ∧ r.owner = s.owner) ∧
    (r.rawUrl baseUrl = s.rawUrl baseUrl ↔ r = s ∨ r.Shadows s ∨ s.Shadows r) ∧
    (r.owner ≠ some "raw" → s.owner ≠ some "raw" →
      ∀ (resolver : Resolver) (past past' : List String),
        (resolver.resolve past r).requests = (resolver.resolve past' s).requests → r = s) := by
  have hrOwner := ownerInSegment_of_parse hr
  have hsOwner := ownerInSegment_of_parse hs
  have hraw (host : String) :
      r.rawUrl host = s.rawUrl host ↔ r = s ∨ r.Shadows s ∨ s.Shadows r := by
    rw [rawUrl, rawUrl, String.append_right_inj, rawPath_eq_iff hrOwner hsOwner]
  refine ⟨?_, hraw baseUrl, ?_⟩
  · rw [prettyUrl, prettyUrl, String.append_right_inj, prettyPath_eq_iff hrOwner hsOwner]
  · intro hrNe hsNe resolver past past' hsame
    rw [Resolver.requests_resolve, Resolver.requests_resolve] at hsame
    rcases (hraw resolver.baseUrl).mp (List.cons.inj hsame).1 with heq | hshadows | hshadows
    · exact heq
    · exact absurd hshadows.owner hrNe
    · exact absurd hshadows.owner hsNe

/-- The same file of the same address may be meant in two ways. -/
theorem urls_eq_iff_rawOwner :
    parse "raw/7 a/b.rb" = .ok ⟨7, some "raw", some "a/b.rb"⟩ ∧
      parse "007 raw/a/b.rb" = .ok ⟨7, none, some "raw/a/b.rb"⟩ ∧
      rawUrl ⟨7, some "raw", some "a/b.rb"⟩ "http://h/" = rawUrl ⟨7, none, some "raw/a/b.rb"⟩ "http://h/" ∧
      prettyUrl ⟨7, some "raw", some "a/b.rb"⟩ "http://h/" ≠
        prettyUrl ⟨7, none, some "raw/a/b.rb"⟩ "http://h/" := by
  have hr : parse "raw/7 a/b.rb" = .ok ⟨7, some "raw", some "a/b.rb"⟩ := rfl
  have hs : parse "007 raw/a/b.rb" = .ok ⟨7, none, some "raw/a/b.rb"⟩ := rfl
  obtain ⟨hpage, hraw, -⟩ := urls_eq_iff hr hs "http://h/"
  refine ⟨hr, hs, hraw.mpr (.inr (.inl ⟨rfl, rfl, rfl, by decide⟩)), ?_⟩
  rw [ne_eq, hpage]
  simp

end CodeFigure.Reference
