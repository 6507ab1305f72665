/-
  CodeFigure/Proofs/Config/Hosts.lean
  ===================================
  **When the addresses of gists keep the scheme of a valid host.**

  Validity asks for a scheme and says nothing about what follows it.  The slashes
  at the end of a host are dropped before a path is put behind it, and where only
  slashes follow the scheme, those of the scheme go with them: `http://` becomes
  `http:`, and the file of gist 1 is asked for at `http:/raw/1`.

  So the addresses are HTTP's exactly if something else than slashes follows the
  scheme, or if the path brings two slashes of its own (`isHttp_urls_iff`).  The
  second happens only with references that have not been read from a text.
-/
import CodeFigure.Proofs.Config.Provenance
import CodeFigure.Proofs.Gist.Urls

namespace CodeFigure.Config

open CodeFigure.Text

theorem isHttp_iff_exists {url : String} :
    IsHttp url ↔ ∃ scheme rest, (scheme = "http://" ∨ scheme = "https://") ∧
      url.toList = scheme.toList ++ rest := by
  constructor
  · rintro (⟨rest, hrest⟩ | ⟨rest, hrest⟩)
    · exact ⟨"http://", rest, .inl rfl, hrest.symm⟩
    · exact ⟨"https://", rest, .inr rfl, hrest.symm⟩
  · rintro ⟨scheme, rest, rfl | rfl, hurl⟩
    · exact .inl ⟨rest, hurl.symm⟩
    · exact .inr ⟨rest, hurl.symm⟩

/-- A scheme that has lost its slashes gets them back from a path that starts with two. -/
theorem isHttp_bare_append_iff {bare url : String} {path : List Char}
    (hbare : bare = "http:" ∨ bare = "https:") (hurl : url.toList = bare.toList ++ path) :
    IsHttp url ↔ "//".toList <+: path := by
  rw [IsHttp, hurl]
  rcases hbare with rfl | rfl
  · simp
  · simp

theorem not_isHttpBase_of_slashes {scheme : String} {base slashes : List Char}
    (hscheme : scheme = "http://" ∨ scheme = "https://") (hbase : base = scheme.toList ++ slashes)
    (hslashes : ∀ c ∈ slashes, c = '/') : ¬ IsHttpBase base := by
  rintro ⟨other, rest, hother, ⟨c, hc, hne⟩, hsplit⟩
  have hsame : scheme.toList ++ slashes = other.toList ++ rest := hbase.symm.trans hsplit
  -- the two schemes differ in their fifth character, so `base` has one of them only
  rcases hscheme with rfl | rfl <;> rcases hother with rfl | rfl
  · exact hne (hslashes c (List.append_cancel_left hsame ▸ hc))
  · simp at hsame
  · simp at hsame
  · exact hne (hslashes c (List.append_cancel_left hsame ▸ hc))

/-- A path behind a valid host. -/
theorem isHttp_hostOf_append_iff {base path : String} (hbase : IsHttp base) :
    IsHttp (Reference.hostOf base ++ path) ↔
      IsHttpBase base.toList ∨ "//".toList <+: path.toList := by
  obtain ⟨scheme, rest, hscheme, hsplit⟩ := isHttp_iff_exists.mp hbase
  by_cases hrest : ∃ c ∈ rest, c ≠ '/'
  · have hkept : IsHttp (Reference.hostOf base ++ path) := by
      rw [isHttp_iff_exists, String.toList_append, Reference.hostOf_append hsplit hrest,
        List.append_assoc]
      exact ⟨scheme, _, hscheme, rfl⟩
    exact iff_of_true hkept (.inl ⟨scheme, rest, hscheme, hrest, hsplit⟩)
  · have hslashes : ∀ c ∈ rest, c = '/' := by simpa using hrest
    obtain ⟨bare, hbare, hhost⟩ : ∃ bare, (bare = "http:" ∨ bare = "https:") ∧
        (Reference.hostOf base).toList = bare.toList := by
      rw [Reference.hostOf_append_slashes hsplit hslashes]
      rcases hscheme with rfl | rfl
      · exact ⟨"http:", .inl rfl, by decide⟩
      · exact ⟨"https:", .inr rfl, by decide⟩
    have hnot := not_isHttpBase_of_slashes hscheme hsplit hslashes
    rw [isHttp_bare_append_iff hbare (by rw [String.toList_append, hhost])]
    simp [hnot]

/-- **Addresses under a valid host are HTTP's** exactly if something else than slashes
    follows the scheme of the host, or the path starts with two slashes.  No reference
    that has been read has such a path. -/
theorem isHttp_urls_iff {config : Config}
    (hvalid : config.validate = .ok config ∨ ∃ surroundings asked overrides,
      load surroundings asked overrides = .ok config)
    (client : Client) (reference : Reference) :
    (IsHttp ((Resolver.forHost client config.gist.baseUrl).rawUrl reference) ↔
      IsHttpBase config.gist.baseUrl.toList ∨ reference.DoublesSlash) ∧
    (IsHttp ((Resolver.forHost client config.gist.baseUrl).prettyUrl reference) ↔
      IsHttpBase config.gist.baseUrl.toList ∨ reference.DoublesSlash) ∧
    (∀ text, Reference.parse text = .ok reference → ¬ reference.DoublesSlash) := by
  have hscheme : IsHttp config.gist.baseUrl := by
    rcases hvalid with hvalid | ⟨surroundings, asked, overrides, hload⟩
    · exact (validate_eq_ok_self_iff.mp hvalid).1
    · exact (validate_eq_ok_self_iff.mp (validate_of_load hload)).1
  refine ⟨?_, ?_, fun text => Reference.not_doublesSlash_of_parse⟩
  · rw [Resolver.rawUrl_forHost, Reference.rawUrl, isHttp_hostOf_append_iff hscheme,
      Reference.slashes_prefix_rawPath_iff]
  · rw [Resolver.prettyUrl_forHost, Reference.prettyUrl, isHttp_hostOf_append_iff hscheme,
      Reference.slashes_prefix_prettyPath_iff]

/-- A path in the host stays, without the slashes behind it. -/
theorem isHttp_urls_iff_mirror :
    let config : Config := ⟨⟨"http://h/gists//", 1⟩, {}, none⟩
    let resolver := Resolver.forHost (fun _ _ => .ok ⟨200, ""⟩) config.gist.baseUrl
    config.validate = .ok config ∧
      resolver.rawUrl ⟨7, some "me", none⟩ = "http://h/gists/me/7/raw" ∧
      IsHttp (resolver.rawUrl ⟨7, some "me", none⟩) ∧
      IsHttp (resolver.prettyUrl ⟨7, some "me", none⟩) := by
  intro config resolver
  have hvalid : config.validate = .ok config := validate_eq_ok_self_iff.mpr (by decide)
  have hhost : IsHttpBase config.gist.baseUrl.toList :=
    ⟨"http://", "h/gists//".toList, .inl rfl, ⟨'h', by decide, by decide⟩, by decide⟩
  obtain ⟨hraw, hpretty, -⟩ :=
    isHttp_urls_iff (.inl hvalid) (fun _ _ => .ok ⟨200, ""⟩) ⟨7, some "me", none⟩
  exact ⟨hvalid, by decide, hraw.mpr (.inl hhost), hpretty.mpr (.inl hhost)⟩

/-- **A valid host can lose its scheme**, and the addresses under it are no longer HTTP's. -/
theorem not_isHttp_urls_of_slashes :
    let config : Config := ⟨⟨"http://", 30⟩, {}, none⟩
    let resolver := Resolver.forHost (fun _ _ => .ok ⟨200, ""⟩) config.gist.baseUrl
    config.validate = .ok config ∧ Reference.parse "1" = .ok ⟨1, none, none⟩ ∧
      resolver.rawUrl ⟨1, none, none⟩ = "http:/raw/1" ∧
      ¬ IsHttp (resolver.rawUrl ⟨1, none, none⟩) ∧
      resolver.prettyUrl ⟨1, none, none⟩ = "http:/1" ∧
      ¬ IsHttp (resolver.prettyUrl ⟨1, none, none⟩) := by
  intro config resolver
  have hvalid : config.validate = .ok config := validate_eq_ok_self_iff.mpr (by decide)
  have hraw : resolver.rawUrl ⟨1, none, none⟩ = "http:/raw/1" := by decide
  have hpretty : resolver.prettyUrl ⟨1, none, none⟩ = "http:/1" := by decide
  refine ⟨hvalid, rfl, hraw, ?_, hpretty, ?_⟩
  · rw [hraw]
    decide
  · rw [hpretty]
    decide

end CodeFigure.Config
