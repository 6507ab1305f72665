/-
  CodeFigure/Proofs/Highlight/Attributes.lean
  ===========================================
  **A file type stays inside of its attribute.**

  An author may write anything without blanks for a file type, and the element around
  highlighted code has it in an attribute as it was written.  What keeps it there is the
  list of known file types.  Letter case aside, a known file type is one of the tokens
  (`knows_eq_true_iff`), and the tokens are written in a few characters
  (`characters_of_mem_tokens`).  Lower case neither adds nor removes a character that means
  something in markup, or lies beyond ASCII, so a file type that has one is not known
  (`isForeign_of_knows`), and its code is shown in the table.
-/
import CodeFigure.Highlight.Bundled
import CodeFigure.Proofs.Figure.PlainRoutes

namespace CodeFigure.Bundled

open CodeFigure.Text

/-! ### Characters -/

/-- The characters that mean something in markup or in attributes: both quotes, `&`, `<`
    and `>`. -/
def marks : CharSet := ⟨[(0x22, 0x22), (0x26, 0x27), (0x3C, 0x3C), (0x3E, 0x3E)]⟩

def isForeign (c : Char) : Bool := marks.contains c || decide (0x80 ≤ c.toNat)

/-- The characters that tokens are written in: the blank, `#`, from `(` to `;`, the
    underscore, and the small letters. -/
def tokenCharacters : CharSet :=
  ⟨[(0x20, 0x20), (0x23, 0x23), (0x28, 0x3B), (0x5F, 0x5F), (0x61, 0x7A)]⟩

theorem toNat_of_isForeign {c : Char} (hc : isForeign c = true) :
    c.toNat = 0x22 ∨ c.toNat = 0x26 ∨ c.toNat = 0x27 ∨ c.toNat = 0x3C ∨ c.toNat = 0x3E ∨
      0x80 ≤ c.toNat := by
  simp only [isForeign, Bool.or_eq_true, decide_eq_true_eq, marks, CharSet.contains_cons_iff,
    CharSet.contains_nil_iff, or_false] at hc
  omega

theorem toNat_of_tokenCharacters {c : Char} (hc : tokenCharacters.contains c = true) :
    c.toNat = 0x20 ∨ c.toNat = 0x23 ∨ 0x28 ≤ c.toNat ∧ c.toNat ≤ 0x3B ∨ c.toNat = 0x5F ∨
      0x61 ≤ c.toNat ∧ c.toNat ≤ 0x7A := by
  simp only [tokenCharacters, CharSet.contains_cons_iff, CharSet.contains_nil_iff, or_false] at hc
  omega

theorem toLower_of_not_upper {c : Char} (hc : ¬ (0x41 ≤ c.toNat ∧ c.toNat ≤ 0x5A)) :
    c.toLower = c := by
  have hupper : ¬ (c.val ≥ 'A'.val ∧ c.val ≤ 'Z'.val) := fun ⟨hlow, hhigh⟩ =>
    hc ⟨UInt32.le_iff_toNat_le.mp hlow, UInt32.le_iff_toNat_le.mp hhigh⟩
  exact dif_neg hupper

theorem mem_lowerAscii_of_isForeign {fileType : String} {c : Char} (hc : isForeign c = true)
    (hmem : c ∈ fileType.toList) : c ∈ (lowerAscii fileType).toList := by
  have hplace := toNat_of_isForeign hc
  rw [lowerAscii, String.toList_ofList]
  exact List.mem_map.mpr ⟨c, hmem, toLower_of_not_upper (by omega)⟩

/-! ### Tokens -/

def tokens : List String := plainTokens ++ languageTokens

/-- Stated for a list of characters: taking a literal apart is slow. -/
theorem characters_of_all {word : List Char} (hword : word.all tokenCharacters.contains = true) :
    ∀ c ∈ (String.ofList word).toList, tokenCharacters.contains c = true := by
  rw [String.toList_ofList]
  exact List.all_eq_true.mp hword

set_option maxRecDepth 4000 in
theorem characters_of_mem_tokens :
    ∀ token ∈ tokens, ∀ c ∈ token.toList, tokenCharacters.contains c = true := by
  simp only [tokens, List.forall_mem_append, plainTokens, languageTokens, List.forall_mem_cons,
    List.not_mem_nil, false_implies, implies_true, and_true]
  and_intros <;> exact characters_of_all rfl

theorem lowerAscii_of_mem_tokens {token : String} (htoken : token ∈ tokens) :
    lowerAscii token = token := by
  have hsame : ∀ c ∈ token.toList, c.toLower = c := by
    intro c hc
    have hplace := toNat_of_tokenCharacters (characters_of_mem_tokens token htoken c hc)
    exact toLower_of_not_upper (by omega)
  rw [lowerAscii, List.map_congr_left hsame, List.map_id', String.ofList_toList]

/-- **A file type is known if it is a token**, letter case aside. -/
theorem knows_eq_true_iff {fileType : String} :
    knows fileType = true ↔ ∃ token ∈ tokens, lowerAscii fileType = lowerAscii token := by
  rw [knows, Bool.or_eq_true, List.contains_iff_mem, List.contains_iff_mem, ← List.mem_append]
  constructor
  · intro hlisted
    exact ⟨_, hlisted, (lowerAscii_of_mem_tokens hlisted).symm⟩
  · rintro ⟨token, htoken, hsame⟩
    rw [hsame, lowerAscii_of_mem_tokens htoken]
    exact htoken

theorem isForeign_of_knows {fileType : String} (hknows : knows fileType = true) {c : Char}
    (hc : c ∈ fileType.toList) : isForeign c = false := by
  obtain ⟨token, htoken, hsame⟩ := knows_eq_true_iff.mp hknows
  apply Bool.eq_false_iff.mpr
  intro hforeign
  have hlower := mem_lowerAscii_of_isForeign hforeign hc
  rw [hsame, lowerAscii_of_mem_tokens htoken] at hlower
  have hplace := toNat_of_isForeign hforeign
  have hplace' := toNat_of_tokenCharacters (characters_of_mem_tokens token htoken c hlower)
  omega

theorem not_knows_of_isForeign {fileType : String} {c : Char} (hc : c ∈ fileType.toList)
    (hforeign : isForeign c = true) : knows fileType = false := by
  apply Bool.eq_false_iff.mpr
  intro hknows
  cases hforeign.symm.trans (isForeign_of_knows hknows hc)

end CodeFigure.Bundled

namespace CodeFigure.Renderer

open CodeFigure.Bundled

/-- **A file type cannot leave its attribute.**  For all parameters and bodies, whatever the
    grammars make of the code: a file type with a character that means something in markup, or
    lies beyond ASCII, is unknown, and the figure is the plain one with the same caption.  A
    figure that is not plain has the file type in an attribute as it was written, and it is one
    of the tokens, letter case aside, and has no such character. -/
theorem render_confines_fileType (grammars : Grammars) (decorations : Decorations)
    (highlighting : Bool) (raw body : String) :
    let renderer : Renderer := ⟨highlightBy grammars, decorations, highlighting⟩
    let params := Params.parse raw
    let html := (renderer.render raw body).html
    let plain := Figure.plain params.caption body decorations
    (∀ fileType, params.fileType = some fileType → (∃ c ∈ fileType.toList, isForeign c = true) →
      (∀ code, highlightBy grammars code fileType = .error (.unknownFileType fileType)) ∧
        html = plain) ∧
    (html = plain ∨
      ∃ fileType marked, params.fileType = some fileType ∧
        (∃ token ∈ tokens, lowerAscii fileType = lowerAscii token) ∧
        (∀ c ∈ fileType.toList, isForeign c = false) ∧ grammars body fileType = .ok marked ∧
        html = Figure.assemble params.caption
          ("<div class='highlight'><pre><code class='" ++ fileType ++ "'>" ++ marked
            ++ "</code></pre></div>") decorations) := by
  intro renderer params html plain
  constructor
  · rintro fileType htype ⟨c, hc, hforeign⟩
    have hrefused := highlightBy_of_not_knows (not_knows_of_isForeign hc hforeign) grammars
    refine ⟨hrefused, renderer.html_of_showsTable body params (.inr ?_)⟩
    intro other hother
    cases htype.symm.trans hother
    exact ⟨_, hrefused body⟩
  · rcases renderer.html_renderParsed_cases body params with
      ⟨-, hhtml⟩ | ⟨-, fileType, code, htype, hcode, hhtml⟩
    · exact .inl hhtml
    · obtain ⟨hknows, marked, hmarked, rfl⟩ := highlightBy_eq_ok_iff.mp hcode
      exact .inr ⟨fileType, marked, htype, knows_eq_true_iff.mp hknows,
        fun _ => isForeign_of_knows hknows, hmarked, hhtml⟩

/-- A quote in the file type, and a letter that only Unicode takes for another case. -/
theorem render_confines_fileType_quote :
    let renderer : Renderer := { highlighter := highlight }
    (Params.parse "lang:rb'onclick='x a.rb").fileType = some "rb'onclick='x" ∧
      (renderer.render "lang:rb'onclick='x a.rb" "").html =
        Figure.plain (some "<figcaption><span>a.rb</span></figcaption>") "" .empty ∧
      (renderer.render "lang:r\u017F" "x").html = Figure.plain none "x" .empty := by
  intro renderer
  have hquote : (Params.parse "lang:rb'onclick='x a.rb").fileType = some "rb'onclick='x" := by decide
  have hcaption : (Params.parse "lang:rb'onclick='x a.rb").caption =
      some "<figcaption><span>a.rb</span></figcaption>" := by decide
  have hlong : (Params.parse "lang:r\u017F").fileType = some "r\u017F" := by decide
  have hnone : (Params.parse "lang:r\u017F").caption = none := by decide
  refine ⟨hquote, ?_, ?_⟩
  · obtain ⟨hplain, -⟩ :=
      render_confines_fileType plainGrammar .empty true "lang:rb'onclick='x a.rb" ""
    rw [← hcaption]
    exact (hplain _ hquote ⟨'\x27', by decide, by decide⟩).2
  · obtain ⟨hplain, -⟩ := render_confines_fileType plainGrammar .empty true "lang:r\u017F" "x"
    rw [← hnone]
    exact (hplain _ hlong ⟨'\u017F', by decide, by decide⟩).2

end CodeFigure.Renderer
