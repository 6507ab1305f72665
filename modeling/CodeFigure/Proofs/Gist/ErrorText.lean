/-
  CodeFigure/Proofs/Gist/ErrorText.lean
  =====================================
  **The comment that stands for a failed gist holds the whole error.**

  The message of the error and those of its causes, however many there are, are lines of
  the comment in this order.  A text can be disarmed in one way only (`disarmed_iff`), so
  the comment tells the lines but for the arrows in them.

  The arrow at the end of the comment is the only one in it (`append_end_eq_iff`).  The
  lines have none, and the line feeds around them keep the dashes of the comment's own
  marks from meeting theirs.
-/
import CodeFigure.Proofs.Gist.ErrorComment

namespace CodeFigure.Comment

open CodeFigure.Text
open CodeFigure.Markup

/-! ### The disarmed text -/

theorem disarm_eq_self {part : List Char} (hpart : ¬ "-->".toList <:+: part) :
    disarm part = part := by
  fun_induction disarm part with
  | case1 rest ih => exact absurd ⟨[], rest, rfl⟩ hpart
  | case2 c rest hne ih =>
    rw [ih]
    exact fun hrest => hpart (hrest.trans (List.suffix_cons c rest).isInfix)
  | case3 => rfl

/-- The first arrow is rewritten where it stands. -/
theorem disarm_append_arrow {part : List Char} (hpart : ¬ "-->".toList <:+: part) (s : List Char) :
    disarm (part ++ "-->".toList ++ s) = part ++ "--&gt;".toList ++ disarm s := by
  induction part with
  | nil => rfl
  | cons c part ih =>
    have hrest : ¬ "-->".toList <:+: part := fun h => hpart (h.trans (List.suffix_cons c part).isInfix)
    rw [List.cons_append, List.cons_append, disarm_cons, ih hrest, List.cons_append, List.cons_append]
    -- an arrow that starts at the character would be in the part, or has a wrong third character
    rintro later rfl hlater
    match part with
    | [] => simp at hlater
    | [d] => simp at hlater
    | d :: e :: part =>
      obtain ⟨rfl, htail⟩ := List.cons.inj hlater
      obtain ⟨rfl, -⟩ := List.cons.inj htail
      exact hpart ⟨[], part, rfl⟩

/-- **A text is disarmed in one way.** -/
theorem disarmed_iff {s written : List Char} : Disarmed s written ↔ written = disarm s := by
  constructor
  · intro hdisarmed
    induction hdisarmed with
    | plain hpart => exact (disarm_eq_self hpart).symm
    | arrow hpart hrest ih => rw [disarm_append_arrow hpart, ih]
  · rintro rfl
    exact disarmed_disarm s

/-! ### The arrow at the end -/

/-- Behind a text without arrows the end of a comment has the only one. -/
theorem append_end_eq_iff {front before after : List Char} (hfront : ¬ "-->".toList <:+: front) :
    front ++ "\n-->\n".toList = before ++ ("-->".toList ++ after) ↔
      before = front ++ ['\n'] ∧ after = ['\n'] := by
  constructor
  · intro hsplit
    rcases List.append_eq_append_iff.mp hsplit with ⟨between, rfl, hend⟩ | ⟨between, rfl, hend⟩
    · match between with
      | [] => simp at hend
      | [c] =>
        obtain ⟨rfl, hbehind⟩ := List.cons.inj hend
        have harrow : "-->".toList ++ after = "-->".toList ++ ['\n'] := hbehind.symm
        exact ⟨rfl, List.append_cancel_left harrow⟩
      | [c, d] => simp at hend
      | c :: d :: e :: between =>
        have hlength := congrArg List.length hend
        simp at hlength
        omega
    · -- the arrow would end in front of the line feed
      have hstart : "-->".toList <+: between ++ '\n' :: "-->\n".toList := ⟨after, hend⟩
      rw [prefix_append_cons_iff (by decide)] at hstart
      exact absurd (hstart.isInfix.trans (List.suffix_append before between).isInfix) hfront
  · rintro ⟨rfl, rfl⟩
    simp

theorem toList_ofLines_eq (lines : List String) :
    (ofLines lines).toList = "<!--\n".toList ++
      disarm (String.intercalate "\n" lines).toList ++ "\n-->\n".toList := by
  simp [ofLines]

theorem not_arrow_infix_open_append {shown : List Char} (hshown : ¬ "-->".toList <:+: shown) :
    ¬ "-->".toList <:+: "<!--\n".toList ++ shown := by
  have hsplit : "<!--\n".toList ++ shown = "<!--".toList ++ '\n' :: shown := rfl
  rw [hsplit, infix_append_cons_iff (by decide)]
  rintro (hmark | hinside)
  · revert hmark
    decide
  · exact hshown hinside

end CodeFigure.Comment

namespace CodeFigure.GistError

open CodeFigure.Markup
open CodeFigure.Text

/-! ### What there is to tell -/

/-- What there is to tell about an error: its own message, and then the message of
    everything that it came from, the nearest first. -/
inductive Tells : GistError → List String → Prop
  | malformed (text : String) :
      Tells (.reference (.malformed text))
        ["invalid gist reference " ++ quoted text ++ ": expected [owner/]id [filename]"]
  | invalidDigit (id : String) :
      Tells (.reference (.invalidId id .invalidDigit))
        ["invalid gist ID " ++ quoted id, "invalid digit found in string"]
  | tooLarge (id : String) :
      Tells (.reference (.invalidId id .tooLarge))
        ["invalid gist ID " ++ quoted id, "number too large to fit in target type"]
  | remote (reason attemptedUrl : String) : Tells (.remote reason attemptedUrl) [reason]
  | transport {message : String} {source : Option Fault} {messages : List String}
      (hsource : Fault.Chain source messages) :
      Tells (.transport ⟨message, source⟩) ("failed to download gist" :: message :: messages)
  | forbiddenCharacters (params : String) :
      Tells (.directive (.forbiddenCharacters params))
        ["failed to build codeblock for gist",
          "codeblock parameters cannot contain % or \x7b or \x7d: " ++ quoted params]
  | missingOpen :
      Tells (.directive .missingOpen)
        ["failed to build codeblock for gist", "missing opening \x7b% codeblock %\x7d tag"]
  | missingClose :
      Tells (.directive .missingClose)
        ["failed to build codeblock for gist", "missing closing \x7b% endcodeblock %\x7d tag"]

theorem causes_transport (message : String) (source : Option Fault) :
    (transport ⟨message, source⟩).causes = message :: Fault.walkFrom [] source := by
  cases source with
  | none => rfl
  | some fault => exact Fault.walk_eq_append [message] fault

/-- **There is one way to tell an error in full.** -/
theorem tells_iff {error : GistError} {messages : List String} :
    error.Tells messages ↔ messages = error.message :: error.causes := by
  constructor
  · intro htells
    cases htells with
    | transport hsource => rw [causes_transport, Fault.chain_iff.mp hsource, message]
    | _ => rfl
  · rintro rfl
    match error with
    | .reference (.malformed text) => exact .malformed text
    | .reference (.invalidId id .invalidDigit) => exact .invalidDigit id
    | .reference (.invalidId id .tooLarge) => exact .tooLarge id
    | .remote reason attemptedUrl => exact .remote reason attemptedUrl
    | .transport ⟨message, source⟩ =>
      rw [causes_transport]
      exact .transport (Fault.chain_iff.mpr rfl)
    | .directive (.forbiddenCharacters params) => exact .forbiddenCharacters params
    | .directive .missingOpen => exact .missingOpen
    | .directive .missingClose => exact .missingClose

/-- **The comment holds the whole error, and one arrow.**  Between the marks of the comment,
    on lines of their own, stand the message of the error and the messages of all that it came
    from, outermost first, with each `-->` written as `--&gt;` and nothing else changed.  The
    only `-->` of the comment is the one at its end.  This is what a page gets for a gist that
    fails with the error. -/
theorem comment_holds_chain (error : GistError) :
    (∃ messages, (∀ others, error.Tells others ↔ others = messages) ∧ ∃ written : List Char,
      (∀ other, Disarmed (String.intercalate "\n" messages).toList other ↔ other = written) ∧
      error.comment.toList = "<!--\n".toList ++ written ++ "\n-->\n".toList ∧
      ∀ before after, error.comment.toList = before ++ ("-->".toList ++ after) ↔
        before = "<!--\n".toList ++ written ++ ['\n'] ∧ after = ['\n']) ∧
    ∀ (tag : GistTag) (past : List String) (text : String),
      (tag.tryRender past text).result = .error error →
        (tag.render past text).result = error.comment := by
  have hcomment := Comment.toList_ofLines_eq (error.message :: error.causes)
  rw [← comment_eq_ofLines] at hcomment
  refine ⟨⟨_, fun _ => tells_iff, Comment.disarm _, fun _ => Comment.disarmed_iff, hcomment, ?_⟩,
    fun tag past text hfail => GistTag.render_of_error hfail⟩
  intro before after
  rw [hcomment]
  apply Comment.append_end_eq_iff
  exact Comment.not_arrow_infix_open_append (Comment.not_arrow_infix_disarm _)

/-- Dashes at the end of one message and a `>` at the start of the next make no arrow. -/
theorem comment_holds_chain_dashes :
    let error : TransportError :=
      ⟨"x--", some (.caused ">" (.caused "---->" (.bare "-->-->")))⟩
    let tag : GistTag :=
      { resolver := Resolver.forHost (fun _ _ => .error error) "http://h"
        renderer := { highlighter := fun code _ => .ok code } }
    (tag.tryRender [] "7").result = .error (.transport error) ∧
      (tag.render [] "7").result =
        "<!--\nfailed to download gist\nx--\n>\n----&gt;\n--&gt;--&gt;\n-->\n" ∧
      (tag.render [] "9223372036854775808").result =
        "<!--\ninvalid gist ID \"9223372036854775808\"\nnumber too large to fit in target type\n-->\n" := by
  intro error tag
  have hread : Reference.parse "7" = .ok ⟨7, none, none⟩ := rfl
  have hfail : (tag.tryRender [] "7").result = .error (.transport error) := by
    simp only [GistTag.tryRender, hread]
    rfl
  have hlarge : Reference.parse "9223372036854775808" =
      .error (.invalidId "9223372036854775808" .tooLarge) := rfl
  have hfail' : (tag.tryRender [] "9223372036854775808").result =
      .error (.reference (.invalidId "9223372036854775808" .tooLarge)) := by
    simp only [GistTag.tryRender, hlarge]
  obtain ⟨-, hrender⟩ := comment_holds_chain (.transport error)
  obtain ⟨-, hrender'⟩ := comment_holds_chain (.reference (.invalidId "9223372036854775808" .tooLarge))
  exact ⟨hfail, (hrender tag [] "7" hfail).trans (by decide +kernel),
    (hrender' tag [] _ hfail').trans (by decide +kernel)⟩

end CodeFigure.GistError
