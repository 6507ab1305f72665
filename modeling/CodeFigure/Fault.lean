/-
  CodeFigure/Fault.lean
  =====================
  **Errors that came from other errors.**

  An error has a message, and it may have a source: the error that it came from, which may
  have a source in turn.  To report an error in full is to walk along the sources and to take
  the messages down on the way, the outermost first.
-/
namespace CodeFigure

/-- What happened, and the error that it came from if there is one. -/
inductive Fault where
  | bare (message : String)
  | caused (message : String) (source : Fault)
deriving DecidableEq, Repr

namespace Fault

def message : Fault → String
  | .bare message => message
  | .caused message _ => message

def source? : Fault → Option Fault
  | .bare _ => none
  | .caused _ source => some source

/-- Go on from a fault, with the messages in `told` taken down already. -/
def walk (told : List String) : Fault → List String
  | .bare message => told ++ [message]
  | .caused message source => source.walk (told ++ [message])

/-- Go on from a source, if there is one. -/
def walkFrom (told : List String) : Option Fault → List String
  | none => told
  | some source => source.walk told

/-- What there is to tell from a source on: its message, and what there is to tell from its
    own source on. -/
inductive Chain : Option Fault → List String → Prop
  | done : Chain none []
  | step {fault : Fault} {messages : List String} (hsource : Chain fault.source? messages) :
      Chain (some fault) (fault.message :: messages)

/-- The chain of faults with these messages. -/
def ofMessages : List String → Option Fault
  | [] => none
  | message :: messages =>
    match ofMessages messages with
    | none => some (.bare message)
    | some source => some (.caused message source)

/-- A chain can be written down as its messages. -/
instance : Coe (List String) (Option Fault) := ⟨ofMessages⟩

/-! ### What the walk tells -/

theorem walk_eq_append (told : List String) (fault : Fault) :
    fault.walk told = told ++ fault.walk [] := by
  induction fault generalizing told with
  | bare message => rfl
  | caused message source ih =>
    rw [walk, walk, ih (told ++ [message]), ih ([] ++ [message]), List.nil_append,
      List.append_assoc]

/-- What has been taken down stays in front. -/
theorem walkFrom_eq_append (told : List String) (source : Option Fault) :
    walkFrom told source = told ++ walkFrom [] source := by
  cases source with
  | none => exact (List.append_nil told).symm
  | some fault => exact walk_eq_append told fault

theorem walk_eq_cons (fault : Fault) :
    fault.walk [] = fault.message :: walkFrom [] fault.source? := by
  cases fault with
  | bare message => rfl
  | caused message source => exact walk_eq_append [message] source

theorem chain_walk (fault : Fault) : Chain (some fault) (fault.walk []) := by
  induction fault with
  | bare message => exact .step .done
  | caused message source ih =>
    rw [walk_eq_cons]
    exact .step ih

/-- **The walk tells all there is to tell.** -/
theorem chain_iff {source : Option Fault} {messages : List String} :
    Chain source messages ↔ messages = walkFrom [] source := by
  constructor
  · intro hchain
    induction hchain with
    | done => rfl
    | step _ ih => rw [ih, walkFrom, walk_eq_cons]
  · rintro rfl
    cases source with
    | none => exact .done
    | some fault => exact chain_walk fault

/-- Any messages, however many, are what some chain tells. -/
theorem chain_ofMessages (messages : List String) : Chain (ofMessages messages) messages := by
  induction messages with
  | nil => exact .done
  | cons message messages ih =>
    rw [ofMessages]
    cases hsource : ofMessages messages with
    | none =>
      rw [hsource] at ih
      exact .step ih
    | some source =>
      rw [hsource] at ih
      exact .step ih

end Fault

end CodeFigure
