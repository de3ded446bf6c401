import ChatMacro.Handler.Rejection
import ChatMacro.Proofs.Text.Case
import ChatMacro.Proofs.Text.Search

/-!
# Words where they occur

A rejected word and the text of a message are put into small letters apart from each other, and then
the one is sought in the other.  So a word is noticed where it occurs if its capital sigmas have the
forms there that they have in the word alone.  A word is noticed in every text in which it occurs
exactly if none of its capital sigmas is open.
-/

namespace ChatMacro
namespace Rejection

/-- A word is noticed in a text: the handler for the word breaks every draft off, and no handler
behind it runs, for every message with this text. -/
def Notices (word text : String) : Prop :=
  ∀ (message : Json) (later : Chain String) (draft : String),
    message.field? "text" = some (.string text) →
      Chain.dispatch (some message) (handler word :: later) draft =
        { subject := brokenDraft, ran := 1, stopped := true, notes := [(handler word).stopNote] }

/-- A word without an open capital sigma. -/
def Closed (word : String) : Prop :=
  ∀ earlier later, word.toList = earlier ++ 'Σ' :: later → ¬ Text.OpenSigma earlier.reverse later

section

variable {word text : String}

theorem applies_iff {message : Json} (field : message.field? "text" = some (.string text)) :
    applies word (some message) = true ↔ lowered word <:+: Text.toLower text.toList := by
  rw [applies, Option.bind_some, field]
  exact Text.contains_iff

theorem dispatch_of_applies {input : Option Json} (isIn : applies word input = true)
    (later : Chain String) (draft : String) :
    Chain.dispatch input (handler word :: later) draft =
      { subject := brokenDraft, ran := 1, stopped := true,
        notes := [(handler word).stopNote] } := by
  simp only [Chain.dispatch, handler, isIn, if_true]

/-- A handler that does not apply does not stop its chain. -/
theorem stopped_of_not_applies {input : Option Json} (isIn : applies word input = false)
    (draft : String) : (Chain.dispatch input [handler word] draft).stopped = false := by
  simp only [Chain.dispatch, handler, isIn, Bool.false_eq_true, if_false]

/-- A word is noticed in a text if its small form occurs in that of the text. -/
theorem notices_iff : Notices word text ↔ lowered word <:+: Text.toLower text.toList := by
  constructor
  · intro notices
    have field : (Json.object [("text", .string text)]).field? "text" = some (.string text) := rfl
    rw [← applies_iff field]
    by_contra passed
    have stopped := congrArg Dispatch.stopped (notices _ [] "" field)
    rw [stopped_of_not_applies (Bool.eq_false_iff.mpr passed)] at stopped
    cases stopped
  · intro occurs message later draft field
    exact dispatch_of_applies ((applies_iff field).mpr occurs) later draft

theorem toLower_around (front word back : String) :
    Text.toLower (front ++ word ++ back).toList =
      Text.toLowerBetween [] front.toList (word.toList ++ back.toList) ++
        Text.toLowerBetween front.toList.reverse word.toList back.toList ++
        Text.toLowerAfter (word.toList.reverse ++ front.toList.reverse) back.toList := by
  rw [String.toList_append, String.toList_append, Text.toLower_append_append]

end

/-- A word is noticed where it has its small form. -/
theorem notices_of_toLowerBetween {front word back : String}
    (same : Text.toLowerBetween front.toList.reverse word.toList back.toList = lowered word) :
    Notices word (front ++ word ++ back) := by
  rw [notices_iff, toLower_around, same]
  exact List.infix_append _ _ _

theorem not_notices_of_open {word : String} {earlier later : List Char}
    (split : word.toList = earlier ++ 'Σ' :: later)
    (isOpen : Text.OpenSigma earlier.reverse later) :
    ∃ front back, ¬ Notices word (front ++ word ++ back) := by
  obtain ⟨front, back, hidden⟩ := Text.exists_not_infix_of_open isOpen
  refine ⟨String.ofList front, String.ofList back, ?_⟩
  rw [notices_iff, lowered, String.toList_append, String.toList_append, String.toList_ofList,
    String.toList_ofList, split]
  exact hidden

/-- A word is noticed wherever its capital sigmas have the forms that they have in the word alone.
It is noticed in every text in which it occurs if and only if none of its capital sigmas is open,
that is, if for each of them something in the word that is not case-ignorable settles its form. -/
theorem notices_wherever_closed (word : String) :
    (∀ front back : String,
      (∀ earlier later, word.toList = earlier ++ 'Σ' :: later →
        Text.sigmaForm (earlier.reverse ++ front.toList.reverse) (later ++ back.toList) =
          Text.sigmaForm earlier.reverse later) →
      Notices word (front ++ word ++ back)) ∧
    ((∀ front back : String, Notices word (front ++ word ++ back)) ↔ Closed word) := by
  refine ⟨fun front back same => notices_of_toLowerBetween ?_, fun notices => ?_, fun closed => ?_⟩
  · rw [lowered, Text.toLower, Text.toLowerAfter_eq_toLowerBetween]
    refine Text.toLowerBetween_congr fun earlier later split => ?_
    simpa using same earlier later split
  · intro earlier later split isOpen
    obtain ⟨front, back, hidden⟩ := not_notices_of_open split isOpen
    exact hidden (notices front back)
  · intro front back
    exact notices_of_toLowerBetween (Text.toLowerBetween_of_not_open closed _ _)

/-- The sigma at the end of a word is final in the word alone, but not in front of a letter. -/
theorem unnoticed_finalSigma :
    "ΟΔΟΣ" ≠ "" ∧ ¬ Notices "ΟΔΟΣ" ("" ++ "ΟΔΟΣ" ++ "Α") := by
  refine ⟨by decide, ?_⟩
  rw [notices_iff, ← Text.contains_iff]
  decide +kernel

end Rejection
end ChatMacro
