import BridgeTag.Card

/-! Conversations one after another. The later one is held with a card that has seen the frames of
the earlier, and each frame sent has one answer. -/
namespace BridgeTag

namespace Dialogue

variable {α β : Type} {card : Card} {earlier : List Octets}

@[simp] theorem bind_exchange (frame : Octets) (more : Answer → Dialogue α)
    (next : α → Dialogue β) :
    exchange frame more >>= next = exchange frame fun answer => more answer >>= next := rfl

instance : LawfulMonad Dialogue := by
  refine LawfulMonad.mk' Dialogue ?_ (fun value next => rfl) ?_
  · intro α dialogue
    change dialogue >>= done = dialogue
    induction dialogue with
    | done value => rfl
    | exchange frame more ih => simp [ih]
  · intro α β γ dialogue next last
    induction dialogue with
    | done value => rfl
    | exchange frame more ih => simp [ih]

theorem run_exchange (frame : Octets) (next : Answer → Dialogue α) :
    (exchange frame next).run card earlier =
      (((next (card.answer earlier frame)).run card (frame :: earlier)).1,
        frame :: ((next (card.answer earlier frame)).run card (frame :: earlier)).2) := rfl

/-- Frames stand last first where the card remembers them, and in their order in the outcome. -/
theorem run_bind {dialogue : Dialogue α} {next : α → Dialogue β} {value : α} {outcome : β}
    {sent later : List Octets} (first : dialogue.run card earlier = (value, sent))
    (second : (next value).run card (sent.reverse ++ earlier) = (outcome, later)) :
    (dialogue >>= next).run card earlier = (outcome, sent ++ later) := by
  induction dialogue generalizing earlier sent with
  | done value =>
    cases first
    exact second
  | exchange frame more ih =>
    rw [run_exchange] at first
    cases first
    rw [List.reverse_cons, List.append_assoc] at second
    rw [bind_exchange, run_exchange, ih _ rfl second]
    rfl

theorem run_map {dialogue : Dialogue α} {value : α} {sent : List Octets} (f : α → β)
    (first : dialogue.run card earlier = (value, sent)) :
    (f <$> dialogue).run card earlier = (f value, sent) := by
  rw [← bind_pure_comp, ← List.append_nil sent]
  exact run_bind first rfl

end Dialogue

namespace Card

/-- What the card answers to frames sent after the `earlier` ones, which stand last first. -/
def answers (card : Card) (earlier : List Octets) : List Octets → List Answer
  | [] => []
  | frame :: later => card.answer earlier frame :: card.answers (frame :: earlier) later

/-- A script is answered in turn, whatever the frames are. -/
theorem answers_scripted (script : List Answer) (activation : Answer)
    (earlier frames : List Octets) {place : Nat} (within : place < frames.length) :
    ((scripted script activation).answers earlier frames)[place]? =
      some (script[earlier.length + place]?.getD (.ok [0x90, 0x00])) := by
  induction frames generalizing earlier place with
  | nil => cases within
  | cons frame frames ih =>
    cases place with
    | zero => rfl
    | succ place =>
      have next := ih (frame :: earlier) (Nat.lt_of_succ_lt_succ within)
      rw [List.length_cons, Nat.add_right_comm] at next
      exact next

end Card
end BridgeTag
