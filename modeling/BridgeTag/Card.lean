import BridgeTag.Octets

/-! Cards, and the conversations held with them. A card may answer a frame in the light of all
frames before it, so a conversation is a tree: one node for each frame sent, one branch for each
answer. Running it keeps the frames in order. -/
namespace BridgeTag

/-- Octets, or the words of the link that failed. -/
abbrev Answer := Except String Octets

structure Card where
  /-- What activating the link gives. -/
  activation : Answer
  /-- The answer to a frame, after the earlier ones, last first. -/
  answer (earlier : List Octets) (frame : Octets) : Answer

namespace Card

/-- Gives the answers in turn, and status 9000 after the last. -/
def scripted (answers : List Answer) (activation : Answer) : Card where
  activation := activation
  answer earlier _ := answers[earlier.length]?.getD (.ok [0x90, 0x00])

end Card

inductive Dialogue (α : Type) where
  | done (value : α)
  | exchange (frame : Octets) (next : Answer → Dialogue α)

namespace Dialogue

def bind {α β : Type} (dialogue : Dialogue α) (next : α → Dialogue β) : Dialogue β :=
  match dialogue with
  | done value => next value
  | exchange frame more => exchange frame fun answer => (more answer).bind next

instance : Monad Dialogue where
  pure := done
  bind := bind

/-- The outcome, and the frames sent in their order. -/
def run {α : Type} (card : Card) (earlier : List Octets) : Dialogue α → α × List Octets
  | done value => (value, [])
  | exchange frame next =>
    let (value, sent) := (next (card.answer earlier frame)).run card (frame :: earlier)
    (value, frame :: sent)

end Dialogue
end BridgeTag
