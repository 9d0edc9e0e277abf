/-! A one-shot timer over a clock that never goes back. The clock is read by the caller. -/
namespace BridgeTag

structure Timer where
  /-- When it elapses; a timer that was never armed has always elapsed. -/
  deadline : Option Nat := none
deriving Repr, DecidableEq

namespace Timer

def set (_ : Timer) (now duration : Nat) : Timer := ⟨some (now + duration)⟩

def remaining (timer : Timer) (now : Nat) : Nat :=
  match timer.deadline with
  | some deadline => deadline - now
  | none => 0

def elapsed (timer : Timer) (now : Nat) : Bool := timer.remaining now = 0

/-- The first time from now on at which it has elapsed. -/
def joined (timer : Timer) (now : Nat) : Nat := now + timer.remaining now

end Timer
end BridgeTag
