import BridgeTag.CommandLine.Run
import BridgeTag.Proofs.Applet.Session

/-! Jobs held with a card. A job ends at its first fault, and the frames of its parts follow each
other. An instruction sends one frame, and only an answer of success brings data. -/
namespace BridgeTag.CommandLine

open Applet Apdu

/-- What the answer to an instruction comes to: data, or the fault that ends the job. -/
def taken (ins : UInt8) (answer : Answer) : Except Fault Octets :=
  match Request.received answer with
  | .ok response => accepted ins response
  | .error failure => .error (.library failure)

variable {α β : Type} {card : Card} {earlier sent later : List Octets} {job : Job α}
  {next : α → Job β} {value : α} {result : Except Fault β} {fault : Fault} {ins : UInt8}
  {order : Instruction} {frame data : Octets} {answer : Answer}

theorem run_bind_ok (first : job.run.run card earlier = (.ok value, sent))
    (second : (next value).run.run card (sent.reverse ++ earlier) = (result, later)) :
    (job >>= next).run.run card earlier = (result, sent ++ later) := by
  rw [ExceptT.run_bind]
  exact Dialogue.run_bind first second

/-- A fault ends the job: nothing more is sent. -/
theorem run_bind_error (first : job.run.run card earlier = (.error fault, sent)) :
    (job >>= next).run.run card earlier = (.error fault, sent) := by
  rw [ExceptT.run_bind, ← List.append_nil sent]
  exact Dialogue.run_bind first rfl

/-- What is worked out at the end of a job sends nothing. -/
theorem run_bind_lift {outcome : Except Fault α} (last : α → Except Fault β)
    (first : job.run.run card earlier = (outcome, sent)) :
    (job >>= fun value => (liftM (last value) : Job β)).run.run card earlier =
      (outcome.bind last, sent) := by
  cases outcome with
  | ok value =>
    rw [← List.append_nil sent]
    exact run_bind_ok first rfl
  | error fault => exact run_bind_error first

theorem accepted_eq_ok {response : Response} : accepted ins response = .ok data ↔
    response = ⟨data, Response.success⟩ := by
  rcases response with ⟨found, sw⟩
  unfold accepted Response.ok
  by_cases success : sw = Response.success
  · simp [success]
  · simp [success]

theorem ofU16_success : Octets.ofU16 Response.success = [0x90, 0x00] := by decide

/-- Data is taken from an answer exactly if the status word behind it tells of success. -/
theorem taken_eq_ok : taken ins answer = .ok data ↔ answer = .ok (data ++ [0x90, 0x00]) := by
  constructor
  · intro found
    unfold taken at found
    split at found
    next response received =>
      obtain rfl := accepted_eq_ok.mp found
      cases Request.received_eq_iff.mp received with
      | response parts =>
        rw [ofU16_success] at parts
        rw [parts]
    next => cases found
  · intro success
    subst success
    have received : Request.received (.ok (data ++ [0x90, 0x00])) =
        .ok ⟨data, Response.success⟩ :=
      Request.received_eq_iff.mpr (.response (by rw [ofU16_success]))
    unfold taken
    rw [received]
    exact accepted_eq_ok.mpr rfl

theorem ne_success_of_taken (refused : taken ins answer = .error fault) (data : Octets) :
    answer ≠ .ok (data ++ [0x90, 0x00]) := by
  intro success
  rw [taken_eq_ok.mpr success] at refused
  cases refused

theorem run_request (framed : (Request.instruction order).octets = .ok frame) (card : Card)
    (earlier : List Octets) : (request order).run.run card earlier =
      ((Request.received (card.answer earlier frame)).mapError .library, [frame]) := by
  have sent : (Request.instruction order).send.run card earlier =
      (Request.received (card.answer earlier frame), [frame]) := by
    unfold Request.send
    rw [framed]
    rfl
  refine Dialogue.run_bind sent ?_
  cases Request.received (card.answer earlier frame) <;> rfl

/-- An instruction that makes a frame sends it, once, and comes to what is taken from the answer. -/
theorem run_perform (framed : (Request.instruction order).octets = .ok frame) (ins : UInt8)
    (card : Card) (earlier : List Octets) : (perform ins order).run.run card earlier =
      (taken ins (card.answer earlier frame), [frame]) := by
  have asked := run_request framed card earlier
  unfold perform taken
  cases received : Request.received (card.answer earlier frame) with
  | ok response =>
    rw [received] at asked
    exact run_bind_ok asked rfl
  | error failure =>
    rw [received] at asked
    exact run_bind_error asked

end BridgeTag.CommandLine
