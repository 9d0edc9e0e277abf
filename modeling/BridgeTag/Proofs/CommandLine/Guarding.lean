import BridgeTag.Proofs.CommandLine.Job

/-! Conversations that go on only while the card answers with success, and that end with the first
frame that changes the card. `Guarded` is read off the tree of a conversation, one constructor for
each kind of node; what it says of the frames follows for every card. -/
namespace BridgeTag

namespace Applet

/-- Class and instruction codes of the frames that change what the card holds or does. -/
def changing : List (UInt8 × UInt8) :=
  [(Class.interindustry, Ins.updateBinary), (Class.interindustry, Ins.createPassword),
    (Class.interindustry, Ins.changeOrUnblockPassword),
    (Class.interindustry, Ins.deletePassword), (Class.proprietary, Ins.setConfiguration),
    (Class.interindustry, Ins.personalizeData), (Class.interindustry, Ins.backendTest)]

def changesCard : Octets → Bool
  | cla :: ins :: _ => changing.contains (cla, ins)
  | _ => false

namespace Instruction

variable {order : Instruction} {frame : Octets}

def changesCard : Instruction → Bool
  | selectApplication | selectFile _ | selectFileWithPassword _ _ _ | readBinary _ _ | getData _
  | authenticateTag _ | passThroughFetch | getConfiguration _ => false
  | updateBinary _ _ | createPassword _ _ _ _ _ | changePassword _ _ _ | unblockPassword _ _
  | deletePassword _ _ | setConfiguration _ _ | personalizeData _ _ | finalizePersonalization
  | backendTest _ | disableBackendTests => true

/-- A frame changes the card exactly if its instruction is one that does. -/
theorem changesCard_of_octets (framed : (Request.instruction order).octets = .ok frame) :
    Applet.changesCard frame = order.changesCard := by
  obtain ⟨command, built, encoded⟩ := octets_eq_ok.mp framed
  obtain ⟨_, rfl⟩ := Apdu.Command.encode_eq_ok.mp encoded
  show changing.contains (command.cla, command.ins) = _
  cases order with
  | readBinary offset length =>
    obtain ⟨_, rfl⟩ := readCommand_eq_ok.mp built
    rfl
  | updateBinary offset data =>
    obtain ⟨_, rfl⟩ := updateCommand_eq_ok.mp built
    rfl
  | createPassword | changePassword | unblockPassword | deletePassword =>
    obtain ⟨_, rfl⟩ := passwordCommand_eq_ok.mp built
    rfl
  | authenticateTag challenge =>
    obtain ⟨_, rfl⟩ := authenticate_eq_ok.mp built
    rfl
  | setConfiguration tag value =>
    obtain ⟨_, rfl⟩ := setConfiguration_eq_ok.mp built
    rfl
  | personalizeData tag value =>
    obtain ⟨_, rfl⟩ := personalizeCommand_eq_ok.mp built
    rfl
  | finalizePersonalization =>
    rw [command_finalizePersonalization] at built
    obtain ⟨_, rfl⟩ := personalizeCommand_eq_ok.mp built
    rfl
  | backendTest tests =>
    obtain ⟨_, rfl⟩ := backendTest_eq_ok.mp built
    rfl
  | _ =>
    cases built
    rfl

end Instruction
end Applet

namespace CommandLine

open Applet

/-- Two octets or more, the last two of them 90 00. -/
def Succeeds (answer : Answer) : Prop := ∃ data, answer = .ok (data ++ [0x90, 0x00])

/-- A conversation that breaks off at the first answer without success. A frame that changes the
card satisfies `closing`, and no frame follows it. -/
inductive Guarded {α : Type} (closing : Octets → Prop) : Dialogue (Except Fault α) → Prop
  | done (result : Except Fault α) : Guarded closing (.done result)
  | harmless {frame : Octets} {next : Answer → Dialogue (Except Fault α)}
      (unchanged : changesCard frame = false)
      (stops : ∀ answer, ¬Succeeds answer → ∃ fault, next answer = .done (.error fault))
      (later : ∀ answer, Guarded closing (next answer)) : Guarded closing (.exchange frame next)
  | last {frame : Octets} {next : Answer → Dialogue (Except Fault α)} (closes : closing frame)
      (stops : ∀ answer, ¬Succeeds answer → ∃ fault, next answer = .done (.error fault))
      (ends : ∀ answer, ∃ result, next answer = .done result) :
      Guarded closing (.exchange frame next)

structure Kept {α : Type} (closing : Octets → Prop) (card : Card) (earlier frames : List Octets)
    (result : Except Fault α) : Prop where
  onward : ∀ place, place + 1 < frames.length →
    ∃ answer, (card.answers earlier frames)[place]? = some answer ∧ Succeeds answer
  changes : ∀ place frame, frames[place]? = some frame → changesCard frame = true →
    place + 1 = frames.length ∧ closing frame
  succeeds : ∀ value, result = .ok value → ∀ answer ∈ card.answers earlier frames, Succeeds answer

variable {α β : Type} {closing : Octets → Prop} {card : Card} {earlier frames : List Octets}
  {job : Job α} {next : α → Job β} {result : Except Fault α} {order : Instruction}
  {frame : Octets} {answer : Answer} {ins : UInt8}

/-- A job takes nothing from an answer without success, and ends. -/
theorem taken_stops (refused : ¬Succeeds answer) (ins : UInt8) :
    ∃ fault, (Dialogue.done (taken ins answer)) = .done (.error fault) := by
  cases found : taken ins answer with
  | ok data => exact absurd ⟨data, taken_eq_ok.mp found⟩ refused
  | error fault => exact ⟨fault, rfl⟩

/-- An instruction that makes a frame is one node of the tree. -/
theorem perform_framed (framed : (Request.instruction order).octets = .ok frame) (ins : UInt8) :
    (perform ins order).run = .exchange frame fun answer => .done (taken ins answer) := by
  unfold perform request Request.send
  rw [framed]
  refine congrArg (Dialogue.exchange frame) (funext fun answer => ?_)
  unfold taken
  dsimp only
  cases Request.received answer with
  | ok response => rfl
  | error failure => rfl

theorem perform_refused {failure : Failure}
    (refused : (Request.instruction order).octets = .error failure) (ins : UInt8) :
    (perform ins order).run = .done (.error (.library failure)) := by
  unfold perform request Request.send
  rw [refused]
  rfl

namespace Guarded

/-- Only the second of two jobs may change the card. -/
theorem bind (first : Guarded (fun _ => False) job.run)
    (second : ∀ value, Guarded closing (next value).run) : Guarded closing (job >>= next).run := by
  rw [ExceptT.run_bind]
  generalize job.run = dialogue at first
  -- along the tree of the first job; the second takes over where that is done
  induction first with
  | done result =>
    cases result with
    | ok value => exact second value
    | error fault => exact .done (.error fault)
  | harmless unchanged stops later ih =>
    refine .harmless unchanged ?_ ih
    intro answer refused
    obtain ⟨fault, stopped⟩ := stops answer refused
    exact ⟨fault, by rw [stopped]; rfl⟩
  | last closes => exact closes.elim

theorem map (f : α → β) (guarded : Guarded closing job.run) : Guarded closing (f <$> job).run := by
  rw [ExceptT.run_map]
  generalize job.run = dialogue at guarded
  induction guarded with
  | done result => exact .done (result.map f)
  | harmless unchanged stops later ih =>
    refine .harmless unchanged ?_ ih
    intro answer refused
    obtain ⟨fault, stopped⟩ := stops answer refused
    exact ⟨fault, by rw [stopped]; rfl⟩
  | last closes stops ends =>
    refine .last closes ?_ ?_
    · intro answer refused
      obtain ⟨fault, stopped⟩ := stops answer refused
      exact ⟨fault, by rw [stopped]; rfl⟩
    · intro answer
      obtain ⟨result, ended⟩ := ends answer
      exact ⟨result.map f, by rw [ended]; rfl⟩

/-- What is worked out without the card. -/
theorem lift (outcome : Except Fault α) : Guarded closing (liftM outcome : Job α).run :=
  .done outcome

end Guarded

theorem guarded_perform (unchanged : order.changesCard = false) (ins : UInt8) :
    Guarded closing (perform ins order).run := by
  cases framed : (Request.instruction order).octets with
  | error failure =>
    rw [perform_refused framed]
    exact .done _
  | ok frame =>
    rw [perform_framed framed]
    exact .harmless ((Instruction.changesCard_of_octets framed).trans unchanged)
      (fun _ refused => taken_stops refused ins) fun _ => .done _

theorem guarded_closing
    (closes : ∀ frame, (Request.instruction order).octets = .ok frame → closing frame)
    (ins : UInt8) : Guarded closing (perform ins order).run := by
  cases framed : (Request.instruction order).octets with
  | error failure =>
    rw [perform_refused framed]
    exact .done _
  | ok frame =>
    rw [perform_framed framed]
    exact .last (closes frame framed) (fun _ refused => taken_stops refused ins)
      fun _ => ⟨_, rfl⟩

namespace Kept

theorem nil (result : Except Fault α) : Kept closing card earlier [] result where
  onward := fun _ within => absurd within (Nat.not_lt_zero _)
  changes := fun _ _ found => nomatch found
  succeeds := fun _ _ => List.forall_mem_nil _

theorem singleton (closes : changesCard frame = true → closing frame)
    (stops : ¬Succeeds (card.answer earlier frame) → ∃ fault, result = .error fault) :
    Kept closing card earlier [frame] result where
  onward := by
    intro place within
    simp at within
  changes := by
    intro place found same changed
    cases place with
    | zero =>
      cases same
      exact ⟨rfl, closes changed⟩
    | succ place => cases same
  succeeds := by
    intro value same answer member
    obtain rfl := List.mem_singleton.mp member
    apply Classical.byContradiction
    intro refused
    obtain ⟨fault, failed⟩ := stops refused
    rw [same] at failed
    cases failed

theorem cons (unchanged : changesCard frame = false)
    (success : Succeeds (card.answer earlier frame))
    (later : Kept closing card (frame :: earlier) frames result) :
    Kept closing card earlier (frame :: frames) result where
  onward := by
    intro place within
    cases place with
    | zero => exact ⟨_, rfl, success⟩
    | succ place => exact later.onward place (Nat.lt_of_succ_lt_succ within)
  changes := by
    intro place found same changed
    cases place with
    | zero =>
      cases same
      rw [unchanged] at changed
      cases changed
    | succ place =>
      obtain ⟨final, closes⟩ := later.changes place found same changed
      exact ⟨congrArg Nat.succ final, closes⟩
  succeeds := by
    intro value same answer member
    rcases List.mem_cons.mp member with rfl | member
    · exact success
    · exact later.succeeds value same answer member

end Kept

/-- Whatever the card answers, a guarded conversation keeps to its frames. -/
theorem Guarded.run {dialogue : Dialogue (Except Fault α)} (guarded : Guarded closing dialogue)
    (card : Card) (earlier : List Octets) : ∃ result frames,
      dialogue.run card earlier = (result, frames) ∧ Kept closing card earlier frames result := by
  -- success leaves the subtree of the answer to be run, after one more frame; all else ends the run
  induction guarded generalizing earlier with
  | done result => exact ⟨result, [], rfl, .nil result⟩
  | @harmless frame next unchanged stops later ih =>
    rw [Dialogue.run_exchange]
    by_cases success : Succeeds (card.answer earlier frame)
    · obtain ⟨result, frames, ran, kept⟩ := ih (card.answer earlier frame) (frame :: earlier)
      rw [ran]
      exact ⟨result, frame :: frames, rfl, .cons unchanged success kept⟩
    · obtain ⟨fault, stopped⟩ := stops _ success
      rw [stopped]
      refine ⟨.error fault, [frame], rfl, .singleton ?_ fun _ => ⟨fault, rfl⟩⟩
      intro changed
      rw [unchanged] at changed
      cases changed
  | @last frame next closes stops ends =>
    obtain ⟨result, ended⟩ := ends (card.answer earlier frame)
    rw [Dialogue.run_exchange, ended]
    refine ⟨result, [frame], rfl, .singleton (fun _ => closes) ?_⟩
    intro refused
    obtain ⟨fault, stopped⟩ := stops _ refused
    rw [stopped] at ended
    cases ended
    exact ⟨fault, rfl⟩

end CommandLine
end BridgeTag
