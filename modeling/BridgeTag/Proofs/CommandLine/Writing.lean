import BridgeTag.Proofs.CommandLine.Guarding

/-! What a run of the command line sends. A task that needs the card selects the applet first and
goes on only after success; what changes the card comes last, and only with arguments in order. -/
namespace BridgeTag.CommandLine

open Applet

namespace Task

def offline : Task → Bool
  | ndefUri _ | ndefDecode _ | dgiDecode _ | status _ _ => true
  | _ => false

/-- The instruction by which a task changes the card, its data being what the digits spell. -/
inductive Writes : Task → Instruction → Prop
  | update {fid offset : UInt16} {data : String} {octets : Octets}
      (digits : Hex.decode data = .ok octets) :
      Writes (.update fid offset data) (.updateBinary offset octets)
  | setConfig {tag : UInt16} {value : String} {octets : Octets}
      (digits : Hex.decode value = .ok octets) :
      Writes (.setConfig tag value) (.setConfiguration tag octets)
  | personalize {dgi : UInt16} {value : String} {octets : Octets}
      (digits : Hex.decode value = .ok octets) :
      Writes (.personalize dgi value) (.personalizeData dgi octets)
  | finalize : Writes .finalize .finalizePersonalization
  | backendTest {tests : UInt8} : Writes (.backendTest tests false) (.backendTest tests)
  | disableBackendTests {tests : UInt8} : Writes (.backendTest tests true) .disableBackendTests
  | changePassword {id : UInt8} {new : UInt32} {old : Option UInt32} :
      Writes (.changePassword id old.isSome) (.changePassword id new old)

/-- The frame by which a task changes the card, made of valid arguments. -/
def Closing (task : Task) (frame : Octets) : Prop :=
  ∃ order, task.Writes order ∧ order.InBounds ∧ (Request.instruction order).octets = .ok frame

end Task

def selection : Octets := [0x00, 0xA4, 0x04, 0x00, 0x0D] ++ aid ++ [0x00]

variable {α β : Type} {closing : Octets → Prop} {task : Task} {job : Job α} {next : α → Job β}
  {order : Instruction} {text : String} {arguments typed : List String}
  {card : Card} {frames : List Octets} {result : Except Fault String}

theorem octets_selectApplication :
    (Request.instruction .selectApplication).octets = .ok selection := rfl

theorem done_bind (first : ∃ result, job.run = .done result)
    (second : ∀ value, ∃ result, (next value).run = .done result) :
    ∃ result, (job >>= next).run = .done result := by
  obtain ⟨result, first⟩ := first
  rw [ExceptT.run_bind, first]
  cases result with
  | ok value => exact second value
  | error fault => exact ⟨.error fault, rfl⟩

theorem run_hexData (text : String) :
    (hexData text).run = .done ((Hex.decode text).mapError .hex) := by
  unfold hexData
  cases Hex.decode text <;> rfl

/-- What follows works with the octets that the digits spell. -/
theorem guarded_hexData {next : Octets → Job α}
    (second : ∀ octets, Hex.decode text = .ok octets → Guarded closing (next octets).run) :
    Guarded closing (hexData text >>= next).run := by
  rw [ExceptT.run_bind, run_hexData]
  cases digits : Hex.decode text with
  | error fault => exact .done (.error (.hex fault))
  | ok octets => exact second octets digits

theorem guarded_selected : Guarded closing Task.output.selected.run := guarded_perform rfl _

/-- The loop does nothing but read. -/
theorem guarded_readUpTo (length offset : UInt16) (received : Octets) :
    Guarded closing (readUpTo length offset received).run := by
  induction left : length.toNat - received.length using Nat.strongRecOn
    generalizing offset received with
  | _ left ih =>
    rw [readUpTo]
    split
    next missing =>
      refine .bind (guarded_perform rfl _) fun data => ?_
      split
      next => exact .done _
      next some =>
        refine .bind (.lift _) fun next => ih _ ?_ next (received ++ data) rfl
        have grown := List.length_pos_iff.mpr some
        rw [List.length_append]
        omega
    next => exact .done _

theorem guarded_readNdef : Guarded closing readNdef.run := by
  refine .bind (guarded_perform rfl _) fun _ => .bind (guarded_perform rfl _) fun field => ?_
  exact .bind (guarded_readUpTo _ _ _) fun octets => .lift _

theorem guarded_write (writes : task.Writes order) (ins : UInt8) :
    Guarded task.Closing (hexLine <$> perform ins order).run := by
  refine .map _ (guarded_closing ?_ ins)
  intro frame framed
  exact ⟨order, writes, Instruction.inBounds_of_octets framed, framed⟩

theorem guarded_changePassword (id : UInt8) (master : Bool) (typed : List String) :
    Guarded (Task.changePassword id master).Closing
      (hexLine <$> changePassword id master typed).run := by
  have asked (new : UInt32) (old : Option UInt32) (given : old.isSome = master) :
      Guarded (Task.changePassword id master).Closing
        (perform Ins.changeOrUnblockPassword (.changePassword id new old)).run := by
    subst given
    refine guarded_closing ?_ _
    intro frame framed
    exact ⟨_, .changePassword, Instruction.inBounds_of_octets framed, framed⟩
  refine .map _ ?_
  unfold changePassword
  split
  next => exact .bind (.lift _) fun new => asked new none rfl
  next => exact .bind (.lift _) fun new => .bind (.lift _) fun old => asked new (some old) rfl
  next => exact .done _

theorem run_ndefUri (uri : String) (typed : List String) :
    ((Task.ndefUri uri).output typed).run = .done
      (((Ndef.Message.encode [.ofUri (.ofText uri)]).map hexLine).mapError .library) := by
  unfold Task.output
  dsimp only
  cases Ndef.Message.encode [.ofUri (.ofText uri)] with
  | ok octets => rfl
  | error failure => rfl

theorem output_offline (offline : task.offline = true) (typed : List String) :
    ∃ result, (task.output typed).run = .done result := by
  cases task with
  | ndefUri uri =>
    exact ⟨_, run_ndefUri uri typed⟩
  | ndefDecode message =>
    refine done_bind ⟨_, run_hexData message⟩ fun octets => ?_
    exact done_bind ⟨decodeMessage octets, rfl⟩ fun records => ⟨.ok _, rfl⟩
  | dgiDecode data =>
    refine done_bind ⟨_, run_hexData data⟩ fun octets => ?_
    cases Dgi.decode octets with
    | ok entities => exact ⟨_, rfl⟩
    | error failure => exact ⟨_, rfl⟩
  | status ins sw => exact ⟨_, rfl⟩
  | _ => cases offline

/-- The tree of a task that needs the card starts with the selection of the applet. -/
theorem output_online (online : task.offline = false) (typed : List String) :
    ∃ next, (task.output typed).run = .exchange selection next := by
  have opened {β : Type} (later : Octets → Job β) : ∃ next,
      (Task.output.selected >>= later).run = .exchange selection next := by
    rw [ExceptT.run_bind, Task.output.selected, perform_framed octets_selectApplication]
    exact ⟨_, rfl⟩
  cases task with
  | ndefUri | ndefDecode | dgiDecode | status => cases online
  | select => exact opened fun octets => pure (hexLine octets)
  | _ => exact opened _

theorem guarded_output (task : Task) (typed : List String) :
    Guarded task.Closing (task.output typed).run := by
  by_cases offline : task.offline = true
  · obtain ⟨result, alone⟩ := output_offline offline typed
    rw [alone]
    exact .done result
  · cases task with
    | ndefUri | ndefDecode | dgiDecode | status => exact absurd rfl offline
    | select => exact .map _ guarded_selected
    | version | memory | getConfig =>
      exact .bind guarded_selected fun _ => .map _ (guarded_perform rfl _)
    | read =>
      refine .bind guarded_selected fun _ => .bind (guarded_perform rfl _) fun _ => ?_
      exact .map _ (guarded_perform rfl _)
    | readNdef => exact .bind guarded_selected fun _ => .map _ guarded_readNdef
    | update =>
      refine .bind guarded_selected fun _ => .bind (guarded_perform rfl _) fun _ => ?_
      exact guarded_hexData fun octets digits => guarded_write (.update digits) _
    | setConfig =>
      refine .bind guarded_selected fun _ => guarded_hexData fun octets digits => ?_
      exact guarded_write (.setConfig digits) _
    | personalize =>
      refine .bind guarded_selected fun _ => guarded_hexData fun octets digits => ?_
      exact guarded_write (.personalize digits) _
    | finalize => exact .bind guarded_selected fun _ => guarded_write .finalize _
    | backendTest tests disable =>
      refine .bind guarded_selected fun _ => ?_
      cases disable with
      | false => exact guarded_write .backendTest _
      | true => exact guarded_write .disableBackendTests _
    | changePassword id master =>
      exact .bind guarded_selected fun _ => guarded_changePassword id master typed

def Outcome.ofResult : Except Fault String → Outcome
  | .ok text => .printed text
  | .error fault => .failed fault

theorem run_task (asked : Invocation.ofArguments arguments = .task task)
    (ran : (task.output typed).run.run card [] = (result, frames)) :
    (run arguments typed).run card [] = (.ofResult result, frames) := by
  unfold run
  rw [asked, ← List.append_nil frames]
  refine Dialogue.run_bind ran ?_
  cases result <;> rfl

/-- What a run for a task keeps to, whatever the card answers. -/
structure Task.Orderly (task : Task) (card : Card) (frames : List Octets) (outcome : Outcome) :
    Prop where
  offline : task.offline = true → frames = []
  selects : task.offline = false → ∃ later, frames = selection :: later
  onward : ∀ place, place + 1 < frames.length →
    ∃ answer, (card.answers [] frames)[place]? = some answer ∧ Succeeds answer
  changes : ∀ place frame, frames[place]? = some frame → changesCard frame = true →
    place + 1 = frames.length ∧ task.Closing frame
  succeeds : outcome.exitCode = 0 → ∀ answer ∈ card.answers [] frames, Succeeds answer

/-- Arguments that ask for a task make a run that ends, whatever the card answers. Without need of
the card it sends nothing. Otherwise it selects the applet first; each further frame follows an
answer of success; a frame that changes the card is the last one, and it is that of the task with
valid arguments; and the run ends well only if every answer was one of success. -/
theorem run_orderly (asked : Invocation.ofArguments arguments = .task task) (typed : List String)
    (card : Card) : ∃ outcome frames,
      (run arguments typed).run card [] = (outcome, frames) ∧
        task.Orderly card frames outcome := by
  obtain ⟨result, frames, ran, kept⟩ := (guarded_output task typed).run card []
  refine ⟨.ofResult result, frames, run_task asked ran, ?_, ?_, kept.onward, kept.changes, ?_⟩
  · intro offline
    obtain ⟨result', alone⟩ := output_offline offline typed
    rw [alone] at ran
    cases ran
    rfl
  · intro online
    obtain ⟨next, opened⟩ := output_online online typed
    rw [opened, Dialogue.run_exchange] at ran
    cases ran
    exact ⟨_, rfl⟩
  · intro success
    cases result with
    | ok text => exact kept.succeeds text rfl
    | error fault => cases success

def updateArguments : List String := ["update", "--fid", "0xE104", "--offset", "2", "D00000"]

/-- The card lets the applet and the file be selected, and then the file be written. -/
theorem run_update_orderly :
    Invocation.ofArguments updateArguments = .task (.update 0xE104 2 "D00000") ∧
      (Task.update 0xE104 2 "D00000").Orderly (.scripted [] (.ok []))
        [selection, [0x00, 0xA4, 0x00, 0x0C, 0x02, 0xE1, 0x04],
          [0x00, 0xD6, 0x00, 0x02, 0x03, 0xD0, 0x00, 0x00]] (.printed "\n") := by
  have asked : Invocation.ofArguments updateArguments = .task (.update 0xE104 2 "D00000") := rfl
  have whole : (run updateArguments []).run (.scripted [] (.ok [])) [] =
      (.printed "\n", [selection, [0x00, 0xA4, 0x00, 0x0C, 0x02, 0xE1, 0x04],
        [0x00, 0xD6, 0x00, 0x02, 0x03, 0xD0, 0x00, 0x00]]) := rfl
  obtain ⟨outcome, frames, ran, orderly⟩ := run_orderly asked [] (.scripted [] (.ok []))
  rw [whole] at ran
  cases ran
  exact ⟨asked, orderly⟩

/-- There is no such file, so nothing is written. -/
example : (run updateArguments []).run
      (.scripted [.ok [0x90, 0x00], .ok [0x6A, 0x82]] (.ok [])) [] =
    (.failed (.status 0x6A82 "Application or file not found"),
      [selection, [0x00, 0xA4, 0x00, 0x0C, 0x02, 0xE1, 0x04]]) := rfl

end BridgeTag.CommandLine
