import BridgeTag.Apdu.Status
import BridgeTag.Applet.Request
import BridgeTag.CommandLine.Fault
import BridgeTag.CommandLine.Task
import BridgeTag.Json.Apdu
import BridgeTag.Json.Ndef
import BridgeTag.Json.Printer
import BridgeTag.Ndef.Decoding

/-! Tasks carried out in a conversation with a card. A task that needs the card selects the
applet first, and goes on only while the card answers with success. -/
namespace BridgeTag.CommandLine

open Applet Apdu Ndef

abbrev Job := ExceptT Fault Dialogue

def ndefFile : UInt16 := 0xE104

/-- Most octets asked for at once. -/
def chunk : UInt16 := 255

/-- Sends an instruction; any status word is welcome. -/
def request (order : Instruction) : Job Response :=
  ExceptT.mk do
    match ← (Request.instruction order).send with
    | .ok response => return .ok response
    | .error failure => return .error (.library failure)

/-- The data of a response to the instruction code, if it tells of success. -/
def accepted (ins : UInt8) (response : Response) : Except Fault Octets :=
  if response.ok then .ok response.data
  else .error (.status response.sw ((Status.lookup? ins response.sw).getD Status.unknown))

def perform (ins : UInt8) (order : Instruction) : Job Octets := do
  accepted ins (← request order)

def hexData (text : String) : Job Octets :=
  match Hex.decode text with
  | .ok octets => pure octets
  | .error fault => throw (.hex fault)

def decodeMessage (octets : Octets) : Except Fault (List Record) :=
  (Message.decode Registry.builtIn octets).mapError .library

def hexLine (octets : Octets) : String := Hex.encodeUpper octets ++ "\n"

def jsonLines (values : List Json.Value) : String := (Json.Value.array values).pretty 0 ++ "\n"

def recordLines (records : List Record) : String := jsonLines (records.map Record.toJson)

/-- The offset behind octets that were read, if one leads there. -/
def advance (offset : UInt16) (count : Nat) : Except Fault UInt16 :=
  if offset.toNat + count > 65535 then .error .fileTooLarge
  else .ok (offset + UInt16.ofNat count)

/-- Reads on until there are `length` octets, or until the card has no more to give; `received` are
the octets so far. What to ask for is worked out in sixteen bits. -/
def readUpTo (length offset : UInt16) (received : Octets) : Job Octets :=
  if _more : received.length < length.toNat then do
    let data ← perform Ins.readBinary
      (.readBinary offset (min (length - UInt16.ofNat received.length) chunk))
    if _some : data = [] then return received
    else
      let next ← advance offset data.length
      readUpTo length next (received ++ data)
  else return received
termination_by length.toNat - received.length
decreasing_by
  have := List.length_pos_iff.mpr _some
  rw [List.length_append]
  omega

/-- The length field of the NDEF file; one that is not two octets counts as zero. -/
def messageLength : Octets → UInt16
  | [high, low] => Octets.toU16 high low
  | _ => 0

def messageOffset : UInt16 := 2

def readNdef : Job (List Record) := do
  let _ ← perform Ins.select (.selectFile ndefFile)
  let length ← perform Ins.readBinary (.readBinary 0 messageOffset)
  let octets ← readUpTo (messageLength length) messageOffset []
  decodeMessage octets

def passwordOf (text : String) : Except Fault UInt32 :=
  match Hex.decode text with
  | .ok [a, b, c, d] => .ok (Octets.toU32 a b c d)
  | .ok _ => .error .password
  | .error fault => .error (.hex fault)

/-- The new password comes first, then the master password if there is one. -/
def changePassword (id : UInt8) (master : Bool) (typed : List String) : Job Octets := do
  match master, typed with
  | false, new :: _ =>
    perform Ins.changeOrUnblockPassword (.changePassword id (← passwordOf new) none)
  | true, new :: old :: _ =>
    perform Ins.changeOrUnblockPassword
      (.changePassword id (← passwordOf new) (some (← passwordOf old)))
  | _, _ => throw .noTerminal

/-- What a task prints; `typed` are the passwords it may ask for. -/
def Task.output (typed : List String) : Task → Job String
  | ndefUri uri =>
    match Message.encode [Record.ofUri (Uri.ofText uri)] with
    | .ok octets => return hexLine octets
    | .error failure => throw (.library failure)
  | ndefDecode message => do
    let records ← decodeMessage (← hexData message)
    return recordLines records
  | dgiDecode data => do
    match Dgi.decode (← hexData data) with
    | .ok entities => return jsonLines (entities.map Dgi.toJson)
    | .error failure => throw (.library failure)
  | status ins sw => return (Status.lookup? ins sw).getD Status.unknown ++ "\n"
  | select => hexLine <$> selected
  | version => do
    let _ ← selected
    hexLine <$> perform Ins.getData (.getData .appletVersion)
  | memory => do
    let _ ← selected
    hexLine <$> perform Ins.getData (.getData .availableMemory)
  | read fid offset length => do
    let _ ← selected
    let _ ← perform Ins.select (.selectFile fid)
    hexLine <$> perform Ins.readBinary (.readBinary offset length)
  | update fid offset data => do
    let _ ← selected
    let _ ← perform Ins.select (.selectFile fid)
    let octets ← hexData data
    hexLine <$> perform Ins.updateBinary (.updateBinary offset octets)
  | readNdef => do
    let _ ← selected
    recordLines <$> CommandLine.readNdef
  | getConfig tag => do
    let _ ← selected
    hexLine <$> perform Ins.getConfiguration (.getConfiguration tag)
  | setConfig tag value => do
    let _ ← selected
    let octets ← hexData value
    hexLine <$> perform Ins.setConfiguration (.setConfiguration tag octets)
  | personalize dgi value => do
    let _ ← selected
    let octets ← hexData value
    hexLine <$> perform Ins.personalizeData (.personalizeData dgi octets)
  | finalize => do
    let _ ← selected
    hexLine <$> perform Ins.personalizeData .finalizePersonalization
  | backendTest tests disable => do
    let _ ← selected
    hexLine <$> perform Ins.backendTest
      (if disable then .disableBackendTests else .backendTest tests)
  | changePassword id master => do
    let _ ← selected
    hexLine <$> CommandLine.changePassword id master typed
where
  selected : Job Octets := perform Ins.select .selectApplication

inductive Outcome where
  | printed (text : String)
  | failed (fault : Fault)
  /-- The arguments fit nothing; the card has not been spoken to. -/
  | rejected
deriving Repr, DecidableEq

namespace Outcome

def exitCode : Outcome → UInt32
  | printed _ => 0
  | failed _ => 1
  | rejected => 2

def output : Outcome → String
  | printed text => text
  | failed _ | rejected => ""

end Outcome

def versionLine : String := "nbt 0.1.0\n"

def helpLines : String :=
  String.join ("nbt [--timeout SECONDS] TASK\n" :: Task.shapes.map fun (name, _) =>
    "  " ++ name ++ "\n")

def run (arguments typed : List String) : Dialogue Outcome :=
  match Invocation.ofArguments arguments with
  | .rejected => return .rejected
  | .version => return .printed versionLine
  | .help => return .printed helpLines
  | .task task => do
    match ← (task.output typed).run with
    | .ok text => return .printed text
    | .error fault => return .failed fault

end BridgeTag.CommandLine
