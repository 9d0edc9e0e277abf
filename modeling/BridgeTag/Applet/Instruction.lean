import BridgeTag.Apdu.Command
import BridgeTag.Dgi

/-! The instructions the tag applet understands and the command APDU each one becomes.
Instructions check their own arguments; whether the APDU can be framed is left to its encoding. -/
namespace BridgeTag.Applet

open Apdu

def aid : Octets := [0xD2, 0x76, 0, 0, 4, 0x15, 2, 0, 0, 0x0B, 0, 1, 1]

namespace Class

def interindustry : UInt8 := 0x00

def proprietary : UInt8 := 0x20

end Class

namespace Ins

def select : UInt8 := 0xA4
def readBinary : UInt8 := 0xB0
def updateBinary : UInt8 := 0xD6
def createPassword : UInt8 := 0xE1
def changeOrUnblockPassword : UInt8 := 0x24
def deletePassword : UInt8 := 0xE4
def getData : UInt8 := 0x30
def authenticateTag : UInt8 := 0x88
def passThroughFetch : UInt8 := 0xCA
def getConfiguration : UInt8 := 0x30
def setConfiguration : UInt8 := 0x20
def personalizeData : UInt8 := 0xE2
def backendTest : UInt8 := 0xBE

end Ins

inductive DataReference where
  | appletVersion
  | availableMemory
deriving Repr, DecidableEq

namespace DataReference

def p1p2 : DataReference → UInt8 × UInt8
  | appletVersion => (0xDF, 0x3A)
  | availableMemory => (0xDF, 0x3B)

end DataReference

namespace PasswordId

/-- Password identifiers are five bits wide and zero names none. -/
def least : UInt8 := 0x01
def greatest : UInt8 := 0x1F

def valid (id : UInt8) : Bool := least ≤ id && id ≤ greatest

end PasswordId

def allBackendTests : UInt8 := 0x7F

inductive Instruction where
  -- operation
  | selectApplication
  | selectFile (fid : UInt16)
  | selectFileWithPassword (fid : UInt16) (read write : Option UInt32)
  | readBinary (offset length : UInt16)
  | updateBinary (offset : UInt16) (data : Octets)
  | createPassword (id : UInt8) (password : UInt32) (response limit : UInt16)
      (master : Option UInt32)
  | changePassword (id : UInt8) (new : UInt32) (master : Option UInt32)
  | unblockPassword (id : UInt8) (master : Option UInt32)
  | deletePassword (id : UInt8) (master : Option UInt32)
  | getData (reference : DataReference)
  | authenticateTag (challenge : Octets)
  | passThroughFetch
  -- configuration
  | getConfiguration (tag : UInt16)
  | setConfiguration (tag : UInt16) (value : Octets)
  -- personalization
  | personalizeData (tag : UInt16) (value : Octets)
  | finalizePersonalization
  | backendTest (tests : UInt8)
  | disableBackendTests
deriving Repr, DecidableEq

namespace Instruction

def refuse (operation : String) : Except Failure Command :=
  .error ⟨.command, operation, .illegalArgument⟩

def password (value : Option UInt32) : Octets :=
  match value with
  | none => []
  | some value => Octets.ofU32 value

/-- A password behind a tag and its length; an absent one leaves no trace. -/
def taggedPassword (tag : UInt8) (value : Option UInt32) : Octets :=
  match value with
  | none => []
  | some value => tag :: 4 :: Octets.ofU32 value

def selectById (data : Octets) : Command :=
  ⟨Class.interindustry, Ins.select, 0x00, 0x0C, data, none⟩

def readCommand (offset length : UInt16) : Except Failure Command :=
  if length = 0 || length > 256 then refuse "read_binary"
  else
    let le := if length = 256 then Le.any else Le.exact length
    .ok ⟨Class.interindustry, Ins.readBinary, UInt8.ofNat (offset.toNat / 256),
      UInt8.ofNat offset.toNat, [], some le⟩

def updateCommand (offset : UInt16) (data : Octets) : Except Failure Command :=
  if data.isEmpty || data.length > 255 then refuse "update_binary"
  else .ok ⟨Class.interindustry, Ins.updateBinary, UInt8.ofNat (offset.toNat / 256),
    UInt8.ofNat offset.toNat, data, none⟩

/-- A password instruction names its password in P2, below `mode`. -/
def passwordCommand (operation : String) (ins id mode : UInt8) (data : Octets) :
    Except Failure Command :=
  if PasswordId.valid id then .ok ⟨Class.interindustry, ins, 0x00, mode ||| id, data, none⟩
  else refuse operation

/-- The data group's own limit goes before that of the data field. -/
def personalizeCommand (tag : UInt16) (value : Octets) : Except Failure Command :=
  match Dgi.encode [⟨tag, value⟩] with
  | .error failure => .error failure
  | .ok data =>
    if data.length > 65535 then refuse "personalize_data"
    else .ok ⟨Class.interindustry, Ins.personalizeData, 0x00, 0x00, data, none⟩

def command : Instruction → Except Failure Command
  | selectApplication => .ok ⟨Class.interindustry, Ins.select, 0x04, 0x00, aid, some .any⟩
  | selectFile fid => .ok (selectById (Octets.ofU16 fid))
  | selectFileWithPassword fid read write =>
    .ok (selectById (Octets.ofU16 fid ++ taggedPassword 0x52 read ++ taggedPassword 0x54 write))
  | readBinary offset length => readCommand offset length
  | updateBinary offset data => updateCommand offset data
  | createPassword id new response limit master =>
    passwordCommand "create_password" Ins.createPassword id 0
      (password master ++ id :: Octets.ofU32 new ++ Octets.ofU16 response ++ Octets.ofU16 limit)
  | changePassword id new master =>
    passwordCommand "change_password" Ins.changeOrUnblockPassword id 0x40
      (password master ++ Octets.ofU32 new)
  | unblockPassword id master =>
    passwordCommand "unblock_password" Ins.changeOrUnblockPassword id 0 (password master)
  | deletePassword id master =>
    passwordCommand "delete_password" Ins.deletePassword id 0 (password master)
  | getData reference =>
    .ok ⟨Class.interindustry, Ins.getData, reference.p1p2.1, reference.p1p2.2, [], some .any⟩
  | authenticateTag challenge =>
    if challenge.isEmpty then refuse "authenticate_tag"
    else .ok ⟨Class.interindustry, Ins.authenticateTag, 0x00, 0x00, challenge, some .any⟩
  | passThroughFetch =>
    .ok ⟨Class.interindustry, Ins.passThroughFetch, 0x00, 0x00, [], some .any⟩
  | getConfiguration tag =>
    .ok ⟨Class.proprietary, Ins.getConfiguration, 0x00, 0x00, Octets.ofU16 tag, none⟩
  | setConfiguration tag value =>
    if value.length > 255 then refuse "set_configuration"
    else .ok ⟨Class.proprietary, Ins.setConfiguration, 0x00, 0x00,
      Octets.ofU16 tag ++ UInt8.ofNat value.length :: value, none⟩
  | personalizeData tag value => personalizeCommand tag value
  | finalizePersonalization => personalizeCommand Dgi.finalize []
  | backendTest tests =>
    if tests > allBackendTests then refuse "backend_test"
    else .ok ⟨Class.interindustry, Ins.backendTest, 0x00, tests, [], none⟩
  | disableBackendTests => .ok ⟨Class.interindustry, Ins.backendTest, 0xFF, 0x00, [], none⟩

end Instruction
end BridgeTag.Applet
