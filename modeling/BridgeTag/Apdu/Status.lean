import BridgeTag.Octets

/-! Texts for status words. A status word can mean several things, so its text depends on the
instruction it answers and is advice only. -/
namespace BridgeTag.Apdu.Status

structure Entry where
  ins : UInt8
  sw : UInt16
  text : String
deriving Repr, DecidableEq

def table : List Entry :=
  [
    -- SELECT
    ⟨0xA4, 0x6A82, "Application or file not found"⟩,
    ⟨0xA4, 0x6A86, "Incorrect parameters P1-P2"⟩,
    ⟨0xA4, 0x6982, "Security status not satisfied: wrong file password"⟩,
    ⟨0xA4, 0x6700, "Wrong length of the file identifier"⟩,
    -- READ BINARY
    ⟨0xB0, 0x6982, "Security access denied: read access not granted"⟩,
    ⟨0xB0, 0x6986, "Command not allowed: no file selected"⟩,
    ⟨0xB0, 0x6B00, "Wrong parameters: offset outside the file"⟩,
    ⟨0xB0, 0x6700, "Wrong length: Le exceeds the file size"⟩,
    -- UPDATE BINARY
    ⟨0xD6, 0x6985, "Update access denied"⟩,
    ⟨0xD6, 0x6986, "Command not allowed: no file selected"⟩,
    ⟨0xD6, 0x6B00, "Wrong parameters: offset outside the file"⟩,
    ⟨0xD6, 0x6700, "Wrong length: data exceeds the file size"⟩,
    -- CREATE PASSWORD
    ⟨0xE1, 0x6A89, "Password ID already exists"⟩,
    ⟨0xE1, 0x6A84, "Not enough memory for a new password"⟩,
    ⟨0xE1, 0x6982, "Security access denied: wrong master password"⟩,
    -- CHANGE / UNBLOCK PASSWORD
    ⟨0x24, 0x6A88, "Password ID not found"⟩,
    ⟨0x24, 0x6982, "Security access denied: wrong master password"⟩,
    ⟨0x24, 0x6983, "Password blocked: retry limit exceeded"⟩,
    -- DELETE PASSWORD
    ⟨0xE4, 0x6A88, "Password ID not found"⟩,
    ⟨0xE4, 0x6982, "Security access denied: wrong master password"⟩,
    -- GET DATA / GET CONFIGURATION
    ⟨0x30, 0x6A88, "Referenced data or configuration tag not found"⟩,
    -- AUTHENTICATE TAG
    ⟨0x88, 0x6A80, "Wrong data: invalid challenge length"⟩,
    ⟨0x88, 0x6985, "Conditions not satisfied: authentication key not available"⟩,
    -- PASS-THROUGH
    ⟨0xCA, 0x6985, "Conditions not satisfied: no pass-through data pending"⟩,
    -- SET CONFIGURATION
    ⟨0x20, 0x6A80, "Wrong data: invalid configuration value"⟩,
    ⟨0x20, 0x6985, "Conditions not satisfied: configuration locked"⟩,
    -- PERSONALIZE DATA
    ⟨0xE2, 0x6A80, "Wrong data: invalid DGI"⟩,
    ⟨0xE2, 0x6A84, "Not enough memory for the personalization data"⟩,
    ⟨0xE2, 0x6985, "Conditions not satisfied: personalization already finalized"⟩,
    -- BACKEND TEST
    ⟨0xBE, 0x6F00, "Backend test failed"⟩,
    ⟨0xBE, 0x6985, "Conditions not satisfied: backend tests disabled"⟩]

def general : List (UInt16 × String) :=
  [
    (0x9000, "Success"),
    (0x6700, "Wrong length"),
    (0x6982, "Security status not satisfied"),
    (0x6983, "Authentication method blocked"),
    (0x6985, "Conditions of use not satisfied"),
    (0x6986, "Command not allowed"),
    (0x6A80, "Incorrect parameters in the data field"),
    (0x6A82, "File or application not found"),
    (0x6A84, "Not enough memory space"),
    (0x6A86, "Incorrect parameters P1-P2"),
    (0x6A88, "Referenced data not found"),
    (0x6B00, "Wrong parameters P1-P2"),
    (0x6D00, "Instruction code not supported"),
    (0x6E00, "Class not supported"),
    (0x6F00, "No precise diagnosis")]

def unknown : String := "Unknown status word"

/-- An instruction's own meaning goes before the general one. -/
def lookup? (ins : UInt8) (sw : UInt16) : Option String :=
  match table.find? fun entry => entry.ins = ins && entry.sw = sw with
  | some entry => some entry.text
  | none => general.lookup sw

end BridgeTag.Apdu.Status
