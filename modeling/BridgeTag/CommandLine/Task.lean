import BridgeTag.CommandLine.Number
import BridgeTag.CommandLine.Word
import BridgeTag.Octets

/-! The tasks a command line can ask for, and how their arguments are read, one after the other up to
a switch that asks for help. Hexadecimal data stays text until the task runs; numbers are read at
once. -/
namespace BridgeTag.CommandLine

inductive Task where
  | select
  | version
  | memory
  | read (fid offset length : UInt16)
  | update (fid offset : UInt16) (data : String)
  | readNdef
  | getConfig (tag : UInt16)
  | setConfig (tag : UInt16) (value : String)
  | personalize (dgi : UInt16) (value : String)
  | finalize
  | backendTest (tests : UInt8) (disable : Bool)
  | changePassword (id : UInt8) (master : Bool)
  | ndefUri (uri : String)
  | ndefDecode (message : String)
  | dgiDecode (data : String)
  | status (ins : UInt8) (sw : UInt16)
deriving Repr, DecidableEq

def helpSwitch : Switch := ⟨"help", some 'h', none⟩

def timeoutSwitch : Switch := ⟨"timeout", some 't', some .decimal64⟩

/-- What may stand behind the name of a task: switches, and so many words at most. -/
structure Shape where
  switches : List Switch := []
  words : List Form := []
deriving Repr, DecidableEq

namespace Shape

/-- Help and the time limit may be asked for behind every name. -/
def allSwitches (shape : Shape) : List Switch := timeoutSwitch :: helpSwitch :: shape.switches

def fitsValue (shape : Shape) (name text : String) : Bool :=
  shape.allSwitches.any fun switch =>
    switch.name = name && switch.form.any fun form => form.fits text

/-- The text will do as the word that comes after so many others. -/
def fitsWord (shape : Shape) (place : Nat) (text : String) : Bool :=
  shape.words[place]?.any fun form => form.fits text

end Shape

structure Given where
  values : List (String × String) := []
  flags : List String := []
  words : List String := []
deriving Repr, DecidableEq

inductive Reading where
  | whole (given : Given)
  | help
  | broken
deriving Repr, DecidableEq

namespace Given

def value? (given : Given) (name : String) : Option String := given.values.lookup name

def flag (given : Given) (name : String) : Bool := given.flags.contains name

/-- The value of a switch that may be left out, in which case it is the one given here. -/
def valueOr {α : Type} (given : Given) (name : String) (missing : α)
    (read : String → Option α) : Option α :=
  match given.value? name with
  | none => some missing
  | some text => read text

def collect (shape : Shape) (given : Given) : List Event → Reading
  | [] => .whole { given with words := given.words.reverse }
  | .flag "help" :: _ => .help
  | .flag name :: rest =>
    if given.flags.contains name then .broken
    else collect shape { given with flags := name :: given.flags } rest
  | .value name text :: rest =>
    if (given.value? name).isSome || !shape.fitsValue name text then .broken
    else collect shape { given with values := (name, text) :: given.values } rest
  | .word text _ :: rest | .trailing text :: rest =>
    if shape.fitsWord given.words.length text then
      collect shape { given with words := text :: given.words } rest
    else .broken
  | .broken :: _ => .broken

end Given

namespace Task

def shapes : List (String × Shape) :=
  let fid : Switch := ⟨"fid", none, some .hex16⟩
  let offset : Switch := ⟨"offset", none, some .decimal16⟩
  [("select", {}),
    ("version", {}),
    ("memory", {}),
    ("read", ⟨[fid, offset, ⟨"length", none, some .decimal16⟩], []⟩),
    ("update", ⟨[fid, offset], [.text]⟩),
    ("read-ndef", {}),
    ("get-config", ⟨[], [.hex16]⟩),
    ("set-config", ⟨[], [.hex16, .text]⟩),
    ("personalize", ⟨[], [.hex16, .text]⟩),
    ("finalize", {}),
    ("backend-test", ⟨[⟨"disable", none, none⟩], [.hex8]⟩),
    ("change-password", ⟨[⟨"id", none, some .decimal8⟩, ⟨"master", none, none⟩], []⟩),
    ("ndef-uri", ⟨[], [.text]⟩),
    ("ndef-decode", ⟨[], [.text]⟩),
    ("dgi-decode", ⟨[], [.text]⟩),
    ("status", ⟨[], [.hex8, .hex16]⟩)]

/-- The task of that name, if the arguments are all it needs and no more. -/
def ofGiven? (name : String) (given : Given) : Option Task := do
  match name, given.words with
  | "select", [] => return select
  | "version", [] => return version
  | "memory", [] => return memory
  | "read", [] =>
    return read (← Number.hex16? (← given.value? "fid"))
      (← given.valueOr "offset" 0 Number.decimal16?)
      (← Number.decimal16? (← given.value? "length"))
  | "update", [data] =>
    return update (← Number.hex16? (← given.value? "fid"))
      (← given.valueOr "offset" 0 Number.decimal16?) data
  | "read-ndef", [] => return readNdef
  | "get-config", [tag] => return getConfig (← Number.hex16? tag)
  | "set-config", [tag, value] => return setConfig (← Number.hex16? tag) value
  | "personalize", [dgi, value] => return personalize (← Number.hex16? dgi) value
  | "finalize", [] => return finalize
  | "backend-test", [] => return backendTest 0x7F (given.flag "disable")
  | "backend-test", [tests] =>
    return backendTest (← Number.hex8? tests) (given.flag "disable")
  | "change-password", [] =>
    return changePassword (← Number.decimal8? (← given.value? "id")) (given.flag "master")
  | "ndef-uri", [uri] => return ndefUri uri
  | "ndef-decode", [message] => return ndefDecode message
  | "dgi-decode", [data] => return dgiDecode data
  | "status", [ins, sw] => return status (← Number.hex8? ins) (← Number.hex16? sw)
  | _, _ => none

end Task

inductive Invocation where
  | task (task : Task)
  | version
  | help
  /-- The arguments fit nothing. -/
  | rejected
deriving Repr, DecidableEq

namespace Invocation

def ofTask (name : String) (arguments : List String) : Invocation :=
  match Task.shapes.lookup name with
  | none => rejected
  | some shape =>
    match Given.collect shape {} (Event.ofArguments shape.allSwitches none arguments) with
    | .help => help
    | .broken => rejected
    | .whole given =>
      match Task.ofGiven? name given with
      | some wanted => task wanted
      | none => rejected

/-- Help may be asked for by name too: on everything, on a task, or on itself. -/
def ofHelp : List String → Invocation
  | [] => help
  | [name] => if name = "help" || (Task.shapes.lookup name).isSome then help else rejected
  | _ => rejected

def switches : List Switch := [timeoutSwitch, helpSwitch, ⟨"version", some 'V', none⟩]

/-- Goes through the events in front of the task's name; `limited` says that a time limit has
been given. -/
def ofEvents (limited : Bool) : List Event → Invocation
  | .flag "version" :: _ => version
  | .flag "help" :: _ => help
  | .value "timeout" text :: rest =>
    if limited || !Form.decimal64.fits text then rejected else ofEvents true rest
  | .word "help" arguments :: _ => ofHelp arguments
  | .word name arguments :: _ => ofTask name arguments
  | _ => rejected

def ofArguments (arguments : List String) : Invocation :=
  ofEvents false (Event.ofArguments switches none arguments)

end Invocation
end BridgeTag.CommandLine
