import BridgeTag.CommandLine.Number

/-! The arguments of a command line as a row of events: switches, values given to them, and words.
What an event means is for the command to say; an argument that fits no switch is an event too,
so that those before it still count. -/
namespace BridgeTag.CommandLine

inductive Form where
  | text
  | hex8
  | hex16
  | decimal8
  | decimal16
  | decimal64
deriving Repr, DecidableEq

def Form.fits : Form → String → Bool
  | text, _ => true
  | hex8, given => (Number.hex8? given).isSome
  | hex16, given => (Number.hex16? given).isSome
  | decimal8, given => (Number.decimal8? given).isSome
  | decimal16, given => (Number.decimal16? given).isSome
  | decimal64, given => (Number.decimal64? given).isSome

inductive Word where
  /-- Two dashes: only plain words follow. -/
  | dashes
  | long (name : String) (value : Option String)
  | short (letters : List Char)
  | plain (text : String)
deriving Repr, DecidableEq

/-- A dash alone is a plain word. -/
def Word.ofArgument (argument : String) : Word :=
  match argument.toList with
  | ['-', '-'] => dashes
  | '-' :: '-' :: body =>
    match body.dropWhile (· ≠ '=') with
    | [] => long (String.ofList body) none
    | _ :: value =>
      long (String.ofList (body.takeWhile (· ≠ '='))) (some (String.ofList value))
  | '-' :: letter :: letters => short (letter :: letters)
  | _ => plain argument

/-- A value has to follow where there is a form for it. -/
structure Switch where
  name : String
  letter : Option Char := none
  form : Option Form := none
deriving Repr, DecidableEq

def Switch.valued (switch : Switch) : Bool := switch.form.isSome

inductive Event where
  | flag (name : String)
  | value (name : String) (text : String)
  /-- A plain word, and all arguments after it. -/
  | word (text : String) (rest : List String)
  /-- A word behind two dashes. -/
  | trailing (text : String)
  | broken
deriving Repr, DecidableEq

namespace Event

/-- The events of letters behind one dash, and the switch that still waits for its value. -/
def ofLetters (switches : List Switch) : List Char → List Event × Option String
  | [] => ([], none)
  | letter :: rest =>
    match switches.find? fun switch => switch.letter = some letter with
    | none => ([broken], none)
    | some switch =>
      if switch.valued then
        match rest with
        | [] => ([], some switch.name)
        | '=' :: text => ([value switch.name (String.ofList text)], none)
        | _ => ([value switch.name (String.ofList rest)], none)
      else
        let (events, waiting) := ofLetters switches rest
        (flag switch.name :: events, waiting)

def ofLong (switches : List Switch) (name : String) (given : Option String) :
    List Event × Option String :=
  match switches.find? fun switch => switch.name = name with
  | none => ([broken], none)
  | some switch =>
    match switch.valued, given with
    | true, none => ([], some name)
    | true, some text => ([value name text], none)
    | false, none => ([flag name], none)
    | false, some _ => ([broken], none)

/-- All events in order. Only a plain word can be the value of a waiting switch. -/
def ofArguments (switches : List Switch) (waiting : Option String) :
    List String → List Event
  | [] => if waiting.isSome then [broken] else []
  | argument :: rest =>
    match waiting, Word.ofArgument argument with
    | some name, .plain text => value name text :: ofArguments switches none rest
    | some _, _ => [broken]
    | none, .plain text => word text rest :: ofArguments switches none rest
    | none, .dashes => rest.map trailing
    | none, .long name given =>
      let (events, waiting) := ofLong switches name given
      events ++ ofArguments switches waiting rest
    | none, .short letters =>
      let (events, waiting) := ofLetters switches letters
      events ++ ofArguments switches waiting rest

end Event
end BridgeTag.CommandLine
