import BridgeTag.CommandLine.Run

/-! The program. Each frame for the card goes to the standard error as a line of hexadecimal
digits, and the next line of the standard input is its answer. Passwords are read there too,
before the first frame. -/
namespace BridgeTag.Terminal

open CommandLine

/-- A line without its end; absent at the end of the input. -/
def line? (input : IO.FS.Stream) : IO (Option String) := do
  let line ← input.getLine
  return if line.isEmpty then none else some line.trimAscii.toString

/-- A line that spells no octets tells in its own words that the link failed. -/
def answer (input : IO.FS.Stream) : IO Answer := do
  match ← line? input with
  | none => return .error "the link is closed"
  | some line =>
    match Hex.decode line with
    | .ok octets => return .ok octets
    | .error _ => return .error line

def converse {α : Type} (input : IO.FS.Stream) : Dialogue α → IO α
  | .done value => return value
  | .exchange frame next => do
    IO.eprintln (Hex.encode frame)
    converse input (next (← answer input))

def passwords (input : IO.FS.Stream) (arguments : List String) : IO (List String) := do
  match Invocation.ofArguments arguments with
  | .task (.changePassword _ master) =>
    let new ← line? input
    let old ← if master then line? input else pure none
    return [new, old].filterMap id
  | _ => return []

end BridgeTag.Terminal

open BridgeTag in
def main (arguments : List String) : IO UInt32 := do
  let input ← IO.getStdin
  let typed ← Terminal.passwords input arguments
  let outcome ← Terminal.converse input (CommandLine.run arguments typed)
  IO.print outcome.output
  match outcome with
  | .failed fault => IO.eprintln ("Error: " ++ fault.describe)
  | .rejected => IO.eprintln "The arguments fit no task."
  | .printed _ => pure ()
  return outcome.exitCode
