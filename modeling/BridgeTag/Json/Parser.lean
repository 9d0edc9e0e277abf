import BridgeTag.Json.Token

/-! Reading a JSON text, token by token. The values that are still open stand on a stack, so the
text may nest to any depth. -/
namespace BridgeTag.Json

/-- A value that is still open, with what it holds so far, last first. -/
inductive Open where
  | array (items : List Value)
  | object (members : List Member)
  /-- An object whose last name still lacks its value. -/
  | named (members : List Member) (name : Option String)

inductive Progress where
  /-- A value has to come. -/
  | atValue (stack : List Open)
  /-- An array has opened: its first item, or its end. -/
  | atItem (stack : List Open)
  /-- An object has opened: its first name, or its end. -/
  | atMember (stack : List Open)
  /-- A name has to come. -/
  | atName (stack : List Open)
  /-- A name has come, and its colon has not. -/
  | atColon (stack : List Open)
  /-- A value inside the innermost open one has ended. -/
  | atNext (stack : List Open)
  | done (value : Value)

namespace Progress

/-- A value has ended: it goes into the innermost open one. -/
def close (value : Value) : List Open → Option Progress
  | [] => some (done value)
  | .array items :: stack => some (atNext (.array (value :: items) :: stack))
  | .named members name :: stack => some (atNext (.object (⟨name, value⟩ :: members) :: stack))
  | .object _ :: _ => none

def begin (stack : List Open) : Token → Option Progress
  | .openArray => some (atItem (.array [] :: stack))
  | .openObject => some (atMember (.object [] :: stack))
  | .scalar value => close value stack
  | _ => none

def named (text : Option String) : List Open → Option Progress
  | .object members :: stack => some (atColon (.named members text :: stack))
  | _ => none

/-- The innermost open value ends, if the token closes its kind. -/
def finish (token : Token) : List Open → Option Progress
  | .array items :: stack => match token with
    | .closeArray => close (.array items.reverse) stack
    | _ => none
  | .object members :: stack => match token with
    | .closeObject => close (.object members.reverse) stack
    | _ => none
  | _ => none

def continued : List Open → Option Progress
  | .array items :: stack => some (atValue (.array items :: stack))
  | .object members :: stack => some (atName (.object members :: stack))
  | _ => none

def step (progress : Progress) (token : Token) : Option Progress :=
  match progress with
  | atValue stack => begin stack token
  | atItem stack => match token with
    | .closeArray => finish token stack
    | _ => begin stack token
  | atMember stack => match token with
    | .closeObject => finish token stack
    | .scalar (.string text) => named text stack
    | _ => none
  | atName stack => match token with
    | .scalar (.string text) => named text stack
    | _ => none
  | atColon stack => match token with
    | .colon => some (atValue stack)
    | _ => none
  | atNext stack => match token with
    | .comma => continued stack
    | _ => finish token stack
  | done _ => none

end Progress

def readFrom? (progress : Progress) (chars : List Char) : Option Value :=
  match chars with
  | [] => match progress with
    | .done value => some value
    | _ => none
  | char :: rest =>
    if Token.isBlank char then readFrom? progress rest
    else match found : Token.next? (char :: rest) with
      | none => none
      | some (token, after) =>
        have _shorter : after.length < rest.length + 1 := Token.length_of_next? found
        match progress.step token with
        | none => none
        | some progress => readFrom? progress after
termination_by chars.length
decreasing_by all_goals simp only [List.length_cons]; omega

/-- One value, with nothing but blanks around it. -/
def Value.parse? (text : String) : Option Value := readFrom? (.atValue []) text.toList

end BridgeTag.Json
