import BridgeTag.Json.Parser
import BridgeTag.Proofs.Json.Lexing

/-! Values read back from the text that they are written as. Inside open arrays and objects, written
items and members take the reader from one place between two of them to the next. -/
namespace BridgeTag.Json

variable {first : Char} {chars rest after : List Char} {token : Token} {progress : Progress}
  {stack : List Open}

/-- Nothing blank begins a token. -/
theorem Token.isBlank_of_next? (found : next? (first :: rest) = some (token, after)) :
    isBlank first = false := by
  cases blank : isBlank first with
  | false => rfl
  | true =>
    simp only [isBlank, Bool.or_eq_true, decide_eq_true_eq] at blank
    rcases blank with ((rfl | rfl) | rfl) | rfl <;> cases found

theorem readFrom?_next (found : Token.next? chars = some (token, after)) :
    readFrom? progress chars = (progress.step token).bind fun progress =>
      readFrom? progress after := by
  cases chars with
  | nil => cases found
  | cons first rest =>
    have visible := Token.isBlank_of_next? found
    rw [readFrom?]
    simp only [visible, Bool.false_eq_true, if_false]
    split
    next none => simp [none] at found
    next same =>
      simp only [found, Option.some.injEq, Prod.mk.injEq] at same
      obtain ⟨rfl, rfl⟩ := same
      cases progress.step token <;> rfl

def behindCommas (parts : List String) : List Char := parts.flatMap fun part => ',' :: part.toList

theorem toList_intercalate_cons (first : String) (rest : List String) :
    (",".intercalate (first :: rest)).toList = first.toList ++ behindCommas rest := by
  induction rest generalizing first with
  | nil => simp [behindCommas]
  | cons next rest ih =>
    have later := ih next
    simp only [String.intercalate_cons_cons, String.toList_append, later]
    simp [behindCommas]

theorem apart_behindCommas {close : Char} (ends : prolongs close = false) (parts : List String) :
    Apart (behindCommas parts ++ close :: rest) := by
  intro char head
  cases parts with
  | nil => cases head; exact ends
  | cons => cases head; rfl

namespace Value

def opening : Value → Token
  | .array _ => .openArray
  | .object _ => .openObject
  | value => .scalar value

theorem next?_scalar (value : Value) (apart : Apart rest)
    (scalar : value.opening = .scalar value) :
    Token.next? (value.compact.toList ++ rest) = some (.scalar value, rest) := by
  cases value with
  | null => simp [compact, Token.next?]
  | bool value => cases value <;> simp [compact, Token.next?]
  | number value => simpa only [compact] using Token.next?_numberText value apart
  | string text => simpa only [compact] using Token.next?_stringText text rest
  | array items => cases scalar
  | object members => cases scalar

theorem next?_compact (value : Value) (apart : Apart rest) :
    ∃ after, Token.next? (value.compact.toList ++ rest) = some (value.opening, after) := by
  cases value with
  | array items => simp [compact, Token.next?, opening]
  | object members => simp [compact, Token.next?, opening]
  | _ => exact ⟨rest, next?_scalar _ apart rfl⟩

/-- The place of a first item is as good for a value as any other. -/
theorem readFrom?_atItem (value : Value) (apart : Apart rest) :
    readFrom? (.atItem stack) (value.compact.toList ++ rest) =
      readFrom? (.atValue stack) (value.compact.toList ++ rest) := by
  obtain ⟨after, found⟩ := next?_compact value apart
  simp only [readFrom?_next found]
  cases value <;> rfl

end Value

theorem toList_array_cons (value : Value) (items : List Value) :
    (Value.array (value :: items)).compact.toList =
      '[' :: (value.compact.toList ++ (behindCommas (items.map Value.compact) ++ [']'])) := by
  have parts := toList_intercalate_cons value.compact (items.map Value.compact)
  simp only [Value.compact, String.toList_append, List.map_cons, parts]
  simp

theorem toList_object_cons (member : Member) (members : List Member) :
    (Value.object (member :: members)).compact.toList =
      '\x7b' :: (member.compact.toList ++ (behindCommas (members.map Member.compact) ++ ['\x7d'])) := by
  have parts := toList_intercalate_cons member.compact (members.map Member.compact)
  simp only [Value.compact, String.toList_append, List.map_cons, parts]
  simp

mutual

-- The recursion is on the value; what was read before it stands on the stack, and stays there.

/-- A written value goes where a value has to come. -/
theorem Value.readFrom?_compact (value : Value) (stack : List Open) (rest : List Char)
    (apart : Apart rest) : readFrom? (.atValue stack) (value.compact.toList ++ rest) =
      (Progress.close value stack).bind fun progress => readFrom? progress rest := by
  cases value with
  | null => exact readFrom?_next (Value.next?_scalar .null apart rfl)
  | bool value => exact readFrom?_next (Value.next?_scalar (.bool value) apart rfl)
  | number value => exact readFrom?_next (Value.next?_scalar (.number value) apart rfl)
  | string text => exact readFrom?_next (Value.next?_scalar (.string text) apart rfl)
  | array items =>
    cases items with
    | nil =>
      have opens : Token.next? ((Value.array []).compact.toList ++ rest) =
          some (.openArray, ']' :: rest) := by
        simp [Value.compact, Token.next?]
      have closes : Token.next? (']' :: rest) = some (.closeArray, rest) := rfl
      simp only [readFrom?_next opens, Progress.step, Progress.begin, Option.bind_some,
        readFrom?_next closes, Progress.finish, List.reverse_nil]
    | cons value items =>
      have opens : Token.next? ((Value.array (value :: items)).compact.toList ++ rest) =
          some (.openArray, value.compact.toList ++
            (behindCommas (items.map Value.compact) ++ ']' :: rest)) := by
        simp [toList_array_cons, Token.next?]
      have apart' : Apart (behindCommas (items.map Value.compact) ++ ']' :: rest) :=
        apart_behindCommas rfl _
      have inner := Value.readFrom?_compact value (.array [] :: stack) _ apart'
      have later := Value.readFrom?_items items [value] stack rest
      simp only [readFrom?_next opens, Progress.step, Progress.begin, Option.bind_some,
        Value.readFrom?_atItem value apart', inner, Progress.close, later, List.reverse_singleton,
        List.singleton_append]
  | object members =>
    cases members with
    | nil =>
      have opens : Token.next? ((Value.object []).compact.toList ++ rest) =
          some (.openObject, '\x7d' :: rest) := by
        simp [Value.compact, Token.next?]
      have closes : Token.next? ('\x7d' :: rest) = some (.closeObject, rest) := rfl
      simp only [readFrom?_next opens, Progress.step, Progress.begin, Option.bind_some,
        readFrom?_next closes, Progress.finish, List.reverse_nil]
    | cons member members =>
      have opens : Token.next? ((Value.object (member :: members)).compact.toList ++ rest) =
          some (.openObject, member.compact.toList ++
            (behindCommas (members.map Member.compact) ++ '\x7d' :: rest)) := by
        simp [toList_object_cons, Token.next?]
      have apart' : Apart (behindCommas (members.map Member.compact) ++ '\x7d' :: rest) :=
        apart_behindCommas rfl _
      have inner := Member.readFrom?_compact member (.atMember (.object [] :: stack)) [] stack _
        apart' rfl
      have later := Value.readFrom?_members members [member] stack rest
      simp only [readFrom?_next opens, Progress.step, Progress.begin, Option.bind_some,
        inner, later, List.reverse_singleton, List.singleton_append]

/-- Written items go behind those that are there, and the bracket closes them all. -/
theorem Value.readFrom?_items (items done : List Value) (stack : List Open) (rest : List Char) :
    readFrom? (.atNext (.array done :: stack))
        (behindCommas (items.map Value.compact) ++ ']' :: rest) =
      (Progress.close (.array (done.reverse ++ items)) stack).bind fun progress =>
        readFrom? progress rest := by
  cases items with
  | nil =>
    have closes : Token.next? (']' :: rest) = some (.closeArray, rest) := rfl
    simp only [List.map_nil, behindCommas, List.flatMap_nil, List.nil_append, List.append_nil,
      readFrom?_next closes, Progress.step, Progress.finish]
  | cons value items =>
    have comma : Token.next? (behindCommas ((value :: items).map Value.compact) ++ ']' :: rest) =
        some (.comma, value.compact.toList ++
          (behindCommas (items.map Value.compact) ++ ']' :: rest)) := by
      simp [behindCommas, Token.next?]
    have inner := Value.readFrom?_compact value (.array done :: stack)
      (behindCommas (items.map Value.compact) ++ ']' :: rest) (apart_behindCommas rfl _)
    have later := Value.readFrom?_items items (value :: done) stack rest
    simp only [readFrom?_next comma, Progress.step, Progress.continued, Option.bind_some, inner,
      Progress.close, later, List.reverse_cons, List.append_assoc, List.singleton_append]

/-- A written member goes wherever a name may come. -/
theorem Member.readFrom?_compact (member : Member) (progress : Progress) (done : List Member)
    (stack : List Open) (rest : List Char) (apart : Apart rest)
    (named : progress.step (.scalar (.string member.name)) =
      some (.atColon (.named done member.name :: stack))) :
    readFrom? progress (member.compact.toList ++ rest) =
      readFrom? (.atNext (.object (member :: done) :: stack)) rest := by
  cases member with
  | mk name value =>
    have text : Token.next? ((Member.mk name value).compact.toList ++ rest) =
        some (.scalar (.string name), ':' :: (value.compact.toList ++ rest)) := by
      have found := Token.next?_stringText name (':' :: (value.compact.toList ++ rest))
      simpa [Member.compact] using found
    have colon : Token.next? (':' :: (value.compact.toList ++ rest)) =
      some (.colon, value.compact.toList ++ rest) := rfl
    have inner := Value.readFrom?_compact value (.named done name :: stack) rest apart
    simp only at named
    simp only [readFrom?_next text, named, Option.bind_some]
    simp only [readFrom?_next colon, Progress.step, Option.bind_some, inner, Progress.close]

/-- Written members go behind those that are there, and the brace closes them all. -/
theorem Value.readFrom?_members (members done : List Member) (stack : List Open)
    (rest : List Char) :
    readFrom? (.atNext (.object done :: stack))
        (behindCommas (members.map Member.compact) ++ '\x7d' :: rest) =
      (Progress.close (.object (done.reverse ++ members)) stack).bind fun progress =>
        readFrom? progress rest := by
  cases members with
  | nil =>
    have closes : Token.next? ('\x7d' :: rest) = some (.closeObject, rest) := rfl
    simp only [List.map_nil, behindCommas, List.flatMap_nil, List.nil_append, List.append_nil,
      readFrom?_next closes, Progress.step, Progress.finish]
  | cons member members =>
    have comma : Token.next? (behindCommas ((member :: members).map Member.compact) ++
          '\x7d' :: rest) = some (.comma, member.compact.toList ++
            (behindCommas (members.map Member.compact) ++ '\x7d' :: rest)) := by
      simp [behindCommas, Token.next?]
    have inner := Member.readFrom?_compact member (.atName (.object done :: stack)) done stack
      (behindCommas (members.map Member.compact) ++ '\x7d' :: rest) (apart_behindCommas rfl _) rfl
    have later := Value.readFrom?_members members (member :: done) stack rest
    simp only [readFrom?_next comma, Progress.step, Progress.continued, Option.bind_some, inner,
      later, List.reverse_cons, List.append_assoc, List.singleton_append]

end

/-- Every value is read back from its text. -/
theorem Value.parse?_compact (value : Value) : Value.parse? value.compact = some value := by
  have read := Value.readFrom?_compact value [] [] nofun
  simp only [List.append_nil, Progress.close, Option.bind_some] at read
  simp only [Value.parse?, read, readFrom?]

theorem Value.compact_injective : Function.Injective Value.compact := by
  intro value value' same
  have read := parse?_compact value
  simp only [same, parse?_compact, Option.some.injEq] at read
  exact read.symm

end BridgeTag.Json
