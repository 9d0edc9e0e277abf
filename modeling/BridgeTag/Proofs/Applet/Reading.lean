import BridgeTag.Proofs.Applet.Building

/-! Instructions read back from their commands. The reading takes up class, instruction code,
parameters and the lengths of the data, as a card would; from it follows that a frame tells which
instruction it was made for, but for two that have a second name. -/
namespace BridgeTag

namespace Octets

/-- Parts an octet string before its last `n` octets. -/
theorem cut?_last {n : Nat} {back : Octets} (length : back.length = n) (front : Octets) :
    cut? ((front ++ back).length - n) (front ++ back) = some (front, back) := by
  apply cut?_append
  rw [List.length_append]
  omega

end Octets

namespace Applet.Instruction

open Apdu

inductive Alias : Instruction → Instruction → Prop
  /-- Selecting a file with no password is selecting it. -/
  | unprotected (fid : UInt16) : Alias (selectFile fid) (selectFileWithPassword fid none none)
  /-- An empty data group under this tag closes personalization. -/
  | closing : Alias finalizePersonalization (personalizeData 0xBF63 [])

theorem Alias.unique {name left right : Instruction} (ofLeft : Alias name left)
    (ofRight : Alias name right) : left = right := by
  cases ofLeft <;> cases ofRight <;> rfl

/-- The first of the two names, where an instruction has two. -/
def plain : Instruction → Instruction
  | selectFileWithPassword fid none none => selectFile fid
  | personalizeData tag value =>
    if tag = Dgi.finalize ∧ value = [] then finalizePersonalization else personalizeData tag value
  | order => order

def passwordOf? : Octets → Option (Option UInt32)
  | [] => some none
  | [a, b, c, d] => some (some (Octets.toU32 a b c d))
  | _ => none

/-- A password behind the tag, where the tag comes next, and what follows. -/
def taggedPasswordOf (tag : UInt8) : Octets → Option UInt32 × Octets
  | first :: length :: a :: b :: c :: d :: rest =>
    if first = tag then (some (Octets.toU32 a b c d), rest)
    else (none, first :: length :: a :: b :: c :: d :: rest)
  | rest => (none, rest)

def ofSelect? (command : Command) : Option Instruction :=
  if command.p1 = 0x04 then some selectApplication
  else match command.data with
    | high :: low :: passwords =>
      let (read, rest) := taggedPasswordOf 0x52 passwords
      let (write, _) := taggedPasswordOf 0x54 rest
      some (selectFileWithPassword (Octets.toU16 high low) read write).plain
    | _ => none

def ofReadBinary? (command : Command) : Option Instruction :=
  command.le.map fun
    | .any => readBinary command.p1p2 256
    | .exact length => readBinary command.p1p2 length

/-- Nine octets follow the master password. -/
def ofCreatePassword? (command : Command) : Option Instruction :=
  match Octets.cut? (command.data.length - 9) command.data with
  | some (master, [id, a, b, c, d, e, f, g, h]) =>
    (passwordOf? master).map
      (createPassword id (Octets.toU32 a b c d) (Octets.toU16 e f) (Octets.toU16 g h))
  | _ => none

/-- The second parameter tells a change from a reset; the new password follows the master's. -/
def ofChangeOrUnblockPassword? (command : Command) : Option Instruction :=
  if command.p2 < 0x40 then (passwordOf? command.data).map (unblockPassword command.p2)
  else match Octets.cut? (command.data.length - 4) command.data with
    | some (master, [a, b, c, d]) =>
      (passwordOf? master).map (changePassword (command.p2 - 0x40) (Octets.toU32 a b c d))
    | _ => none

def ofGetData? (command : Command) : Option Instruction :=
  if command.p2 = 0x3A then some (getData .appletVersion) else some (getData .availableMemory)

def ofPersonalizeData? (command : Command) : Option Instruction :=
  (Dgi.read (Reader.ofOctets command.data)).1.map fun dgi =>
    (personalizeData dgi.tag dgi.value).plain

def ofBackendTest? (command : Command) : Option Instruction :=
  if command.p1 = 0xFF then some disableBackendTests else some (backendTest command.p2)

def ofConfiguration? (command : Command) : Option Instruction :=
  match command.data with
  | high :: low :: rest =>
    if command.ins = Ins.getConfiguration then some (getConfiguration (Octets.toU16 high low))
    else some (setConfiguration (Octets.toU16 high low) rest.tail)
  | _ => none

/-- The instruction that a command was made for, under its plain name. -/
def ofCommand? (command : Command) : Option Instruction :=
  if command.cla = Class.proprietary then ofConfiguration? command
  else if command.ins = Ins.select then ofSelect? command
  else if command.ins = Ins.readBinary then ofReadBinary? command
  else if command.ins = Ins.updateBinary then some (updateBinary command.p1p2 command.data)
  else if command.ins = Ins.createPassword then ofCreatePassword? command
  else if command.ins = Ins.changeOrUnblockPassword then ofChangeOrUnblockPassword? command
  else if command.ins = Ins.deletePassword then
    (passwordOf? command.data).map (deletePassword command.p2)
  else if command.ins = Ins.getData then ofGetData? command
  else if command.ins = Ins.authenticateTag then some (authenticateTag command.data)
  else if command.ins = Ins.passThroughFetch then some passThroughFetch
  else if command.ins = Ins.personalizeData then ofPersonalizeData? command
  else if command.ins = Ins.backendTest then ofBackendTest? command
  else none

variable {order : Instruction} {command : Command} {rest : Octets}

theorem passwordOf?_password (value : Option UInt32) :
    passwordOf? (password value) = some value := by
  cases value with
  | none => rfl
  | some value => rw [password, Octets.ofU32, passwordOf?, Octets.toU32_ofU32]

theorem taggedPasswordOf_none {tag : UInt8} (apart : rest.head? ≠ some tag) :
    taggedPasswordOf tag rest = (none, rest) := by
  unfold taggedPasswordOf
  split
  next => rw [if_neg (by simpa using apart)]
  next => rfl

theorem taggedPasswordOf_taggedPassword {tag : UInt8} (value : Option UInt32)
    (apart : rest.head? ≠ some tag) :
    taggedPasswordOf tag (taggedPassword tag value ++ rest) = (value, rest) := by
  cases value with
  | none => exact taggedPasswordOf_none apart
  | some value =>
    simp only [taggedPassword, Octets.ofU32, List.cons_append, List.nil_append, taggedPasswordOf,
      if_true, Octets.toU32_ofU32]

theorem ofSelect?_selectById (fid : UInt16) (read write : Option UInt32) :
    ofSelect? (selectById
      (Octets.ofU16 fid ++ taggedPassword 0x52 read ++ taggedPassword 0x54 write)) =
      some (selectFileWithPassword fid read write).plain := by
  have apart : (taggedPassword 0x54 write).head? ≠ some 0x52 := by
    cases write <;> simp [taggedPassword]
  have first := taggedPasswordOf_taggedPassword read apart
  have second : taggedPasswordOf 0x54 (taggedPassword 0x54 write ++ []) = (write, []) :=
    taggedPasswordOf_taggedPassword write (by simp)
  rw [List.append_nil] at second
  have byId : ¬(0x00 : UInt8) = 0x04 := by decide
  simp only [ofSelect?, selectById, Octets.ofU16, List.cons_append, List.nil_append,
    Octets.toU16_ofU16, if_neg byId, first, second]

theorem ofCreatePassword?_data (id : UInt8) (new : UInt32) (response limit : UInt16)
    (master : Option UInt32) : ofCreatePassword? ⟨Class.interindustry, Ins.createPassword, 0x00, id,
      password master ++ id :: Octets.ofU32 new ++ Octets.ofU16 response ++ Octets.ofU16 limit,
      none⟩ =
    some (createPassword id new response limit master) := by
  have length :
      (id :: (Octets.ofU32 new ++ (Octets.ofU16 response ++ Octets.ofU16 limit))).length = 9 := rfl
  have cut := Octets.cut?_last length (password master)
  simp only [ofCreatePassword?, List.append_assoc, List.cons_append, cut]
  simp only [Octets.ofU32, Octets.ofU16, List.cons_append, List.nil_append, passwordOf?_password,
    Octets.toU32_ofU32, Octets.toU16_ofU16, Option.map_some]

/-- The mode of a change stands above the five bits of an identifier. -/
theorem valid_mode {id : UInt8} (valid : PasswordId.valid id = true) :
    id < 0x40 ∧ ¬(0x40 ||| id) < 0x40 ∧ (0x40 ||| id) - 0x40 = id := by
  have every : ∀ n < 256, PasswordId.valid (UInt8.ofNat n) = true → UInt8.ofNat n < 0x40 ∧
      ¬(0x40 ||| UInt8.ofNat n) < 0x40 ∧ (0x40 ||| UInt8.ofNat n) - 0x40 = UInt8.ofNat n := by
    decide +kernel
  have found := every id.toNat id.toNat_lt
  rw [UInt8.ofNat_toNat] at found
  exact found valid

theorem ofChangeOrUnblockPassword?_change {id : UInt8} (valid : PasswordId.valid id = true)
    (new : UInt32) (master : Option UInt32) : ofChangeOrUnblockPassword?
      ⟨Class.interindustry, Ins.changeOrUnblockPassword, 0x00, 0x40 ||| id,
        password master ++ Octets.ofU32 new, none⟩ =
    some (changePassword id new master) := by
  obtain ⟨_, change, same⟩ := valid_mode valid
  have cut := Octets.cut?_last (Octets.length_ofU32 new) (password master)
  simp only [ofChangeOrUnblockPassword?, if_neg change, cut, same]
  simp only [Octets.ofU32, passwordOf?_password, Octets.toU32_ofU32, Option.map_some]

theorem ofPersonalizeData?_octets (tag : UInt16) (value : Octets) (fits : value.length ≤ 65535) :
    ofPersonalizeData? ⟨Class.interindustry, Ins.personalizeData, 0x00, 0x00,
      Dgi.octets ⟨tag, value⟩, none⟩ = some (personalizeData tag value).plain := by
  have read : Dgi.read ⟨0, Dgi.octets ⟨tag, value⟩ ++ []⟩ = _ := Dgi.read_octets fits 0 []
  rw [List.append_nil] at read
  rw [ofPersonalizeData?, Reader.ofOctets, read]
  rfl

/-- Every command that an instruction makes is read as that instruction. -/
theorem ofCommand?_of_command (built : order.command = .ok command) :
    ofCommand? command = some order.plain := by
  cases order with
  | selectApplication =>
    cases built
    rfl
  | selectFile fid =>
    cases built
    have read := ofSelect?_selectById fid none none
    rw [taggedPassword, taggedPassword, List.append_nil, List.append_nil] at read
    exact read
  | selectFileWithPassword fid read write =>
    cases built
    exact ofSelect?_selectById fid read write
  | readBinary offset length =>
    obtain ⟨_, rfl⟩ := readCommand_eq_ok.mp built
    by_cases full : length = 256
    · subst full
      show some (readBinary (Octets.toU16 _ _) 256) = _
      rw [Octets.toU16_ofU16]
      rfl
    · rw [if_neg full]
      show some (readBinary (Octets.toU16 _ _) length) = _
      rw [Octets.toU16_ofU16]
      rfl
  | updateBinary offset data =>
    obtain ⟨_, rfl⟩ := updateCommand_eq_ok.mp built
    show some (updateBinary (Octets.toU16 _ _) data) = _
    rw [Octets.toU16_ofU16]
    rfl
  | createPassword id new response limit master =>
    obtain ⟨_, rfl⟩ := passwordCommand_eq_ok.mp built
    rw [UInt8.zero_or]
    exact ofCreatePassword?_data id new response limit master
  | changePassword id new master =>
    obtain ⟨valid, rfl⟩ := passwordCommand_eq_ok.mp built
    exact ofChangeOrUnblockPassword?_change valid new master
  | unblockPassword id master =>
    obtain ⟨valid, rfl⟩ := passwordCommand_eq_ok.mp built
    rw [UInt8.zero_or]
    show ofChangeOrUnblockPassword? _ = _
    rw [ofChangeOrUnblockPassword?, if_pos (valid_mode valid).1, passwordOf?_password]
    rfl
  | deletePassword id master =>
    obtain ⟨_, rfl⟩ := passwordCommand_eq_ok.mp built
    rw [UInt8.zero_or]
    show (passwordOf? (password master)).map _ = _
    rw [passwordOf?_password]
    rfl
  | getData reference =>
    cases built
    cases reference <;> rfl
  | authenticateTag challenge =>
    obtain ⟨_, rfl⟩ := authenticate_eq_ok.mp built
    rfl
  | passThroughFetch =>
    cases built
    rfl
  | getConfiguration tag =>
    cases built
    show some (getConfiguration (Octets.toU16 _ _)) = _
    rw [Octets.toU16_ofU16]
    rfl
  | setConfiguration tag value =>
    obtain ⟨_, rfl⟩ := setConfiguration_eq_ok.mp built
    show some (setConfiguration (Octets.toU16 _ _) value) = _
    rw [Octets.toU16_ofU16]
    rfl
  | personalizeData tag value =>
    obtain ⟨fits, rfl⟩ := personalizeCommand_eq_ok.mp built
    exact ofPersonalizeData?_octets tag value (Nat.le_trans (Dgi.length_value_le ⟨tag, value⟩) fits)
  | finalizePersonalization =>
    rw [command_finalizePersonalization] at built
    obtain ⟨_, rfl⟩ := personalizeCommand_eq_ok.mp built
    exact ofPersonalizeData?_octets Dgi.finalize [] (Nat.zero_le _)
  | backendTest tests =>
    obtain ⟨_, rfl⟩ := backendTest_eq_ok.mp built
    rfl
  | disableBackendTests =>
    cases built
    rfl

def ofFrame? (frame : Octets) : Option Instruction :=
  (Command.decode frame).toOption.bind ofCommand?

theorem ofFrame?_of_octets {frame : Octets}
    (framed : (Request.instruction order).octets = .ok frame) :
    ofFrame? frame = some order.plain := by
  obtain ⟨command, built, encoded⟩ := octets_eq_ok.mp framed
  rw [ofFrame?, decode_of_command built encoded]
  exact ofCommand?_of_command built

/-- Both names of a command make it. -/
theorem command_plain (order : Instruction) : order.plain.command = order.command := by
  unfold plain
  split
  next fid =>
    show Except.ok (selectById (Octets.ofU16 fid)) = .ok (selectById (Octets.ofU16 fid ++ [] ++ []))
    rw [List.append_nil, List.append_nil]
  next tag value =>
    split
    next closing =>
      obtain ⟨rfl, rfl⟩ := closing
      rfl
    next => rfl
  next => rfl

theorem plain_eq_self_or_alias (order : Instruction) :
    order.plain = order ∨ Alias order.plain order := by
  unfold plain
  split
  next fid => exact .inr (.unprotected fid)
  next tag value =>
    split
    next closing =>
      obtain ⟨rfl, rfl⟩ := closing
      exact .inr .closing
    next => exact .inl rfl
  next => exact .inl rfl

theorem plain_eq_iff {left right : Instruction} : right.plain = left.plain ↔
    right = left ∨ Alias left right ∨ Alias right left := by
  constructor
  · intro same
    have ofLeft := plain_eq_self_or_alias left
    have ofRight := plain_eq_self_or_alias right
    rw [same] at ofRight
    rcases ofLeft with left' | left' <;> rcases ofRight with right' | right'
    · exact .inl (right'.symm.trans left')
    · rw [left'] at right'
      exact .inr (.inl right')
    · rw [right'] at left'
      exact .inr (.inr left')
    · exact .inl (right'.unique left')
  · intro names
    rcases names with rfl | aliased | aliased
    · rfl
    · cases aliased <;> rfl
    · cases aliased <;> rfl

/-- A frame tells which instruction it was made for: two instructions have the same frame exactly
when they are one or its two names. So no other one closes personalization, and none but the
instruction to do so disables the backend tests. -/
theorem octets_eq_iff_alias {left : Instruction} {frame : Octets}
    (framed : (Request.instruction left).octets = .ok frame) (right : Instruction) :
    ((Request.instruction right).octets = .ok frame ↔
      right = left ∨ Alias left right ∨ Alias right left) ∧
    ((Request.instruction right).octets = .ok frame → left = finalizePersonalization →
      right = finalizePersonalization ∨ right = personalizeData 0xBF63 []) ∧
    ((Request.instruction right).octets = .ok frame → left = disableBackendTests →
      right = disableBackendTests) := by
  obtain ⟨command, built, encoded⟩ := octets_eq_ok.mp framed
  have shared : (Request.instruction right).octets = .ok frame ↔
      right = left ∨ Alias left right ∨ Alias right left := by
    rw [← plain_eq_iff]
    constructor
    · intro framed'
      obtain ⟨command', built', encoded'⟩ := octets_eq_ok.mp framed'
      have same : command = command' := by
        have decoded := decode_of_command built encoded
        rw [decode_of_command built' encoded'] at decoded
        exact (Except.ok.inj decoded).symm
      subst same
      have read := ofCommand?_of_command built
      rw [ofCommand?_of_command built'] at read
      exact Option.some.inj read
    · intro name
      refine octets_eq_ok.mpr ⟨command, ?_, encoded⟩
      rw [← command_plain, name, command_plain, built]
  refine ⟨shared, ?_, ?_⟩
  · intro framed' closing
    subst closing
    rcases shared.mp framed' with same | aliased | aliased
    · exact .inl same
    · cases aliased
      exact .inr rfl
    · cases aliased
  · intro framed' disabling
    subst disabling
    rcases shared.mp framed' with same | aliased | aliased
    · exact same
    · cases aliased
    · cases aliased

/-- The frame that closes personalization: the empty data group under its tag has it too, one with
a value has not. -/
theorem octets_finalizePersonalization :
    (Request.instruction finalizePersonalization).octets =
      .ok [0x00, 0xE2, 0x00, 0x00, 0x03, 0xBF, 0x63, 0x00] ∧
    (Request.instruction (personalizeData 0xBF63 [])).octets =
      .ok [0x00, 0xE2, 0x00, 0x00, 0x03, 0xBF, 0x63, 0x00] ∧
    ¬(Request.instruction (personalizeData 0xBF63 [0x00])).octets =
      .ok [0x00, 0xE2, 0x00, 0x00, 0x03, 0xBF, 0x63, 0x00] := by
  have framed : (Request.instruction finalizePersonalization).octets =
      .ok [0x00, 0xE2, 0x00, 0x00, 0x03, 0xBF, 0x63, 0x00] := rfl
  refine ⟨framed, (octets_eq_iff_alias framed _).1.mpr (.inr (.inl .closing)), ?_⟩
  intro framed'
  rcases (octets_eq_iff_alias framed _).2.1 framed' rfl with same | same <;> cases same

end Applet.Instruction
end BridgeTag
