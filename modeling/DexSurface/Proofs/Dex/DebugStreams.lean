import DexSurface.Proofs.Dex.DebugEvents
import DexSurface.Proofs.Dex.VariableLength

namespace DexSurface

namespace Dex

open Decoder (Reads reads_pure reads_u8 lift_bind_eq bind_eq_error)
open Leb128 (IsUnsigned IsSigned IsOptional)

/-!
# Streams of debug events

A stream holds a line, the parameter names and events of ten shapes, with the end mark behind them.
Running it gives the names and, for each event that starts a local, that local at the sum of the
advances before it.  Nothing else in a stream has an effect, whichever spellings its numbers have.
-/

section Operands

variable
  {image : Image}
  (address : Nat)
  {register : Nat}
  {registerItem nameItem typeItem : List UInt8}
  {nameIndex? typeIndex? : Option Nat}
  {name : Option String}
  {localType : Option TypeDescriptor}
  (registerFits : register < Bytes.span 2)
  (readsRegister : Reads image.bytes Decoder.uleb128 registerItem register)
  (readsName : Reads image.bytes Decoder.optionalIndex nameItem nameIndex?)
  (isName : image.optionalString nameIndex? = .ok name)
  (readsType : Reads image.bytes Decoder.optionalIndex typeItem typeIndex?)
  (isType : image.optionalType typeIndex? = .ok localType)

include registerFits readsRegister readsName isName readsType isType

/-- The operands of an event that starts a local. -/
theorem reads_localStart :
    Reads image.bytes (image.localStart address false) (registerItem ++ (nameItem ++ typeItem))
      { address := address.toUInt32
        register := register.toUInt16
        name
        localType
        signature := none } := by
  refine readsRegister.bind ?_
  rw [if_neg (Nat.not_le.mpr registerFits)]
  refine readsName.bind (Reads.lift_bind isName ?_)
  rw [← List.append_nil typeItem]
  exact readsType.bind (Reads.lift_bind isType (reads_pure _))

/--
A local start with a signature is read from its register, its name, its type and its signature.
-/
theorem reads_localStartExtended
    {signatureItem : List UInt8}
    {signatureIndex? : Option Nat}
    {signature : Option String}
    (readsSignature : Reads image.bytes Decoder.optionalIndex signatureItem signatureIndex?)
    (isSignature : image.optionalString signatureIndex? = .ok signature) :
    Reads image.bytes (image.localStart address true)
      (registerItem ++ (nameItem ++ (typeItem ++ signatureItem)))
      { address := address.toUInt32
        register := register.toUInt16
        name
        localType
        signature } := by
  refine readsRegister.bind ?_
  rw [if_neg (Nat.not_le.mpr registerFits)]
  refine readsName.bind (Reads.lift_bind isName ?_)
  refine readsType.bind (Reads.lift_bind isType ?_)
  rw [← List.append_nil signatureItem]
  exact readsSignature.bind (Reads.lift_bind isSignature (reads_pure _))

end Operands

namespace DebugStream

/-- An event with what its operands stand for. -/
inductive Event where
  | advanceAddress (amount : Nat)
  | advanceLine (amount : Int)
  | startLocal (register : Nat) (name : Option String) (localType : Option TypeDescriptor)
  | startLocalExtended (register : Nat) (name : Option String) (localType : Option TypeDescriptor)
      (signature : Option String)
  | endLocal (register : Nat)
  | restartLocal (register : Nat)
  | endPrologue
  | beginEpilogue
  | setFile (index? : Option Nat)
  | special (opcode : UInt8)
  deriving Repr, DecidableEq

/-- What an event adds to the address. -/
def Event.advance : Event → Nat
  | .advanceAddress amount => amount
  | .special opcode => (opcode.toNat - 10) / 15
  | _ => 0

/-- The local that an event starts at an address. -/
def Event.start? (address : Nat) : Event → Option LocalStart
  | .startLocal register name localType =>
      some {
        address := address.toUInt32
        register := register.toUInt16
        name
        localType
        signature := none
      }
  | .startLocalExtended register name localType signature =>
      some {
        address := address.toUInt32
        register := register.toUInt16
        name
        localType
        signature
      }
  | _ => none

/-- The register in which an event starts a local, if no method can have that many. -/
def Event.wideRegister? : Event → Option Nat
  | .startLocal register _ _ | .startLocalExtended register _ _ _ =>
      if register < Bytes.span 2 then none else some register
  | _ => none

/-- What events add to the address. -/
def advanceOf (events : List Event) : Nat :=
  total Event.advance events

/-- The locals that events start, each at what the events before it add to the address. -/
def localsOf (events : List Event) : List LocalStart :=
  started Event.advance Event.start? events

/-- An event as it is read at an address. -/
def Event.encoded (event : Event) (address : Nat) : EncodedEvent LocalStart where
  advance := event.advance
  start? := event.start? address

/-! Bytes of a stream. -/

/-- Bytes that stand for an entry that may be absent. -/
def IsEntry
    (read : Option Nat → Except Error (Option α))
    (item : List UInt8)
    (shown? : Option α) : Prop :=
  ∃ index?, IsOptional item index? ∧ read index? = .ok shown?

/-- Bytes that encode an event, whose entries are those of the tables of an image. -/
inductive EncodesEvent (image : Image) : List UInt8 → Event → Prop where
  | advanceAddress
      {operand : List UInt8}
      {amount : Nat}
      (isAmount : IsUnsigned operand amount) :
      EncodesEvent image (0x01 :: operand) (.advanceAddress amount)
  | advanceLine
      {operand : List UInt8}
      {amount : Int}
      (isAmount : IsSigned operand amount) :
      EncodesEvent image (0x02 :: operand) (.advanceLine amount)
  | startLocal
      {registerItem nameItem typeItem : List UInt8}
      {register : Nat}
      {name : Option String}
      {localType : Option TypeDescriptor}
      (isRegister : IsUnsigned registerItem register)
      (isName : IsEntry image.optionalString nameItem name)
      (isType : IsEntry image.optionalType typeItem localType) :
      EncodesEvent image (0x03 :: (registerItem ++ (nameItem ++ typeItem)))
        (.startLocal register name localType)
  | startLocalExtended
      {registerItem nameItem typeItem signatureItem : List UInt8}
      {register : Nat}
      {name signature : Option String}
      {localType : Option TypeDescriptor}
      (isRegister : IsUnsigned registerItem register)
      (isName : IsEntry image.optionalString nameItem name)
      (isType : IsEntry image.optionalType typeItem localType)
      (isSignature : IsEntry image.optionalString signatureItem signature) :
      EncodesEvent image (0x04 :: (registerItem ++ (nameItem ++ (typeItem ++ signatureItem))))
        (.startLocalExtended register name localType signature)
  | endLocal
      {operand : List UInt8}
      {register : Nat}
      (isRegister : IsUnsigned operand register) :
      EncodesEvent image (0x05 :: operand) (.endLocal register)
  | restartLocal
      {operand : List UInt8}
      {register : Nat}
      (isRegister : IsUnsigned operand register) :
      EncodesEvent image (0x06 :: operand) (.restartLocal register)
  | endPrologue : EncodesEvent image [0x07] .endPrologue
  | beginEpilogue : EncodesEvent image [0x08] .beginEpilogue
  | setFile
      {operand : List UInt8}
      {index? : Option Nat}
      (isIndex : IsOptional operand index?) :
      EncodesEvent image (0x09 :: operand) (.setFile index?)
  | special
      {opcode : UInt8}
      (isSpecial : 10 ≤ opcode) :
      EncodesEvent image [opcode] (.special opcode)

/-- Bytes that encode a line, parameter names and events, with the end mark behind them. -/
inductive IsStream (image : Image) : List UInt8 → List (Option String) → List Event → Prop where
  | ofItems
      {lineItem countItem : List UInt8}
      {line : Nat}
      {nameItems eventItems : List (List UInt8)}
      {names : List (Option String)}
      {events : List Event}
      (isLine : IsUnsigned lineItem line)
      (counted : IsUnsigned countItem names.length)
      (named : List.Forall₂ (IsEntry image.optionalString) nameItems names)
      (encodes : List.Forall₂ (EncodesEvent image) eventItems events) :
      IsStream image
        (lineItem ++ (countItem ++ (nameItems.flatten ++ (eventItems.flatten ++ [0x00]))))
        names events

section Running

variable {image : Image} {item : List UInt8} {event : Event} {address limit position : Nat}

/-- An optional index is read as the string that it stands for. -/
theorem IsEntry.reads_string
    {name : Option String}
    (isName : IsEntry image.optionalString item name) :
    Reads image.bytes (do image.optionalString (← Decoder.optionalIndex)) item name := by
  obtain ⟨index?, isIndex, isEntry⟩ := isName
  rw [← List.append_nil item]
  exact (Leb128.reads_optionalIndex isIndex).bind (Decoder.reads_lift isEntry)

/-- An optional index takes at least one byte. -/
theorem IsEntry.length_pos
    {read : Option Nat → Except Error (Option α)}
    {shown? : Option α}
    (isEntry : IsEntry read item shown?) :
    1 ≤ item.length := by
  obtain ⟨index?, isIndex, -⟩ := isEntry
  obtain ⟨number, isNumber⟩ := Leb128.exists_isUnsigned isIndex
  exact isNumber.length_pos

/-! Reading an event. -/

/-- A register that is not too wide fits in two bytes. -/
theorem lt_of_wideRegister?_eq_none
    {register : Nat}
    (isNarrow : (if register < Bytes.span 2 then none else some register) = none) :
    register < Bytes.span 2 := by
  split at isNarrow
  · assumption
  · cases isNarrow

/-- A register that is too wide is the one that is reported. -/
theorem of_wideRegister?_eq_some
    {register found : Nat}
    (isWide : (if register < Bytes.span 2 then none else some register) = some found) :
    Bytes.span 2 ≤ register ∧ register = found := by
  split at isWide <;> cases isWide
  omega

/-- An event is read where its bytes stand, unless it starts a local in a wide register. -/
theorem EncodesEvent.reads
    (encodes : EncodesEvent image item event)
    (isNarrow : event.wideRegister? = none)
    (address : Nat) :
    Reads image.bytes (EncodedEvent.decode (image.localStart address)) item
      (some (event.encoded address)) := by
  cases encodes with
  | advanceAddress isAmount => exact (reads_u8 0x01).bind (isAmount.reads.bind_pure _)
  | advanceLine isAmount => exact (reads_u8 0x02).bind (isAmount.reads.bind_pure _)
  | startLocal isRegister isName isType =>
      obtain ⟨nameIndex?, isNameIndex, isName⟩ := isName
      obtain ⟨typeIndex?, isTypeIndex, isType⟩ := isType
      have operands := reads_localStart address (lt_of_wideRegister?_eq_none isNarrow)
        isRegister.reads (Leb128.reads_optionalIndex isNameIndex) isName
        (Leb128.reads_optionalIndex isTypeIndex) isType
      exact (reads_u8 0x03).bind (operands.bind_pure _)
  | startLocalExtended isRegister isName isType isSignature =>
      obtain ⟨nameIndex?, isNameIndex, isName⟩ := isName
      obtain ⟨typeIndex?, isTypeIndex, isType⟩ := isType
      obtain ⟨signatureIndex?, isSignatureIndex, isSignature⟩ := isSignature
      have operands := reads_localStartExtended address (lt_of_wideRegister?_eq_none isNarrow)
        isRegister.reads (Leb128.reads_optionalIndex isNameIndex) isName
        (Leb128.reads_optionalIndex isTypeIndex) isType
        (Leb128.reads_optionalIndex isSignatureIndex) isSignature
      exact (reads_u8 0x04).bind (operands.bind_pure _)
  | endLocal isRegister => exact (reads_u8 0x05).bind (isRegister.reads.bind_pure _)
  | restartLocal isRegister => exact (reads_u8 0x06).bind (isRegister.reads.bind_pure _)
  | endPrologue => exact (reads_u8 0x07).bind (reads_pure _)
  | beginEpilogue => exact (reads_u8 0x08).bind (reads_pure _)
  | setFile isIndex =>
      obtain ⟨number, isNumber⟩ := Leb128.exists_isUnsigned isIndex
      exact (reads_u8 0x09).bind (isNumber.reads.bind_pure _)
  | @special opcode isSpecial =>
      refine (reads_u8 opcode).bind ?_
      split <;> first
        | exact absurd isSpecial (by decide)
        | exact reads_pure _

/-- An event that starts a local in a wide register is refused. -/
theorem EncodesEvent.decode_eq_error
    {register : Nat}
    (encodes : EncodesEvent image item event)
    (stands : Stands image.bytes position item)
    (isWide : event.wideRegister? = some register) :
    EncodedEvent.decode (image.localStart address) image.bytes position =
      .error (.registerOutOfRange register) := by
  cases encodes with
  | startLocal isRegister isName isType =>
      obtain ⟨wide, rfl⟩ := of_wideRegister?_eq_some isWide
      refine ((reads_u8 0x03).bind_eq stands.left).trans (bind_eq_error ?_)
      refine (isRegister.reads.bind_eq stands.behind.left).trans ?_
      rw [if_pos wide]
      rfl
  | startLocalExtended isRegister isName isType isSignature =>
      obtain ⟨wide, rfl⟩ := of_wideRegister?_eq_some isWide
      refine ((reads_u8 0x04).bind_eq stands.left).trans (bind_eq_error ?_)
      refine (isRegister.reads.bind_eq stands.behind.left).trans ?_
      rw [if_pos wide]
      rfl
  | _ => cases isWide

/-- An event is run before those that follow it, unless it starts a local in a wide register. -/
theorem EncodesEvent.localStarts_eq
    (encodes : EncodesEvent image item event)
    (stands : Stands image.bytes position item)
    (inRange : address + event.advance < Bytes.span 4)
    (isNarrow : event.wideRegister? = none) :
    image.localStarts address (limit + 1) image.bytes position =
      (image.localStarts (address + event.advance) limit >>= fun rest =>
        pure ((event.start? address).toList ++ rest)) image.bytes (position + item.length) := by
  have fits : address < Bytes.span 4 := Nat.lt_of_le_of_lt (Nat.le_add_right _ _) inRange
  rw [localStarts_succ fits, (encodes.reads isNarrow address).bind_eq stands]
  exact lift_bind_eq (advance_of_lt inRange)

/-- An event takes one byte at least. -/
theorem EncodesEvent.length_pos (encodes : EncodesEvent image item event) : 1 ≤ item.length := by
  cases encodes <;> simp

/-! Running all events. -/

/--
Events are run up to the end mark, or up to the first local in a wide register.  An event hands its
address on to those behind it, and takes one byte off the limit at least.
-/
theorem localStarts_eq_of_events
    {items : List (List UInt8)}
    {events : List Event}
    (encodes : List.Forall₂ (EncodesEvent image) items events)
    (stands : Stands image.bytes position (items.flatten ++ [0x00]))
    (inRange : address + advanceOf events < Bytes.span 4)
    (enough : (items.flatten ++ [0x00]).length ≤ limit) :
    image.localStarts address limit image.bytes position =
      match events.findSome? Event.wideRegister? with
      | none =>
          .ok
            (startedFrom Event.advance Event.start? address events,
              position + (items.flatten ++ [0x00]).length)
      | some register => .error (.registerOutOfRange register) := by
  induction encodes generalizing address limit position with
  | nil =>
      obtain ⟨fewer, rfl⟩ := Nat.exists_eq_add_of_le' enough
      exact (reads_u8 0x00).bind_eq stands
  | @cons item event items events first rest inductionHypothesis =>
      have positive := first.length_pos
      rw [List.flatten_cons, List.append_assoc] at stands enough ⊢
      rw [List.length_append] at enough ⊢
      rw [advanceOf, total_cons, ← advanceOf] at inRange
      obtain ⟨fewer, rfl⟩ := Nat.exists_eq_succ_of_ne_zero (by omega : limit ≠ 0)
      rw [List.findSome?_cons]
      cases isWide : event.wideRegister? with
      | some register =>
          rw [localStarts_succ (by omega)]
          exact bind_eq_error (first.decode_eq_error stands.left isWide)
      | none =>
          have behind := @inductionHypothesis (address + event.advance) fewer _ stands.right
            (by omega) (by omega)
          rw [first.localStarts_eq stands.left (by omega) isWide]
          change Prod.map (fun rest => (event.start? address).toList ++ rest) id <$>
            image.localStarts (address + event.advance) fewer image.bytes (position + item.length)
              = _
          rw [behind, startedFrom, ← Nat.add_assoc]
          cases events.findSome? Event.wideRegister? <;> rfl

/-- A stream is read where its bytes stand. -/
theorem IsStream.debugInfo_eq
    {offset : Nat}
    {names : List (Option String)}
    {events : List Event}
    (isStream : IsStream image item names events)
    (inRange : advanceOf events < Bytes.span 4)
    (notZero : offset ≠ 0)
    (stands : Stands image.bytes offset item) :
    image.debugInfo offset =
      match events.findSome? Event.wideRegister? with
      | none =>
          .ok {
            parameterNames := names
            locals := startedFrom Event.advance Event.start? 0 events
          }
      | some register => .error (.registerOutOfRange register) := by
  cases isStream with
  | @ofItems lineItem countItem _ nameItems eventItems _ _ isLine counted named encodes =>
      have bound := stands.le_size
      have afterLine := stands.right
      have afterCount := afterLine.right
      have afterNames := afterCount.right
      have readsNames := Decoder.reads_times (named.imp fun _ _ isName => isName.reads_string)
      have run := @localStarts_eq_of_events image 0 _ _ _ _ encodes afterNames (by omega)
        (Nat.le_sub_of_add_le' afterNames.le_size)
      rw [Image.debugInfo, if_neg notZero, Image.readAt, Decoder.runAt, if_pos (by omega)]
      rw [isLine.reads.bind_eq stands.left, counted.reads.bind_eq afterLine.left,
        readsNames.bind_eq afterCount.left]
      change Prod.fst <$> (image.localStarts 0 _ image.bytes _ >>= fun given =>
        .ok ({ parameterNames := names, locals := given.1 : DebugInfo }, given.2)) = _
      rw [run]
      cases events.findSome? Event.wideRegister? <;> rfl

/-- Decoding a stream gives its names, and its locals at the sums of the advances before them. -/
theorem debugInfo_of_stands
    {offset : Nat}
    {names : List (Option String)}
    {events : List Event}
    (isStream : IsStream image item names events)
    (inRange : advanceOf events < Bytes.span 4)
    (notZero : offset ≠ 0)
    (stands : Stands image.bytes offset item) :
    image.debugInfo offset =
      match events.findSome? Event.wideRegister? with
      | none => .ok { parameterNames := names, locals := localsOf events }
      | some register => .error (.registerOutOfRange register) := by
  rw [isStream.debugInfo_eq inRange notZero stands, startedFrom_zero, ← localsOf]

end Running

namespace StreamExample

/-- A stream with an event of every shape; its first number is longer than needed. -/
def stream : List UInt8 :=
  [0x81, 0x00, 0x02, 0x01, 0x00, 0x01, 0xac, 0x02, 0x02, 0x7d, 0x03, 0x01, 0x01, 0x01, 0x4b, 0x04,
    0x02, 0x00, 0x01, 0x01, 0x05, 0x01, 0x06, 0x01, 0x07, 0x08, 0x09, 0x00, 0x00]

/-- An image with the stream behind its tables. -/
def image : Image :=
  .withItem stream

/-- The events of the stream. -/
def events : List Event :=
  [.advanceAddress 300, .advanceLine (-3), .startLocal 1 (some "La;") (some "La;"), .special 0x4b,
    .startLocalExtended 2 none (some "La;") (some "La;"), .endLocal 1, .restartLocal 1,
    .endPrologue, .beginEpilogue, .setFile none]

/-- The bytes encode a stream with an event of every shape. -/
theorem isStream : IsStream image stream [some "La;", none] events := by
  have one (number : Fin 0x80) : IsUnsigned [number.val.toUInt8] number :=
    ⟨.last number, (by decide : 1 ≤ 5), Nat.lt_trans number.isLt (by decide)⟩
  have isName : IsEntry image.optionalString [0x01] (some "La;") :=
    ⟨some 0, one 1, by decide +kernel⟩
  have isAbsent : IsEntry image.optionalString [0x00] none := ⟨none, one 0, rfl⟩
  have isType : IsEntry image.optionalType [0x01] (some "La;") :=
    ⟨some 0, one 1, by decide +kernel⟩
  have isLine : IsUnsigned [0x81, 0x00] 1 := ⟨.more 1 (.last 0), by decide, by decide⟩
  have isAmount : IsUnsigned [0xac, 0x02] 300 := ⟨.more 44 (.last 2), by decide, by decide⟩
  have isLines : IsSigned [0x7d] (-3) := ⟨.last 125, by decide, by decide, by decide⟩
  have encodes : List.Forall₂ (EncodesEvent image)
      [[0x01, 0xac, 0x02], [0x02, 0x7d], [0x03, 0x01, 0x01, 0x01], [0x4b],
        [0x04, 0x02, 0x00, 0x01, 0x01], [0x05, 0x01], [0x06, 0x01], [0x07], [0x08], [0x09, 0x00]]
      events :=
    .cons (.advanceAddress isAmount) <| .cons (.advanceLine isLines) <|
      .cons (.startLocal (one 1) isName isType) <| .cons (.special (by decide)) <|
      .cons (.startLocalExtended (one 2) isAbsent isType isName) <| .cons (.endLocal (one 1)) <|
      .cons (.restartLocal (one 1)) <| .cons .endPrologue <| .cons .beginEpilogue <|
      .cons (.setFile (one 0)) .nil
  exact .ofItems isLine (one 2) (.cons isName (.cons isAbsent .nil)) encodes

/-- The stream with an event of every shape is read, with the address of every local. -/
theorem debugInfo_of_stands_everyShape :
    IsStream image stream [some "La;", none] events
      ∧ image.debugInfo 13 =
        .ok {
          parameterNames := [some "La;", none]
          locals :=
            [{ address := 300, register := 1, name := some "La;", localType := some "La;",
               signature := none },
              { address := 304, register := 2, name := none, localType := some "La;",
                signature := some "La;" }]
        } := by
  have stands : Stands image.bytes 13 stream := ⟨tableBytes, [], by decide, rfl⟩
  exact ⟨isStream, debugInfo_of_stands isStream (by decide) (by decide) stands⟩

end StreamExample

end DebugStream

end Dex

end DexSurface
