import DexSurface.Dex.ClassDefinition
import DexSurface.Proofs.Dex.BoundedReading
import DexSurface.Proofs.Dex.DebugEvents
import DexSurface.Proofs.GivenValues

namespace DexSurface

namespace Dex

open Decoder (Moves of_bind_eq_ok of_bind_eq_error of_lift_eq_ok of_lift_bind_eq_ok bind_eq_of_ok
  moves_u8 moves_uleb128 moves_sleb128 moves_optionalIndex)

/-!
# Addresses are exact sums

A debug stream is read without running it: an event advances the address by some amount and may
start a local.  Running the stream starts its locals at the sums of the advances before them,
counted without bound; it breaks off only where such a sum takes more than 32 bits.
-/

/-- Items stand one behind the other, each from where the one before ends. -/
inductive InTurn (next : Nat → α → Nat → Prop) : Nat → List α → Nat → Prop where
  | nil (position : Nat) : InTurn next position [] position
  | cons
      {position middle after : Nat}
      {item : α}
      {items : List α}
      (first : next position item middle)
      (rest : InTurn next middle items after) :
      InTurn next position (item :: items) after

/-- What events add to the address. -/
def advanceOf (events : List (EncodedEvent α)) : Nat :=
  total EncodedEvent.advance events

/-- The addresses of the locals that events start, each what the events before it add up to. -/
def startAddresses (events : List (EncodedEvent α)) : List Nat :=
  started EncodedEvent.advance (fun address event => event.start?.map fun _ => address) events

namespace EncodedEvent

/-- The operands of a local start, passed over. -/
def skipStart (extended : Bool) : Decoder Unit := do
  let _ ← Decoder.uleb128
  let _ ← Decoder.optionalIndex
  let _ ← Decoder.optionalIndex
  if extended then
    let _ ← Decoder.optionalIndex

/-- An event is encoded from a position on and ends at another. -/
def IsEncoded
    (bytes : ByteArray)
    (position : Nat)
    (event : EncodedEvent Unit)
    (after : Nat) : Prop :=
  decode skipStart bytes position = .ok (some event, after)

/-- The end mark stands at a position. -/
def IsEnded (bytes : ByteArray) (position : Nat) : Prop :=
  ∃ after, decode skipStart bytes position = .ok (none, after)

/-- The event as it is encoded. -/
def encoded (event : EncodedEvent α) : EncodedEvent Unit where
  advance := event.advance
  start? := event.start?.map fun _ => ()

end EncodedEvent

/-! Sums of advances. -/

section Sums

variable {event : EncodedEvent α} {events : List (EncodedEvent α)}

/-- An event adds its advance to that of the events behind it. -/
theorem advanceOf_cons : advanceOf (event :: events) = event.advance + advanceOf events := by
  rw [advanceOf, total_cons, ← advanceOf]

/-- More events add more to the address. -/
theorem advanceOf_le {others : List (EncodedEvent α)} (isPrefix : events <+: others) :
    advanceOf events ≤ advanceOf others := by
  obtain ⟨rest, rfl⟩ := isPrefix
  rw [advanceOf, advanceOf, total_append]
  exact Nat.le_add_right _ _

end Sums

/-! Items in turn. -/

namespace InTurn

variable {next : Nat → α → Nat → Prop} {position middle last : Nat} {items others : List α}

/-- Items that stand in turn are the first ones of those that go on to an end. -/
theorem isPrefix_of_ended
    (functional : ∀ position first second middle last,
      next position first middle → next position second last → first = second ∧ middle = last)
    (inTurn : InTurn next position items middle)
    (goesOn : InTurn next position others last)
    (ended : ∀ item after, ¬ next last item after) :
    items <+: others := by
  induction inTurn generalizing others with
  | nil => exact List.nil_prefix
  | cons first _ inductionHypothesis =>
      cases goesOn with
      | nil => exact absurd first (ended _ _)
      | cons otherFirst otherRest =>
          obtain ⟨rfl, rfl⟩ := functional _ _ _ _ _ first otherFirst
          exact List.cons_prefix_cons.mpr ⟨rfl, inductionHypothesis otherRest⟩

end InTurn

section Running

variable {image : Image} {bytes : ByteArray} {address position after limit : Nat}

/-- The operands of a local start are passed over as they are read. -/
theorem skipStart_of_localStart
    {extended : Bool}
    {start : LocalStart}
    (read : image.localStart address extended bytes position = .ok (start, after)) :
    EncodedEvent.skipStart extended bytes position = .ok ((), after)
      ∧ start.address = address.toUInt32 := by
  obtain ⟨register, behindRegister, readRegister, read⟩ := of_bind_eq_ok read
  dsimp only at read
  split at read
  · cases read
  · obtain ⟨nameIndex?, behindName, readName, read⟩ := of_bind_eq_ok read
    obtain ⟨name, _, read⟩ := of_lift_bind_eq_ok read
    obtain ⟨typeIndex?, behindType, readType, read⟩ := of_bind_eq_ok read
    obtain ⟨localType, _, read⟩ := of_lift_bind_eq_ok read
    rw [EncodedEvent.skipStart, bind_eq_of_ok readRegister, bind_eq_of_ok readName,
      bind_eq_of_ok readType]
    cases extended with
    | false =>
        cases read
        exact ⟨rfl, rfl⟩
    | true =>
        obtain ⟨index?, behindSignature, readSignature, read⟩ := of_bind_eq_ok read
        obtain ⟨signature, _, read⟩ := of_lift_bind_eq_ok read
        cases read
        exact ⟨bind_eq_of_ok readSignature, rfl⟩

/-- An event that is read is encoded where it is read, and its local starts at the address. -/
theorem decode_skipStart
    {event? : Option (EncodedEvent LocalStart)}
    (read : EncodedEvent.decode (image.localStart address) bytes position = .ok (event?, after)) :
    EncodedEvent.decode EncodedEvent.skipStart bytes position =
        .ok (event?.map EncodedEvent.encoded, after)
      ∧ ∀ event ∈ event?, ∀ start ∈ event.start?, start.address = address.toUInt32 := by
  obtain ⟨opcode, behind, readOpcode, read⟩ := of_bind_eq_ok read
  rw [EncodedEvent.decode, bind_eq_of_ok readOpcode]
  split at read
  case h_4 | h_5 =>
    obtain ⟨start, _, readStart, read⟩ := of_bind_eq_ok read
    cases read
    obtain ⟨skipped, sameAddress⟩ := skipStart_of_localStart readStart
    refine ⟨bind_eq_of_ok skipped, ?_⟩
    rintro _ ⟨⟩ _ ⟨⟩
    exact sameAddress
  case h_2 | h_3 | h_6 | h_7 | h_8 =>
    obtain ⟨operand, _, readOperand, read⟩ := of_bind_eq_ok read
    cases read
    refine ⟨bind_eq_of_ok readOperand, ?_⟩
    rintro _ ⟨⟩ _ ⟨⟩
  case h_1 =>
    cases read
    refine ⟨rfl, ?_⟩
    intro event isThere
    cases isThere
  case h_9 | h_10 | h_11 =>
    cases read
    refine ⟨rfl, ?_⟩
    rintro _ ⟨⟩ _ ⟨⟩

/-- A step of a stream that is run to its end: the end mark, or an event before others. -/
theorem localStarts_eq_ok
    {starts : List LocalStart}
    (fits : address < Bytes.span 4)
    (read : image.localStarts address (limit + 1) bytes position = .ok (starts, after)) :
    (starts = [] ∧ EncodedEvent.IsEnded bytes position)
      ∨ ∃ (event : EncodedEvent LocalStart) (middle : Nat) (rest : List LocalStart),
        EncodedEvent.IsEncoded bytes position event.encoded middle
          ∧ address + event.advance < Bytes.span 4
          ∧ image.localStarts (address + event.advance) limit bytes middle = .ok (rest, after)
          ∧ starts = event.start?.toList ++ rest
          ∧ ∀ start ∈ event.start?, start.address = address.toUInt32 := by
  rw [localStarts_succ fits] at read
  obtain ⟨event?, middle, readEvent, read⟩ := of_bind_eq_ok read
  obtain ⟨isEncoded, sameAddress⟩ := decode_skipStart readEvent
  cases event? with
  | none =>
      cases read
      exact .inl ⟨rfl, _, isEncoded⟩
  | some event =>
      obtain ⟨reached, advanced, read⟩ := of_lift_bind_eq_ok read
      obtain ⟨rest, final, readRest, read⟩ := of_bind_eq_ok read
      cases read
      rw [advance] at advanced
      split at advanced
      · next inRange =>
          cases advanced
          exact .inr ⟨event, middle, rest, isEncoded, inRange, readRest, rfl,
            fun start => sameAddress event rfl start⟩
      · cases advanced

/-- Locals start at the exact sums of the advances before them, which take at most 32 bits. -/
theorem events_of_localStarts
    {starts : List LocalStart}
    (fits : address < Bytes.span 4)
    (read : image.localStarts address limit bytes position = .ok (starts, after)) :
    ∃ events middle,
      InTurn (EncodedEvent.IsEncoded bytes) position events middle
        ∧ EncodedEvent.IsEnded bytes middle
        ∧ address + advanceOf events < Bytes.span 4
        ∧ starts.map (fun start => start.address.toNat) =
          startedFrom EncodedEvent.advance (fun address event => event.start?.map fun _ => address)
            address events := by
  induction limit generalizing address position starts with
  | zero => cases read
  | succ limit inductionHypothesis =>
      rcases localStarts_eq_ok fits read with
        ⟨rfl, ended⟩ | ⟨event, middle, rest, isEncoded, inRange, readRest, rfl, sameAddress⟩
      · exact ⟨[], position, .nil position, ended, fits, rfl⟩
      · obtain ⟨events, last, inTurn, ended, fitsAll, sameAddresses⟩ :=
          inductionHypothesis inRange readRest
        refine ⟨event.encoded :: events, last, .cons isEncoded inTurn, ended, ?_, ?_⟩
        · rw [advanceOf_cons]
          rw [Nat.add_assoc] at fitsAll
          exact fitsAll
        · rw [List.map_append, sameAddresses, startedFrom]
          congr 1
          cases started : event.start? with
          | none => rw [EncodedEvent.encoded, started]; rfl
          | some start =>
              have exact_ : address.toUInt32.toNat = address := Nat.mod_eq_of_lt fits
              rw [EncodedEvent.encoded, started]
              change [start.address.toNat] = [address]
              rw [sameAddress start started, exact_]

/-- At most one event is encoded at a position. -/
theorem EncodedEvent.isEncoded_unique
    (bytes : ByteArray)
    (position : Nat)
    (first second : EncodedEvent Unit)
    (middle last : Nat)
    (isFirst : EncodedEvent.IsEncoded bytes position first middle)
    (isSecond : EncodedEvent.IsEncoded bytes position second last) :
    first = second ∧ middle = last := by
  cases isFirst.symm.trans isSecond
  exact ⟨rfl, rfl⟩

/-- No event is encoded where the end mark stands. -/
theorem EncodedEvent.IsEnded.not_isEncoded
    (ended : EncodedEvent.IsEnded bytes position)
    (event : EncodedEvent Unit)
    (after : Nat) :
    ¬ EncodedEvent.IsEncoded bytes position event after := by
  obtain ⟨last, isMark⟩ := ended
  intro isEncoded
  cases isMark.symm.trans isEncoded

/-! Streams that break off. -/

/-- The operands of a local start end inside the bytes. -/
theorem moves_localStart (extended : Bool) :
    Moves bytes position Error.IsReported (image.localStart address extended) fun _ => 0 := by
  refine moves_uleb128.reported.bind fun register => ?_
  dsimp only
  split
  · have refused : (Error.registerOutOfRange register).IsReported := nofun
    exact @Moves.throw LocalStart _ _ _ _ _ refused
  · refine moves_optionalIndex.reported.bind fun nameIndex? => ?_
    refine (Moves.lift (image.reports_optionalString nameIndex?)).bind fun name => ?_
    refine moves_optionalIndex.reported.bind fun typeIndex? => ?_
    refine (Moves.lift (image.reports_optionalType typeIndex?)).bind fun localType => ?_
    split
    · refine moves_optionalIndex.reported.bind fun signatureIndex? => ?_
      refine (Moves.lift (image.reports_optionalString signatureIndex?)).bind fun signature => ?_
      exact .pure _ rfl
    · exact .pure _ rfl

/-- An event ends inside the bytes if the operands of its local start do. -/
theorem moves_decode
    {start : Bool → Decoder α}
    (moves : ∀ extended, Moves bytes position Error.IsReported (start extended) fun _ => 0) :
    Moves bytes position Error.IsReported (EncodedEvent.decode start) fun _ => 0 := by
  refine moves_u8.reported.bind fun opcode => ?_
  split
  case h_1 | h_9 | h_10 | h_11 => exact .pure _ rfl
  case h_2 | h_6 | h_7 | h_8 => exact moves_uleb128.reported.bind fun _ => .pure _ rfl
  case h_3 => exact moves_sleb128.reported.bind fun _ => .pure _ rfl
  case h_4 => exact (moves false).bind fun _ => .pure _ rfl
  case h_5 => exact (moves true).bind fun _ => .pure _ rfl

/-- A stream breaks off only if what its events add up to takes more than 32 bits. -/
theorem events_of_overflow
    (fits : address < Bytes.span 4)
    (inside : position ≤ bytes.size)
    (failed : image.localStarts address limit bytes position = .error .counterOverflow) :
    ∃ events middle,
      InTurn (EncodedEvent.IsEncoded bytes) position events middle
        ∧ Bytes.span 4 ≤ address + advanceOf events := by
  induction limit generalizing address position with
  | zero => cases failed
  | succ limit inductionHypothesis =>
      have moves := moves_decode (fun extended =>
        @moves_localStart image bytes address position extended)
      rw [localStarts_succ fits] at failed
      rcases of_bind_eq_error failed with failed | ⟨event?, middle, readEvent, failed⟩
      · exact absurd rfl (moves.refuses position _ (Nat.le_refl _) inside failed)
      · obtain ⟨forwards, within⟩ :=
          moves.forwards position event? middle (Nat.le_refl _) inside readEvent
        obtain ⟨isEncoded, -⟩ := decode_skipStart readEvent
        cases event? with
        | none => cases failed
        | some event =>
            by_cases inRange : address + event.advance < Bytes.span 4
            · dsimp only at failed
              rw [advance_of_lt inRange] at failed
              have rest : image.localStarts (address + event.advance) limit bytes middle =
                  .error .counterOverflow := by
                rcases of_bind_eq_error failed with nothing | ⟨reached, _, isReached, failed⟩
                · cases nothing
                · cases isReached
                  rcases of_bind_eq_error failed with failed | ⟨_, _, _, nothing⟩
                  · exact failed
                  · cases nothing
              obtain ⟨events, last, inTurn, exceeds⟩ := inductionHypothesis inRange within rest
              refine ⟨event.encoded :: events, last, .cons isEncoded inTurn, ?_⟩
              rw [advanceOf_cons, ← Nat.add_assoc]
              exact exceeds
            · refine ⟨[event.encoded], middle, .cons isEncoded (.nil middle), ?_⟩
              exact Nat.not_lt.mp inRange

end Running

/-! Debug streams of bodies. -/

namespace Instructions

/-- Finding the width of a payload fails in a way that is reported. -/
theorem reports_payloadWidth (address : Nat) (identification : UInt16) (rest : List UInt16) :
    Reports (payloadWidth address identification rest) := by
  unfold payloadWidth
  repeat' split
  all_goals nofun

/-- Scanning one instruction fails in a way that is reported. -/
theorem reports_step (address : Nat) (unit : UInt16) (rest : List UInt16) :
    Reports (step address unit rest) := by
  unfold step
  dsimp only
  split
  · exact Reports.bind (reports_payloadWidth address unit rest) fun _ => nofun
  · nofun

/-- Scanning code fails in a way that is reported. -/
theorem reports_scanFrom (address : Nat) (units : List UInt16) :
    Reports (scanFrom address units) := by
  induction address, units using scanFrom.induct with
  | case1 address =>
      rw [scanFrom]
      nofun
  | case2 address unit rest inductionHypothesis =>
      rw [scanFrom]
      refine Reports.bind (reports_step address unit rest) fun stepped => ?_
      dsimp only
      split
      · nofun
      · exact Reports.bind (inductionHypothesis stepped.2) fun _ => nofun

end Instructions

namespace Image

variable {image : Image} {offset : Nat}

/-- An item is read at an offset exactly if this is inside the bytes and the item is read there. -/
theorem readAt_eq_ok_iff {item : Decoder α} {value : α} :
    image.readAt offset item = .ok value ↔
      offset ≤ image.bytes.size ∧ ∃ after, item image.bytes offset = .ok (value, after) := by
  rw [readAt, Decoder.runAt]
  split
  · next inside =>
      cases item image.bytes offset with
      | error error => simp [inside]
      | ok result => simp [inside, Prod.ext_iff, eq_comm]
  · next outside => simp [outside]

/-- A counter that overflows behind an offset does so in the item that is read there. -/
theorem readAt_eq_overflow
    {item : Decoder α}
    (failed : image.readAt offset item = .error .counterOverflow) :
    offset ≤ image.bytes.size ∧ item image.bytes offset = .error .counterOverflow := by
  rw [readAt, Decoder.runAt] at failed
  split at failed
  · next inside =>
      refine ⟨inside, ?_⟩
      cases read : item image.bytes offset with
      | error error =>
          rw [read] at failed
          cases failed
          rfl
      | ok result =>
          rw [read] at failed
          cases failed
  · cases failed

/-- The offset of the debug stream in the head of a body. -/
def debugOffset : Decoder Nat := do
  let _ ← Decoder.u16
  let _ ← Decoder.u16
  let _ ← Decoder.u16
  let _ ← Decoder.u16
  Decoder.u32

/-- The position of the first event, behind the line and the parameter names of a stream. -/
def firstEvent : Decoder Nat := do
  let _ ← Decoder.uleb128
  let count ← Decoder.uleb128
  let _ ← times count Decoder.optionalIndex
  Decoder.position

/-- The body at an offset has a debug stream whose events begin at a position. -/
def EventsBegin (image : Image) (offset position : Nat) : Prop :=
  ∃ stream,
    image.readAt offset debugOffset = .ok stream
      ∧ stream ≠ 0
      ∧ image.readAt stream firstEvent = .ok position

/-- The locals of the body at an offset start at the exact sums of the advances before them. -/
inductive StartsExactly (image : Image) (offset : Nat) : List LocalStart → Prop where
  | withoutStream (absent : image.readAt offset debugOffset = .ok 0) : StartsExactly image offset []
  | withStream
      {position last : Nat}
      {starts : List LocalStart}
      {events : List (EncodedEvent Unit)}
      (begin_ : image.EventsBegin offset position)
      (inTurn : InTurn (EncodedEvent.IsEncoded image.bytes) position events last)
      (ended : EncodedEvent.IsEnded image.bytes last)
      (fits : advanceOf events < Bytes.span 4)
      (exact_ : starts.map (fun start => start.address.toNat) = startAddresses events) :
      StartsExactly image offset starts

/-- The events of the body at an offset add up to more than 32 bits. -/
def EventsExceed (image : Image) (offset : Nat) : Prop :=
  ∃ position events last,
    image.EventsBegin offset position
      ∧ InTurn (EncodedEvent.IsEncoded image.bytes) position events last
      ∧ Bytes.span 4 ≤ advanceOf events

/-- Parameter names are passed over as they are read. -/
theorem names_skipped
    {bytes : ByteArray}
    {position after count : Nat}
    {names : List (Option String)}
    (read :
      (times count (do image.optionalString (← Decoder.optionalIndex)) :
        Decoder (List (Option String))) bytes position = .ok (names, after)) :
    ∃ indices, times count Decoder.optionalIndex bytes position = .ok (indices, after) := by
  induction count generalizing position names with
  | zero =>
      cases read
      exact ⟨[], rfl⟩
  | succ count inductionHypothesis =>
      rw [times_succ] at read ⊢
      obtain ⟨name, middle, readName, read⟩ := of_bind_eq_ok read
      obtain ⟨rest, last, readRest, read⟩ := of_bind_eq_ok read
      obtain ⟨index?, _, readIndex, readName⟩ := of_bind_eq_ok readName
      obtain ⟨-, rfl⟩ := of_lift_eq_ok readName
      cases read
      obtain ⟨indices, readIndices⟩ := inductionHypothesis readRest
      refine ⟨index? :: indices, ?_⟩
      rw [bind_eq_of_ok readIndex, bind_eq_of_ok readIndices]
      rfl

/-- The parameter names of a stream, behind the line. -/
def parameterNames (image : Image) : Decoder (List (Option String)) := do
  let _ ← Decoder.uleb128
  let count ← Decoder.uleb128
  times count (do image.optionalString (← Decoder.optionalIndex))

/-- Debug information is read as the parameter names followed by the local starts. -/
theorem debugInfo_eq {stream : Nat} (present : stream ≠ 0) :
    image.debugInfo stream =
      image.readAt stream
        (image.parameterNames >>= fun names => Decoder.remaining >>= fun limit =>
          image.localStarts 0 limit >>= fun starts =>
            pure { parameterNames := names, locals := starts }) := by
  rw [debugInfo, if_neg present]
  simp only [parameterNames, bind_assoc]

/-- The first event stands behind the parameter names. -/
theorem firstEvent_of_parameterNames
    {bytes : ByteArray}
    {position after : Nat}
    {names : List (Option String)}
    (read : image.parameterNames bytes position = .ok (names, after)) :
    firstEvent bytes position = .ok (after, after) := by
  obtain ⟨line, _, readLine, read⟩ := of_bind_eq_ok read
  obtain ⟨count, _, readCount, read⟩ := of_bind_eq_ok read
  obtain ⟨indices, skipped⟩ := names_skipped read
  rw [firstEvent, bind_eq_of_ok readLine, bind_eq_of_ok readCount]
  exact bind_eq_of_ok skipped

/-- The line and the parameter names end inside the bytes. -/
theorem moves_parameterNames {bytes : ByteArray} {start : Nat} :
    Moves bytes start Error.IsReported image.parameterNames fun _ => 0 := by
  have name : Moves bytes start Error.IsReported
      (do image.optionalString (← Decoder.optionalIndex)) fun _ => 0 :=
    moves_optionalIndex.reported.bind fun index? => .lift (image.reports_optionalString index?)
  refine moves_uleb128.reported.bind fun line => ?_
  refine moves_uleb128.reported.bind fun count => ?_
  exact (name.times count).onwards

/-- Debug information that is read has its locals at the exact sums of the advances. -/
theorem startsExactly_of_debugInfo
    {stream : Nat}
    {info : DebugInfo}
    (head : image.readAt offset debugOffset = .ok stream)
    (read : image.debugInfo stream = .ok info) :
    image.StartsExactly offset info.locals := by
  by_cases present : stream = 0
  · subst present
    cases read
    exact .withoutStream head
  · rw [debugInfo_eq present] at read
    obtain ⟨inside, _, read⟩ := readAt_eq_ok_iff.mp read
    obtain ⟨names, position, readNames, read⟩ := of_bind_eq_ok read
    rw [Decoder.remaining_bind] at read
    obtain ⟨starts, _, readStarts, read⟩ := of_bind_eq_ok read
    cases read
    obtain ⟨events, last, inTurn, ended, fits, exact_⟩ :=
      events_of_localStarts (by decide) readStarts
    rw [Nat.zero_add] at fits
    rw [startedFrom_zero] at exact_
    have first := readAt_eq_ok_iff.mpr ⟨inside, position, firstEvent_of_parameterNames readNames⟩
    exact .withStream ⟨stream, head, present, first⟩ inTurn ended fits exact_

/-- A computation fails in its first step, or in its second one on what the first one gives. -/
theorem error_of_bind
    {first : Except Error α}
    {next : α → Except Error β}
    {error : Error}
    (failed : (first >>= next) = .error error) :
    first = .error error ∨ ∃ value, first = .ok value ∧ next value = .error error := by
  cases first with
  | error failure =>
      obtain rfl : failure = error := Except.error.inj failed
      exact .inl rfl
  | ok value => exact .inr ⟨value, rfl, failed⟩

/-- The debug offset among the parts of a body is the one in its head. -/
theorem debugOffset_of_bodyParts
    {registerCount stream : Nat}
    {units : List Nat}
    (read : image.readAt offset bodyParts = .ok (registerCount, stream, units)) :
    image.readAt offset debugOffset = .ok stream := by
  obtain ⟨inside, after, read⟩ := readAt_eq_ok_iff.mp read
  obtain ⟨first, _, readFirst, read⟩ := of_bind_eq_ok read
  obtain ⟨second, _, readSecond, read⟩ := of_bind_eq_ok read
  obtain ⟨third, _, readThird, read⟩ := of_bind_eq_ok read
  obtain ⟨fourth, _, readFourth, read⟩ := of_bind_eq_ok read
  obtain ⟨fifth, last, readFifth, read⟩ := of_bind_eq_ok read
  obtain ⟨size, _, readSize, read⟩ := of_bind_eq_ok read
  obtain ⟨all, _, readAll, read⟩ := of_bind_eq_ok read
  cases read
  refine readAt_eq_ok_iff.mpr ⟨inside, last, ?_⟩
  rw [debugOffset, bind_eq_of_ok readFirst, bind_eq_of_ok readSecond, bind_eq_of_ok readThird,
    bind_eq_of_ok readFourth]
  exact readFifth

/-- The locals of a body that is read start at exact sums. -/
theorem startsExactly_of_body
    {body : MethodBody}
    {names : List (Option String)}
    (read : image.body offset = .ok (body, names)) :
    image.StartsExactly offset body.locals := by
  obtain ⟨⟨registerCount, stream, units⟩, readParts, read⟩ := isGiving_except.of_bind read
  obtain ⟨opcodes, _, read⟩ := isGiving_except.of_bind read
  obtain ⟨info, readInfo, read⟩ := isGiving_except.of_bind read
  cases read
  exact startsExactly_of_debugInfo (debugOffset_of_bodyParts readParts) readInfo

/-- Reading the head and the code of a body fails in a way that is reported. -/
theorem reports_bodyParts : Reports (image.readAt offset bodyParts) := by
  refine reports_readAt (fun _ => ?_) offset
  refine moves_u16.bind fun registerCount => ?_
  refine moves_u16.bind fun parameterSlots => ?_
  refine moves_u16.bind fun argumentSlots => ?_
  refine moves_u16.bind fun tryCount => ?_
  refine moves_u32.bind fun debugOffset => ?_
  refine moves_u32.bind fun size => ?_
  refine (moves_u16.times size).onwards.bind fun units => ?_
  exact .pure _ rfl

/-- A debug stream breaks off only if its events add up to more than 32 bits. -/
theorem eventsExceed_of_debugInfo
    {stream : Nat}
    (head : image.readAt offset debugOffset = .ok stream)
    (failed : image.debugInfo stream = .error .counterOverflow) :
    image.EventsExceed offset := by
  by_cases present : stream = 0
  · subst present
    cases failed
  · rw [debugInfo_eq present] at failed
    obtain ⟨inside, failed⟩ := readAt_eq_overflow failed
    rcases of_bind_eq_error failed with failed | ⟨names, position, readNames, failed⟩
    · exact absurd rfl (moves_parameterNames.refuses stream _ (Nat.le_refl _) inside failed)
    obtain ⟨forwards, within⟩ :=
      moves_parameterNames.forwards stream names position (Nat.le_refl _) inside readNames
    rw [Decoder.remaining_bind] at failed
    rcases of_bind_eq_error failed with failed | ⟨_, _, _, failed⟩
    · obtain ⟨events, last, inTurn, exceeds⟩ := events_of_overflow (by decide) within failed
      rw [Nat.zero_add] at exceeds
      have first :=
        readAt_eq_ok_iff.mpr ⟨inside, position, firstEvent_of_parameterNames readNames⟩
      exact ⟨position, events, last, ⟨stream, head, present, first⟩, inTurn, exceeds⟩
    · cases failed

/-- A body breaks off only if its events add up to more than 32 bits. -/
theorem eventsExceed_of_body (failed : image.body offset = .error .counterOverflow) :
    image.EventsExceed offset := by
  rcases error_of_bind failed with failed | ⟨⟨registerCount, stream, units⟩, readParts, failed⟩
  · exact absurd rfl (reports_bodyParts _ failed)
  rcases error_of_bind failed with failed | ⟨opcodes, _, failed⟩
  · exact absurd rfl (Instructions.reports_scanFrom _ _ _ failed)
  rcases error_of_bind failed with failed | ⟨info, _, failed⟩
  · exact eventsExceed_of_debugInfo (debugOffset_of_bodyParts readParts) failed
  · cases failed

/-- Where locals start at exact sums, no events add up to more than 32 bits. -/
theorem StartsExactly.not_eventsExceed
    {starts : List LocalStart}
    (exact_ : image.StartsExactly offset starts) :
    ¬ image.EventsExceed offset := by
  rintro ⟨position, events, last, ⟨stream, head, present, first⟩, inTurn, exceeds⟩
  cases exact_ with
  | withoutStream absent =>
      rw [absent] at head
      cases head
      exact present rfl
  | withStream begin_ all ended fits _ =>
      obtain ⟨otherStream, otherHead, -, otherFirst⟩ := begin_
      obtain rfl : stream = otherStream := Except.ok.inj (head.symm.trans otherHead)
      obtain rfl := Except.ok.inj (first.symm.trans otherFirst)
      have isPrefix := inTurn.isPrefix_of_ended (EncodedEvent.isEncoded_unique image.bytes) all
        ended.not_isEncoded
      have fewer := advanceOf_le isPrefix
      omega

end Image

end Dex

end DexSurface
