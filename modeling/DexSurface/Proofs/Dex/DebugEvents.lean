import DexSurface.Dex.DebugInfo
import DexSurface.Total

namespace DexSurface

namespace Dex

/-!
# Debug events

An event of a debug stream advances the address by some amount and may start a local.  All events
are read by one decoder, whatever is done with what they start.  What events start stands at an
address that is counted on from event to event, which is the sum of the advances before it.
-/

/-- What an event does: it advances the address, and it may start a local. -/
structure EncodedEvent (α : Type) where
  advance : Nat
  start? : Option α

namespace EncodedEvent

/--
The next event, or none at the end mark; `start` reads the operands of a local start, of which the
extended form has one more.
-/
def decode (start : Bool → Decoder α) : Decoder (Option (EncodedEvent α)) := do
  let opcode ← Decoder.u8
  match opcode with
  | 0x00 => return none
  | 0x01 => do
      let amount ← Decoder.uleb128
      return some { advance := amount, start? := none }
  | 0x02 => do
      let _ ← Decoder.sleb128
      return some { advance := 0, start? := none }
  | 0x03 => do
      let started ← start false
      return some { advance := 0, start? := some started }
  | 0x04 => do
      let started ← start true
      return some { advance := 0, start? := some started }
  | 0x05 | 0x06 | 0x09 => do
      let _ ← Decoder.uleb128
      return some { advance := 0, start? := none }
  | 0x07 | 0x08 => return some { advance := 0, start? := none }
  | special => return some { advance := Image.specialAdvance special, start? := none }

end EncodedEvent

/-- An advance that fits 32 bits is made. -/
theorem advance_of_lt {counter amount : Nat} (inRange : counter + amount < Bytes.span 4) :
    advance counter amount = .ok (counter + amount) := by
  rw [advance, if_pos inRange]

/-- An event is read, the address advanced, and the events behind it are run. -/
theorem localStarts_succ
    {image : Image}
    {address limit : Nat}
    (fits : address < Bytes.span 4) :
    image.localStarts address (limit + 1) =
      EncodedEvent.decode (image.localStart address) >>= fun event? =>
        match event? with
        | none => pure []
        | some event => do
            let reached ← advance address event.advance
            return event.start?.toList ++ (← image.localStarts reached limit) := by
  have still (next : Nat → Decoder (List LocalStart)) :
      liftM (advance address 0) >>= next = next address := by
    rw [advance, Nat.add_zero, if_pos fits]
    rfl
  rw [Image.localStarts, EncodedEvent.decode, bind_assoc]
  congr 1
  funext opcode
  split <;> simp [still]

/-! Addresses of events. -/

section Addresses

variable {advanced : ε → Nat} {start? : Nat → ε → Option β}

/-- What events start, each at the address that is counted on from event to event. -/
def startedFrom (advanced : ε → Nat) (start? : Nat → ε → Option β) (address : Nat) :
    List ε → List β
  | [] => []
  | event :: rest =>
      (start? address event).toList ++ startedFrom advanced start? (address + advanced event) rest

/-- What events start, each at what the events before it add to the address. -/
def started (advanced : ε → Nat) (start? : Nat → ε → Option β) (events : List ε) : List β :=
  events.zipIdx.filterMap fun (event, position) =>
    start? (total advanced (events.take position)) event

/-- Behind some events, what is started stands at the sums of the advances of all events before. -/
theorem startedFrom_total (front events : List ε) :
    startedFrom advanced start? (total advanced front) events =
      (events.zipIdx front.length).filterMap fun (event, position) =>
        start? (total advanced ((front ++ events).take position)) event := by
  induction events generalizing front with
  | nil => rfl
  | cons event rest inductionHypothesis =>
      have behind := inductionHypothesis (front ++ [event])
      rw [List.append_assoc, List.length_append, List.singleton_append, List.length_singleton]
        at behind
      have reached :
          total advanced (front ++ [event]) = total advanced front + advanced event := by
        rw [total_append, total_cons, total_nil, Nat.add_zero]
      rw [startedFrom, ← reached, behind, List.zipIdx_cons, List.filterMap_cons]
      dsimp only
      rw [List.take_left]
      cases start? (total advanced front) event <;> rfl

/-- Addresses that are counted from zero are sums of advances. -/
theorem startedFrom_zero (events : List ε) :
    startedFrom advanced start? 0 events = started advanced start? events :=
  startedFrom_total [] events

end Addresses

end Dex

end DexSurface
