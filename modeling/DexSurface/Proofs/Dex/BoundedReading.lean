import Mathlib.Logic.Function.Iterate
import DexSurface.Proofs.Dex.ValueParts
import DexSurface.Total

namespace DexSurface

/-!
# Arbitrary bytes are read to an end

Whatever the bytes are, what is read from them moves the position forwards, but not behind their
end, and a failure names an offset in between.  A value takes a byte for itself and for each of its
parts, so neither a claimed count nor the depth of nested values goes beyond the bytes that are
left.  No counter is involved, so a failure to read an entry or a value is one that a run reports.
-/

namespace EncodedValue

mutual

/-- The number of values in a value, itself included, and of elements of annotations. -/
def nodes : EncodedValue → Nat
  | .nested _ elements => 1 + nodesOfElements elements
  | .array values => 1 + nodesOfValues values
  | _ => 1

/-- The number of values and elements in values. -/
def nodesOfValues : List EncodedValue → Nat
  | [] => 0
  | value :: rest => nodes value + nodesOfValues rest

/-- The number of values and elements in elements, themselves included. -/
def nodesOfElements : List (String × EncodedValue) → Nat
  | [] => 0
  | (_, value) :: rest => 1 + nodes value + nodesOfElements rest

end

/-- The nodes of values are those of each of them together. -/
theorem nodesOfValues_eq_total (values : List EncodedValue) :
    nodesOfValues values = total nodes values := by
  induction values with
  | nil => rfl
  | cons value rest inductionHypothesis =>
      rw [nodesOfValues, total_cons, inductionHypothesis]

/-- The nodes of elements are those of their values and the elements themselves. -/
theorem nodesOfElements_eq_total (elements : List (String × EncodedValue)) :
    nodesOfElements elements = total (fun element => 1 + nodes element.2) elements := by
  induction elements with
  | nil => rfl
  | cons element rest inductionHypothesis =>
      rw [nodesOfElements, total_cons, inductionHypothesis]

/-- A value counts at least itself. -/
theorem nodes_pos (value : EncodedValue) : 1 ≤ value.nodes := by
  cases value <;> simp [nodes]

end EncodedValue

namespace Dex

/-- The offset that a failure to read names. -/
def Error.offset? : Error → Option Nat
  | .truncated offset _ | .invalidLeb128 offset | .invalidString offset
  | .invalidValueType _ offset | .invalidValueSize _ offset | .invalidVisibility _ offset =>
      some offset
  | _ => none

/-- A failure that a run reports; it breaks off where a counter overflows. -/
def Error.IsReported (error : Error) : Prop :=
  error ≠ .counterOverflow

/-- A result that can fail only in ways that a run reports. -/
def Reports (given : Except Error α) : Prop :=
  ∀ error, given = .error error → error.IsReported

namespace Decoder

variable {bytes : ByteArray} {start position after : Nat}

/-- A decoder takes an amount of bytes or more, ends inside them and fails only for some reasons. -/
structure Moves
    (bytes : ByteArray)
    (start : Nat)
    (refusal : Error → Prop)
    (decoder : Decoder α)
    (amount : α → Nat) : Prop where
  forwards :
    ∀ position value after,
      start ≤ position →
        position ≤ bytes.size →
          decoder bytes position = .ok (value, after) →
            position + amount value ≤ after ∧ after ≤ bytes.size
  refuses :
    ∀ position error,
      start ≤ position →
        position ≤ bytes.size →
          decoder bytes position = .error error → refusal error

/-- A failure names an offset between a position and the end of the bytes. -/
def NamesOffset (bytes : ByteArray) (start : Nat) (error : Error) : Prop :=
  ∃ offset, error.offset? = some offset ∧ start ≤ offset ∧ offset ≤ bytes.size

/-- Two decoders do the same from a position on. -/
def AgreeFrom (bytes : ByteArray) (start : Nat) (first second : Decoder α) : Prop :=
  ∀ position,
    start ≤ position → position ≤ bytes.size → first bytes position = second bytes position

/-! Taking steps apart. -/

/-- A sequence that reads has read both parts one after the other. -/
theorem of_bind_eq_ok
    {decoder : Decoder α}
    {next : α → Decoder β}
    {result : β × Nat}
    (read : (decoder >>= next) bytes position = .ok result) :
    ∃ value middle,
      decoder bytes position = .ok (value, middle) ∧ next value bytes middle = .ok result := by
  change (decoder bytes position >>= fun given => next given.1 bytes given.2) = _ at read
  cases first : decoder bytes position with
  | error error =>
      rw [first] at read
      cases read
  | ok given =>
      rw [first] at read
      exact ⟨given.1, given.2, rfl, read⟩

/-- A sequence that fails has failed in its first part or behind it. -/
theorem of_bind_eq_error
    {decoder : Decoder α}
    {next : α → Decoder β}
    {error : Error}
    (failed : (decoder >>= next) bytes position = .error error) :
    decoder bytes position = .error error
      ∨ ∃ value middle,
        decoder bytes position = .ok (value, middle)
          ∧ next value bytes middle = .error error := by
  change (decoder bytes position >>= fun given => next given.1 bytes given.2) = _ at failed
  cases first : decoder bytes position with
  | error failure =>
      rw [first] at failed
      obtain rfl : failure = error := Except.error.inj failed
      exact .inl rfl
  | ok given =>
      rw [first] at failed
      exact .inr ⟨given.1, given.2, rfl, failed⟩

/-- A sequence behind a given result reads from where it started. -/
theorem of_lift_bind_eq_ok
    {given : Except Error α}
    {next : α → Decoder β}
    {result : β × Nat}
    (read : (liftM given >>= next : Decoder β) bytes position = .ok result) :
    ∃ value, given = .ok value ∧ next value bytes position = .ok result := by
  cases given with
  | error error => cases read
  | ok value => exact ⟨value, rfl, read⟩

/-- A given result is read without moving. -/
theorem of_lift_eq_ok
    {given : Except Error α}
    {value : α}
    (read : (liftM given : Decoder α) bytes position = .ok (value, after)) :
    given = .ok value ∧ after = position := by
  cases given with
  | error error => cases read
  | ok given =>
      cases read
      exact ⟨rfl, rfl⟩

/-- A given result fails only with its own error. -/
theorem of_lift_eq_error
    {given : Except Error α}
    {error : Error}
    (failed : (liftM given : Decoder α) bytes position = .error error) :
    given = .error error := by
  cases given with
  | error failure =>
      obtain rfl : failure = error := Except.error.inj failed
      rfl
  | ok value => cases failed

/-- A sequence goes on from where its first part ends. -/
theorem bind_eq_of_ok
    {decoder : Decoder α}
    {next : α → Decoder β}
    {value : α}
    (read : decoder bytes position = .ok (value, after)) :
    (decoder >>= next) bytes position = next value bytes after := by
  change (decoder bytes position >>= fun given => next given.1 bytes given.2) = _
  rw [read]
  rfl

/-- Asking for the position moves nowhere. -/
theorem position_bind {next : Nat → Decoder α} :
    (Decoder.position >>= next) bytes position = next position bytes position :=
  rfl

/-- Asking for the bytes that are left moves nowhere. -/
theorem remaining_bind {next : Nat → Decoder α} :
    (remaining >>= next) bytes position = next (bytes.size - position) bytes position :=
  rfl

/-! Moving forwards. -/

namespace Moves

variable {refusal : Error → Prop} {decoder : Decoder α} {amount : α → Nat}

/-- A decoder that takes an amount takes any smaller one. -/
theorem mono
    {fewer : α → Nat}
    (moves : Moves bytes start refusal decoder amount)
    (isFewer : ∀ value, fewer value ≤ amount value) :
    Moves bytes start refusal decoder fewer where
  forwards := by
    intro position value after behind inside read
    obtain ⟨forwards, within⟩ := moves.forwards position value after behind inside read
    have less := isFewer value
    exact ⟨by omega, within⟩
  refuses := moves.refuses

/-- How much is taken may not matter. -/
theorem onwards (moves : Moves bytes start refusal decoder amount) :
    Moves bytes start refusal decoder fun _ => 0 :=
  moves.mono fun _ => Nat.zero_le _

/-- A failure that names an offset is reported. -/
theorem reported (moves : Moves bytes start (NamesOffset bytes start) decoder amount) :
    Moves bytes start Error.IsReported decoder amount where
  forwards := moves.forwards
  refuses := by
    rintro position error behind inside failed rfl
    obtain ⟨offset, names, -, -⟩ := moves.refuses position _ behind inside failed
    cases names

/-- A decoder that reads nothing takes nothing. -/
theorem pure (value : α) (none : amount value = 0) :
    Moves bytes start refusal (Pure.pure value) amount where
  forwards := by
    intro position value after behind inside read
    cases read
    exact ⟨by omega, inside⟩
  refuses := by
    intro position error behind inside failed
    cases failed

/-- A decoder that fails at once takes any amount. -/
theorem throw {error : Error} (refused : refusal error) :
    Moves bytes start refusal (MonadExcept.throw error) amount where
  forwards := by
    intro position value after behind inside read
    cases read
  refuses := by
    intro position error behind inside failed
    cases failed
    exact refused

/-- A given result takes nothing and fails as it is reported. -/
theorem lift {given : Except Error α} (reports : Reports given) :
    Moves bytes start Error.IsReported (liftM given) fun _ => 0 where
  forwards := by
    intro position value after behind inside read
    obtain ⟨-, rfl⟩ := of_lift_eq_ok read
    exact ⟨Nat.le_refl _, inside⟩
  refuses := by
    intro position error behind inside failed
    exact reports error (of_lift_eq_error failed)

/-- A step that only looks at the position. -/
theorem position_bind
    {next : Nat → Decoder α}
    (moves : ∀ offset, start ≤ offset → offset ≤ bytes.size →
      Moves bytes start refusal (next offset) amount) :
    Moves bytes start refusal (Decoder.position >>= next) amount where
  forwards position value after behind inside :=
    (moves position behind inside).forwards position value after behind inside
  refuses position error behind inside :=
    (moves position behind inside).refuses position error behind inside

/-- A step that only looks at how many bytes are left. -/
theorem remaining_bind
    {next : Nat → Decoder α}
    (moves : ∀ limit, Moves bytes start refusal (next limit) amount) :
    Moves bytes start refusal (remaining >>= next) amount where
  forwards position := (moves (bytes.size - position)).forwards position
  refuses position := (moves (bytes.size - position)).refuses position

/-- A second step has to take what the first one leaves of an amount. -/
theorem bind
    {next : α → Decoder β}
    {whole : β → Nat}
    (moves : Moves bytes start refusal decoder amount)
    (nextMoves : ∀ value,
      Moves bytes start refusal (next value) fun result => whole result - amount value) :
    Moves bytes start refusal (decoder >>= next) whole where
  forwards := by
    intro position result after behind inside read
    obtain ⟨value, middle, first, second⟩ := of_bind_eq_ok read
    obtain ⟨forwards, within⟩ := moves.forwards position value middle behind inside first
    have nextForwards := (nextMoves value).forwards middle result after (by omega) within second
    exact ⟨by omega, nextForwards.2⟩
  refuses := by
    intro position error behind inside failed
    rcases of_bind_eq_error failed with first | ⟨value, middle, first, second⟩
    · exact moves.refuses position error behind inside first
    · obtain ⟨forwards, within⟩ := moves.forwards position value middle behind inside first
      exact (nextMoves value).refuses middle error (by omega) within second

/-- A step after which only the value is changed. -/
theorem bind_pure
    {change : α → β}
    {whole : β → Nat}
    (moves : Moves bytes start refusal decoder fun value => whole (change value)) :
    Moves bytes start refusal (decoder >>= fun value => Pure.pure (change value)) whole :=
  moves.bind fun _ => pure _ (Nat.sub_self _)

/-- Items in a row take what each of them takes. -/
theorem times (moves : Moves bytes start refusal decoder amount) (count : Nat) :
    Moves bytes start refusal (times count decoder) (total amount) := by
  induction count with
  | zero => exact pure [] rfl
  | succ count inductionHypothesis =>
      rw [times_succ]
      refine moves.bind fun value => bind_pure (inductionHypothesis.mono fun rest => ?_)
      simp

end Moves

/-! The operations of a reader. -/

/-- A byte takes one byte. -/
theorem moves_u8 : Moves bytes start (NamesOffset bytes start) u8 fun _ => 1 where
  forwards := by
    intro position value after behind inside read
    rw [u8] at read
    split at read
    · cases read
      exact ⟨Nat.le_refl _, by omega⟩
    · cases read
  refuses := by
    intro position error behind inside failed
    rw [u8] at failed
    split at failed
    · cases failed
    · cases failed
      exact ⟨position, rfl, behind, inside⟩

/-- A run of bytes ends inside the bytes. -/
theorem moves_take (length : Nat) :
    Moves bytes start (NamesOffset bytes start) (take length) fun _ => 0 := by
  refine .remaining_bind fun limit => ?_
  split
  · exact (moves_u8.times length).onwards
  · exact .position_bind fun offset behind inside => .throw ⟨offset, rfl, behind, inside⟩

/-- A number of a fixed width ends inside the bytes. -/
theorem moves_number (width : Nat) :
    Moves bytes start (NamesOffset bytes start) (number width) fun _ => 0 := by
  rw [number, map_eq_pure_bind]
  exact (moves_take width).bind fun _ => .pure _ rfl

/-- A number of variable length names the offset at which it begins. -/
theorem moves_lebBytes
    {begin : Nat}
    (behind : start ≤ begin)
    (inside : begin ≤ bytes.size)
    (limit : Nat) :
    Moves bytes start (NamesOffset bytes start) (lebBytes begin limit) fun _ => 1 := by
  induction limit with
  | zero => exact .throw ⟨begin, rfl, behind, inside⟩
  | succ limit inductionHypothesis =>
      refine moves_u8.bind fun byte => ?_
      split
      · exact .pure _ rfl
      · exact .bind_pure inductionHypothesis.onwards

/-- An unsigned number takes at least one byte. -/
theorem moves_uleb128 : Moves bytes start (NamesOffset bytes start) uleb128 fun _ => 1 :=
  .position_bind fun _ behind inside => .bind_pure (moves_lebBytes behind inside maxLebBytes)

/-- A number of variable length is reported wherever it cannot be read. -/
theorem uleb128_reports
    {error : Error}
    (failed : uleb128 bytes position = .error error) :
    error.IsReported := by
  by_cases inside : position ≤ bytes.size
  · exact moves_uleb128.reported.refuses position error (Nat.le_refl _) inside failed
  · have outside : u8 bytes position = .error (.truncated position 1) :=
      dif_neg fun below => inside (Nat.le_of_lt below)
    have fails : lebBytes position maxLebBytes bytes position = .error (.truncated position 1) :=
      bind_eq_error outside
    rw [uleb128, position_bind, bind_eq_error fails] at failed
    cases failed
    intro overflow
    cases overflow

/-- A signed number takes at least one byte. -/
theorem moves_sleb128 : Moves bytes start (NamesOffset bytes start) sleb128 fun _ => 1 := by
  refine .position_bind fun offset behind inside => ?_
  refine (moves_lebBytes behind inside maxLebBytes).bind fun groups => ?_
  split <;> exact .pure _ rfl

/-- An index that may be absent takes at least one byte. -/
theorem moves_optionalIndex :
    Moves bytes start (NamesOffset bytes start) optionalIndex fun _ => 1 := by
  refine moves_uleb128.bind fun index => ?_
  split <;> exact .pure _ rfl

/-- A string names the offset at which it begins. -/
theorem moves_untilZero
    {begin : Nat}
    (behind : start ≤ begin)
    (inside : begin ≤ bytes.size)
    (limit : Nat) :
    Moves bytes start (NamesOffset bytes start) (untilZero begin limit) fun _ => 1 := by
  induction limit with
  | zero => exact .throw ⟨begin, rfl, behind, inside⟩
  | succ limit inductionHypothesis =>
      refine moves_u8.bind fun byte => ?_
      split
      · exact .pure _ rfl
      · exact .bind_pure inductionHypothesis.onwards

/-- A text takes at least the byte that ends it. -/
theorem moves_mutf8 : Moves bytes start (NamesOffset bytes start) mutf8 fun _ => 1 := by
  refine .position_bind fun offset behind inside => ?_
  refine .remaining_bind fun limit => ?_
  refine (moves_untilZero behind inside limit).bind fun item => ?_
  split
  · exact .pure _ rfl
  · exact .throw ⟨offset, rfl, behind, inside⟩

/-- The operations on single numbers, strings and runs of bytes. -/
inductive Operation : Type → Type where
  | u8 : Operation UInt8
  | take (length : Nat) : Operation (List UInt8)
  | number (width : Nat) : Operation Nat
  | u16 : Operation Nat
  | u32 : Operation Nat
  | uleb128 : Operation Nat
  | sleb128 : Operation Int32
  | optionalIndex : Operation (Option Nat)
  | mutf8 : Operation String

/-- The decoder of an operation. -/
def Operation.decoder : Operation α → Decoder α
  | .u8 => Decoder.u8
  | .take length => Decoder.take length
  | .number width => Decoder.number width
  | .u16 => Decoder.u16
  | .u32 => Decoder.u32
  | .uleb128 => Decoder.uleb128
  | .sleb128 => Decoder.sleb128
  | .optionalIndex => Decoder.optionalIndex
  | .mutf8 => Decoder.mutf8

/-- Every operation ends inside the bytes and names an offset there if it fails. -/
theorem Operation.moves (operation : Operation α) :
    Moves bytes start (NamesOffset bytes start) operation.decoder fun _ => 0 := by
  cases operation with
  | u8 => exact moves_u8.onwards
  | take length => exact moves_take length
  | number width => exact moves_number width
  | u16 => exact moves_number 2
  | u32 => exact moves_number 4
  | uleb128 => exact moves_uleb128.onwards
  | sleb128 => exact moves_sleb128.onwards
  | optionalIndex => exact moves_optionalIndex.onwards
  | mutf8 => exact moves_mutf8.onwards

/--
A decoder moves forwards inside the bytes, names an offset there if it fails, and does not start
behind their end.
-/
structure StaysInside (decoder : Decoder α) : Prop where
  moves :
    ∀ bytes position value after,
      position ≤ bytes.size →
        decoder bytes position = .ok (value, after) →
          position ≤ after ∧ after ≤ bytes.size
  fails :
    ∀ bytes position error,
      position ≤ bytes.size →
        decoder bytes position = .error error →
          ∃ offset, error.offset? = some offset ∧ position ≤ offset ∧ offset ≤ bytes.size
  starts :
    ∀ bytes offset,
      bytes.size < offset → runAt decoder bytes offset = .error (.truncated offset 0)

/-- Every operation stays inside the bytes. -/
theorem Operation.staysInside (operation : Operation α) : operation.decoder.StaysInside where
  moves _ position value after :=
    operation.moves.forwards position value after (Nat.le_refl position)
  fails _ position error := operation.moves.refuses position error (Nat.le_refl position)
  starts _ _ outside := if_neg (Nat.not_le.mpr outside)

/-! Counts that are claimed. -/

section Claims

variable {refusal : Error → Prop} {item : Decoder α} {amount : α → Nat}

/-- Reading an item so many times gives so many values. -/
theorem length_of_times
    {count : Nat}
    {values : List α}
    (read : times count item bytes position = .ok (values, after)) :
    values.length = count := by
  induction count generalizing position values with
  | zero =>
      cases read
      rfl
  | succ count inductionHypothesis =>
      rw [times_succ] at read
      obtain ⟨first, middle, _, others⟩ := of_bind_eq_ok read
      obtain ⟨rest, final, readRest, last⟩ := of_bind_eq_ok others
      cases last
      rw [List.length_cons, inductionHypothesis readRest]

/-- Items that take at least one byte each cannot be more than the bytes that are left. -/
theorem times_fails_of_claimed
    (moves : Moves bytes start refusal item amount)
    (positive : ∀ value, 1 ≤ amount value)
    (behind : start ≤ position)
    (inside : position ≤ bytes.size)
    {count : Nat}
    (claimed : bytes.size - position < count) :
    ∃ error, times count item bytes position = .error error := by
  cases read : times count item bytes position with
  | error error => exact ⟨error, rfl⟩
  | ok result =>
      obtain ⟨values, after⟩ := result
      have taken := ((moves.mono positive).times count).forwards position values after behind inside
        read
      have sameLength := length_of_times read
      rw [total_const, Nat.one_mul] at taken
      omega

/-- A count that is larger than the bytes that are left fails like every other such count. -/
theorem times_eq_of_claimed
    (moves : Moves bytes start refusal item amount)
    (positive : ∀ value, 1 ≤ amount value)
    (behind : start ≤ position)
    (inside : position ≤ bytes.size)
    {first second : Nat}
    (claimed : bytes.size - position < first)
    (otherClaimed : bytes.size - position < second) :
    times first item bytes position = times second item bytes position := by
  induction first generalizing second position with
  | zero => omega
  | succ first inductionHypothesis =>
      obtain ⟨second, rfl⟩ := Nat.exists_eq_succ_of_ne_zero (by omega : second ≠ 0)
      rw [times_succ, Nat.succ_eq_add_one, times_succ]
      change (item bytes position >>= _) = (item bytes position >>= _)
      cases read : item bytes position with
      | error error => rfl
      | ok result =>
          obtain ⟨value, middle⟩ := result
          obtain ⟨forwards, within⟩ := moves.forwards position value middle behind inside read
          have taken := positive value
          change ((times first item bytes middle) >>= _) = ((times second item bytes middle) >>= _)
          rw [inductionHypothesis (by omega) within (by omega) (by omega : _ < second)]

end Claims

/-! Decoders that agree. -/

namespace AgreeFrom

variable {refusal : Error → Prop} {first second : Decoder α} {amount : α → Nat}

/-- Next steps only have to agree behind what the first one takes. -/
theorem bind_behind
    {firstNext secondNext : α → Decoder β}
    (agree : AgreeFrom bytes start first second)
    (moves : Moves bytes start refusal second amount)
    (nextAgree : ∀ value,
      AgreeFrom bytes (start + amount value) (firstNext value) (secondNext value)) :
    AgreeFrom bytes start (first >>= firstNext) (second >>= secondNext) := by
  intro position behind inside
  change (first bytes position >>= _) = (second bytes position >>= _)
  rw [agree position behind inside]
  cases read : second bytes position with
  | error error => rfl
  | ok result =>
      obtain ⟨forwards, within⟩ := moves.forwards position result.1 result.2 behind inside read
      exact nextAgree result.1 result.2 (by omega) within

/-- Sequences of decoders that agree agree where the first parts end. -/
theorem bind
    {firstNext secondNext : α → Decoder β}
    (agree : AgreeFrom bytes start first second)
    (moves : Moves bytes start refusal second amount)
    (nextAgree : ∀ value, AgreeFrom bytes start (firstNext value) (secondNext value)) :
    AgreeFrom bytes start (first >>= firstNext) (second >>= secondNext) :=
  agree.bind_behind moves fun value position behind =>
    nextAgree value position (Nat.le_trans (Nat.le_add_right _ _) behind)

/-- A step that only looks at the position. -/
theorem position_bind
    {firstNext secondNext : Nat → Decoder α}
    (agree : ∀ offset, AgreeFrom bytes start (firstNext offset) (secondNext offset)) :
    AgreeFrom bytes start (Decoder.position >>= firstNext) (Decoder.position >>= secondNext) :=
  fun position => agree position position

/-- A decoder agrees with itself. -/
theorem refl (decoder : Decoder α) : AgreeFrom bytes start decoder decoder :=
  fun _ _ _ => rfl

/-- Decoders that agree do so when repeated. -/
theorem times
    (agree : AgreeFrom bytes start first second)
    (moves : Moves bytes start refusal second amount)
    (count : Nat) :
    AgreeFrom bytes start (times count first) (times count second) := by
  induction count with
  | zero => exact refl _
  | succ count inductionHypothesis =>
      rw [times_succ, times_succ]
      refine agree.bind moves fun value => ?_
      refine inductionHypothesis.bind (moves.times count) fun rest => ?_
      exact refl _

end AgreeFrom

end Decoder

open Decoder (Moves AgreeFrom moves_u8 moves_number moves_uleb128)

/-! Failures of tables. -/

/-- A sequence of results that are reported is reported. -/
theorem Reports.bind
    {given : Except Error α}
    {next : α → Except Error β}
    (reports : Reports given)
    (nextReports : ∀ value, Reports (next value)) :
    Reports (given >>= next) := by
  intro error failed
  cases given with
  | error failure =>
      obtain rfl : failure = error := Except.error.inj failed
      exact reports failure rfl
  | ok value => exact nextReports value error failed

/-- Changing a value adds no failure. -/
theorem Reports.map
    {given : Except Error α}
    (reports : Reports given)
    (change : α → β) :
    Reports (change <$> given) := by
  rw [map_eq_pure_bind]
  exact reports.bind fun _ => nofun

namespace Image

variable {image : Image} {bytes : ByteArray} {start position : Nat}

/-- Reading an item at an offset fails as reading the item does. -/
theorem reports_readAt
    {item : Decoder α}
    (moves : ∀ start, Moves image.bytes start Error.IsReported item fun _ => 0)
    (offset : Nat) :
    Reports (image.readAt offset item) := by
  intro error failed
  rw [readAt, Decoder.runAt] at failed
  split at failed
  · next inside =>
      cases read : item image.bytes offset with
      | error failure =>
          rw [read] at failed
          obtain rfl : failure = error := Except.error.inj failed
          exact (moves offset).refuses offset failure (Nat.le_refl _) inside read
      | ok result =>
          rw [read] at failed
          cases failed
  · cases failed
    intro overflow
    cases overflow

section Tables

variable (image : Image)

/-- Looking up an entry of a table fails in a way that is reported. -/
theorem reports_entry (table : Table) (kind : TableKind) (index width : Nat) :
    Reports (table.entry kind index width) := by
  rw [Table.entry]
  split <;> nofun

/-- A number of two bytes ends inside the bytes. -/
theorem moves_u16 : Moves bytes start Error.IsReported Decoder.u16 fun _ => 0 :=
  (moves_number 2).reported

/-- A number of four bytes ends inside the bytes. -/
theorem moves_u32 : Moves bytes start Error.IsReported Decoder.u32 fun _ => 0 :=
  (moves_number 4).reported

/-- Looking up a string fails in a way that is reported. -/
theorem reports_string (index : Nat) : Reports (image.string index) := by
  refine Reports.bind (reports_entry _ _ _ _) fun entry => ?_
  refine Reports.bind (reports_readAt (fun _ => moves_u32) entry) fun offset => ?_
  refine reports_readAt (fun start => ?_) offset
  refine moves_uleb128.reported.bind fun length => ?_
  exact Decoder.moves_mutf8.reported.onwards

/-- Looking up a type name fails in a way that is reported. -/
theorem reports_typeName (index : Nat) : Reports (image.typeName index) := by
  refine Reports.bind (reports_entry _ _ _ _) fun entry => ?_
  exact Reports.bind (reports_readAt (fun _ => moves_u32) entry) image.reports_string

/-- Looking up a string that may be absent fails in a way that is reported. -/
theorem reports_optionalString (index? : Option Nat) : Reports (image.optionalString index?) := by
  cases index? with
  | none => nofun
  | some index => exact Reports.map (image.reports_string index) some

/-- Looking up a type that may be absent fails in a way that is reported. -/
theorem reports_optionalType (index? : Option Nat) : Reports (image.optionalType index?) := by
  cases index? with
  | none => nofun
  | some index => exact Reports.map (image.reports_typeName index) some

/-- A step that reads an index and then what stands at it. -/
theorem moves_shown
    {index : Decoder Nat}
    {read : Nat → Except Error α}
    {next : α → Decoder β}
    (moves : Moves bytes start Error.IsReported index fun _ => 0)
    (reports : ∀ number, Reports (read number))
    (nextMoves : ∀ shown, Moves bytes start Error.IsReported (next shown) fun _ => 0) :
    Moves bytes start Error.IsReported
      (index >>= fun number => liftM (read number) >>= next) fun _ => 0 := by
  refine moves.bind fun number => ?_
  exact (Moves.lift (reports number)).bind nextMoves

/-- Looking up a list of types fails in a way that is reported. -/
theorem reports_typeList (offset : Nat) : Reports (image.typeList offset) := by
  rw [typeList]
  split
  · nofun
  · refine reports_readAt (fun start => moves_u32.bind fun size => ?_) offset
    have item : Moves image.bytes start Error.IsReported
        (do image.typeName (← Decoder.u16)) fun _ => 0 :=
      moves_u16.bind fun index => .lift (image.reports_typeName index)
    exact (item.times size).onwards

/-- Looking up a prototype fails in a way that is reported. -/
theorem reports_proto (index : Nat) : Reports (image.proto index) := by
  refine Reports.bind (reports_entry _ _ _ _) fun entry => ?_
  refine reports_readAt (fun start => ?_) entry
  refine moves_u32.bind fun shortForm => ?_
  refine moves_shown moves_u32 image.reports_typeName fun returnType => ?_
  refine moves_shown moves_u32 image.reports_typeList fun parameterTypes => ?_
  exact .pure _ rfl

/-- Looking up a reference to a field fails in a way that is reported. -/
theorem reports_fieldRef (index : Nat) : Reports (image.fieldRef index) := by
  refine Reports.bind (reports_entry _ _ _ _) fun entry => ?_
  refine reports_readAt (fun start => ?_) entry
  refine moves_shown moves_u16 image.reports_typeName fun definingClass => ?_
  refine moves_shown moves_u16 image.reports_typeName fun fieldType => ?_
  refine moves_shown moves_u32 image.reports_string fun name => ?_
  exact .pure _ rfl

/-- Looking up a reference to a method fails in a way that is reported. -/
theorem reports_methodRef (index : Nat) : Reports (image.methodRef index) := by
  refine Reports.bind (reports_entry _ _ _ _) fun entry => ?_
  refine reports_readAt (fun start => ?_) entry
  refine moves_shown moves_u16 image.reports_typeName fun definingClass => ?_
  refine moves_shown moves_u16 image.reports_proto fun shape => ?_
  refine moves_shown moves_u32 image.reports_string fun name => ?_
  exact .pure _ rfl

end Tables

/-! What a value takes. -/

/-- The next value, if `deeper` reads the values in it. -/
def valueAround (image : Image) (deeper : Decoder EncodedValue) : Decoder EncodedValue := do
  let offset ← Decoder.position
  let header ← Decoder.u8
  if header &&& 0x1f = arrayCode then
    return .array (← valuesOf deeper)
  else if header &&& 0x1f = annotationCode then
    let (annotationType, elements) ← image.annotationOf deeper
    return .nested annotationType elements
  else
    image.scalar (header &&& 0x1f) (header >>> 5).toNat offset

/-- The type of an annotation and the number of its elements. -/
def annotationHead (image : Image) : Decoder (TypeDescriptor × Nat) := do
  let annotationType ← image.typeName (← Decoder.uleb128)
  return (annotationType, ← Decoder.uleb128)

/-- An annotation is read as its head followed by its elements. -/
theorem annotationOf_eq (image : Image) (deeper : Decoder EncodedValue) :
    image.annotationOf deeper = image.annotationHead >>= fun head =>
      times head.2 (elementOf image deeper) >>= fun elements => pure (head.1, elements) := by
  simp only [annotationOf, annotationHead, elementOf, bind_assoc, pure_bind]

/-- A value is read around values that are read within one level less. -/
theorem valueWithin_succ (image : Image) (limit : Nat) :
    image.valueWithin (limit + 1) = image.valueAround (image.valueWithin limit) :=
  rfl

section Single

variable {reading : Decoder α}

/-- A value without parts is nothing more than its header. -/
theorem moves_single
    {change : α → EncodedValue}
    (moves : Moves bytes start Error.IsReported reading fun _ => 0)
    (single : ∀ stored, (change stored).nodes = 1) :
    Moves bytes start Error.IsReported (reading >>= fun stored => pure (change stored))
      fun value => value.nodes - 1 :=
  moves.bind fun stored => .pure _ (by rw [single])

/-- A value that an index stands for takes the bytes of the index. -/
theorem moves_entry
    {index : Decoder Nat}
    {read : Nat → Except Error α}
    {change : α → EncodedValue}
    (moves : Moves bytes start Error.IsReported index fun _ => 0)
    (reports : ∀ number, Reports (read number))
    (single : ∀ stored, (change stored).nodes = 1) :
    Moves bytes start Error.IsReported
      (index >>= fun number => liftM (read number) >>= fun stored => pure (change stored))
      fun value => value.nodes - 1 :=
  moves.bind fun number => moves_single (.lift (reports number)) single

end Single

/-- The bytes of an unsigned value end inside the bytes. -/
theorem moves_payload (size width offset : Nat) :
    Moves bytes start Error.IsReported (payload size width offset) fun _ => 0 := by
  rw [payload]
  split
  · exact (Decoder.moves_number size).reported
  · have refused : (Error.invalidValueSize size offset).IsReported := by
      intro overflow
      cases overflow
    exact .throw refused

/-- The bytes of a signed value end inside the bytes. -/
theorem moves_signedPayload (size width offset : Nat) :
    Moves bytes start Error.IsReported (signedPayload size width offset) fun _ => 0 := by
  rw [signedPayload, map_eq_pure_bind]
  exact (moves_payload size width offset).bind fun _ => .pure _ rfl

/-- The bytes of a floating value end inside the bytes. -/
theorem moves_floatingPayload (size width offset : Nat) :
    Moves bytes start Error.IsReported (floatingPayload size width offset) fun _ => 0 :=
  (moves_payload size width offset).bind fun _ => .pure _ rfl

/-- A value that holds no others takes the bytes behind its first one. -/
theorem moves_scalar (code : UInt8) (argument offset : Nat) :
    Moves bytes start Error.IsReported (image.scalar code argument offset)
      fun value => value.nodes - 1 := by
  unfold scalar
  dsimp only
  split
  case h_1 | h_2 | h_4 | h_5 => exact moves_single (moves_signedPayload _ _ _) fun _ => rfl
  case h_3 => exact moves_single (moves_payload _ _ _) fun _ => rfl
  case h_6 | h_7 => exact moves_single (moves_floatingPayload _ _ _) fun _ => rfl
  case h_8 | h_9 | h_17 => exact .throw nofun
  case h_10 => exact moves_entry (moves_payload _ _ _) image.reports_string fun _ => rfl
  case h_11 => exact moves_entry (moves_payload _ _ _) image.reports_typeName fun _ => rfl
  case h_12 | h_14 => exact moves_entry (moves_payload _ _ _) image.reports_fieldRef fun _ => rfl
  case h_13 => exact moves_entry (moves_payload _ _ _) image.reports_methodRef fun _ => rfl
  case h_15 | h_16 => exact .pure _ rfl

section Nested

variable {deeper : Decoder EncodedValue}

/-- The values of an array take a byte for their count and as many as they have parts. -/
theorem moves_valuesOf
    (moves : Moves bytes start Error.IsReported deeper EncodedValue.nodes) :
    Moves bytes start Error.IsReported (valuesOf deeper)
      fun values => 1 + EncodedValue.nodesOfValues values := by
  refine moves_uleb128.reported.bind fun count => ?_
  refine (moves.times count).mono fun values => ?_
  rw [EncodedValue.nodesOfValues_eq_total]
  omega

/-- An element takes a byte for its name and as many as its value has parts. -/
theorem moves_elementOf
    (moves : Moves bytes start Error.IsReported deeper EncodedValue.nodes) :
    Moves bytes start Error.IsReported (elementOf image deeper)
      fun element => 1 + element.2.nodes := by
  refine moves_uleb128.reported.bind fun index => ?_
  refine (Moves.lift (image.reports_string index)).bind fun name => ?_
  refine .bind_pure (moves.mono fun value => ?_)
  simp

/-- The head of an annotation takes at least two bytes. -/
theorem moves_annotationHead :
    Moves bytes start Error.IsReported image.annotationHead fun _ => 2 := by
  refine moves_uleb128.reported.bind fun index => ?_
  refine (Moves.lift (image.reports_typeName index)).bind fun annotationType => ?_
  refine moves_uleb128.reported.bind fun count => ?_
  exact .pure _ rfl

/-- An annotation takes two bytes for its head and as many as its elements have parts. -/
theorem moves_annotationOf
    (moves : Moves bytes start Error.IsReported deeper EncodedValue.nodes) :
    Moves bytes start Error.IsReported (image.annotationOf deeper)
      fun parts => 2 + EncodedValue.nodesOfElements parts.2 := by
  rw [annotationOf_eq]
  refine moves_annotationHead.bind fun head => ?_
  refine .bind_pure (((moves_elementOf moves).times head.2).mono fun elements => ?_)
  dsimp only
  rw [EncodedValue.nodesOfElements_eq_total]
  omega

/-- A value takes as many bytes as it has parts, if the values in it do. -/
theorem moves_valueAround
    (moves : Moves bytes start Error.IsReported deeper EncodedValue.nodes) :
    Moves bytes start Error.IsReported (image.valueAround deeper) EncodedValue.nodes := by
  refine .position_bind fun offset behind inside => ?_
  refine moves_u8.reported.bind fun header => ?_
  split
  · refine .bind_pure ((moves_valuesOf moves).mono fun values => ?_)
    rw [EncodedValue.nodes, Nat.add_sub_cancel_left]
    omega
  · split
    · refine (moves_annotationOf moves).bind fun parts => .pure _ ?_
      rw [EncodedValue.nodes]
      omega
    · exact moves_scalar _ _ offset

end Nested

/-- A value takes at least as many bytes as it has parts. -/
theorem moves_valueWithin (limit : Nat) :
    Moves bytes start Error.IsReported (image.valueWithin limit) EncodedValue.nodes := by
  induction limit with
  | zero => exact .position_bind fun _ _ _ => .throw nofun
  | succ limit inductionHypothesis =>
      rw [valueWithin_succ]
      exact moves_valueAround inductionHypothesis

/-- A value takes at least as many bytes as it has parts. -/
theorem moves_value : Moves bytes start Error.IsReported image.value EncodedValue.nodes :=
  .remaining_bind moves_valueWithin

/-! How deep values are read. -/

section Agreeing

variable {first second : Decoder EncodedValue}

/-- The values of an array are read alike where deeper values are. -/
theorem agree_valuesOf
    (agree : AgreeFrom bytes start first second)
    (moves : Moves bytes start Error.IsReported second EncodedValue.nodes) :
    AgreeFrom bytes start (valuesOf first) (valuesOf second) :=
  (AgreeFrom.refl _).bind moves_uleb128.reported fun count => agree.times moves count

/-- An element is read alike where deeper values are. -/
theorem agree_elementOf
    (agree : AgreeFrom bytes start first second)
    (moves : Moves bytes start Error.IsReported second EncodedValue.nodes) :
    AgreeFrom bytes start (elementOf image first) (elementOf image second) := by
  refine (AgreeFrom.refl _).bind moves_uleb128.reported fun index => ?_
  refine (AgreeFrom.refl _).bind (.lift (image.reports_string index)) fun name => ?_
  exact agree.bind moves fun value => .refl _

/-- An annotation is read alike where deeper values are. -/
theorem agree_annotationOf
    (agree : AgreeFrom bytes start first second)
    (moves : Moves bytes start Error.IsReported second EncodedValue.nodes) :
    AgreeFrom bytes start (image.annotationOf first) (image.annotationOf second) := by
  rw [annotationOf_eq, annotationOf_eq]
  refine (AgreeFrom.refl _).bind moves_annotationHead fun head => ?_
  have elementsMove : Moves bytes start Error.IsReported
      (times head.2 (elementOf image second)) (total fun element => 1 + element.2.nodes) :=
    (moves_elementOf moves).times head.2
  have elementsAgree : AgreeFrom bytes start
      (times head.2 (elementOf image first)) (times head.2 (elementOf image second)) :=
    (agree_elementOf agree moves).times (moves_elementOf moves) head.2
  exact elementsAgree.bind elementsMove fun elements => .refl _

/-- A value is the same if the values behind its first byte are. -/
theorem agree_valueAround
    (agree : AgreeFrom bytes (start + 1) first second)
    (moves : Moves bytes (start + 1) Error.IsReported second EncodedValue.nodes) :
    AgreeFrom bytes start (image.valueAround first) (image.valueAround second) := by
  refine .position_bind fun offset => ?_
  refine AgreeFrom.bind_behind (.refl _) moves_u8 fun header => ?_
  split
  · refine (agree_valuesOf agree moves).bind (moves_valuesOf moves) fun values => ?_
    exact .refl _
  · split
    · refine (agree_annotationOf agree moves).bind (moves_annotationOf moves) fun annotation => ?_
      exact .refl _
    · exact .refl _

end Agreeing

/-- At the end of the bytes there is no value, whatever stands for the values in it. -/
theorem valueAround_of_ge
    (outside : bytes.size ≤ position)
    (deeper : Decoder EncodedValue) :
    image.valueAround deeper bytes position = .error (.truncated position 1) := by
  have fails : Decoder.u8 bytes position = .error (.truncated position 1) :=
    dif_neg (Nat.not_lt.mpr outside)
  change (Decoder.u8 bytes position >>= _) = _
  rw [fails]
  rfl

/-- Values are not nested as deep as a depth that the bytes left do not reach. -/
theorem agree_iterate
    (deeper : Decoder EncodedValue)
    {depth limit : Nat}
    (enough : bytes.size - start < depth)
    (wide : bytes.size - start ≤ limit) :
    AgreeFrom bytes start (image.valueAround^[depth] deeper) (image.valueWithin limit) := by
  induction depth generalizing start limit with
  | zero => omega
  | succ depth inductionHypothesis =>
      rw [Function.iterate_succ_apply']
      intro position behind inside
      cases limit with
      | zero =>
          rw [valueAround_of_ge (by omega)]
          rfl
      | succ limit =>
          rw [valueWithin_succ]
          by_cases last : bytes.size ≤ start
          · rw [valueAround_of_ge (by omega), valueAround_of_ge (by omega)]
          · exact agree_valueAround (inductionHypothesis (by omega) (by omega))
              (moves_valueWithin limit) position behind inside

/--
Reading goes no deeper than there are bytes left, whatever would read deeper values, and takes at
least one byte and as many as there are parts.
-/
structure ReadsWithin
    (image : Image)
    (reading : Decoder EncodedValue → Decoder α)
    (decoder : Decoder α)
    (nodes : α → Nat) : Prop where
  ends :
    ∀ bytes position depth deeper,
      position ≤ bytes.size →
        bytes.size - position < depth →
          reading (image.valueAround^[depth] deeper) bytes position = decoder bytes position
  moves :
    ∀ bytes position value after,
      position ≤ bytes.size →
        decoder bytes position = .ok (value, after) →
          position < after ∧ nodes value ≤ after - position ∧ after ≤ bytes.size

/-- A value is read no deeper than there are bytes left. -/
theorem value_readsWithin (image : Image) :
    image.ReadsWithin id image.value EncodedValue.nodes where
  ends bytes position depth deeper inside enough :=
    agree_iterate deeper enough (Nat.le_refl _) position (Nat.le_refl _) inside
  moves := by
    intro bytes position value after inside read
    obtain ⟨forwards, within⟩ :=
      moves_value.forwards position value after (Nat.le_refl _) inside read
    have positive := value.nodes_pos
    omega

/-- A value is the same for every limit that the bytes left do not exceed. -/
theorem agree_value
    {limit : Nat}
    (wide : bytes.size - start ≤ limit) :
    AgreeFrom bytes start (image.valueWithin limit) image.value := by
  intro position behind inside
  calc image.valueWithin limit bytes position
      = (image.valueAround^[bytes.size - position + 1] image.value) bytes position :=
        (agree_iterate image.value (Nat.lt_succ_self _) (by omega) position (Nat.le_refl _)
          inside).symm
    _ = image.value bytes position :=
        image.value_readsWithin.ends bytes position _ _ inside (Nat.lt_succ_self _)

/-- The values of an array are read no deeper than there are bytes left. -/
theorem values_readsWithin (image : Image) :
    image.ReadsWithin valuesOf image.values EncodedValue.nodesOfValues where
  ends bytes position depth deeper inside enough :=
    agree_valuesOf (agree_iterate deeper enough (Nat.le_refl _)) (moves_valueWithin _) position
      (Nat.le_refl _) inside
  moves := by
    intro bytes position values after inside read
    obtain ⟨forwards, within⟩ := (moves_valuesOf (moves_valueWithin _)).forwards position values
      after (Nat.le_refl _) inside read
    omega

/-- An annotation is read no deeper than there are bytes left. -/
theorem annotationParts_readsWithin (image : Image) :
    image.ReadsWithin image.annotationOf image.annotationParts
      fun parts => EncodedValue.nodesOfElements parts.2 where
  ends bytes position depth deeper inside enough :=
    agree_annotationOf (agree_iterate deeper enough (Nat.le_refl _)) (moves_valueWithin _) position
      (Nat.le_refl _) inside
  moves := by
    intro bytes position parts after inside read
    obtain ⟨forwards, within⟩ := (moves_annotationOf (moves_valueWithin _)).forwards position parts
      after (Nat.le_refl _) inside read
    omega

/-! Counts that the bytes left cannot hold. -/

/--
More items are claimed than bytes are left: reading fails within as many rounds as there are bytes.
-/
structure RefusesClaims (image : Image) : Prop where
  values :
    ∀ bytes position count after,
      position ≤ bytes.size →
        Decoder.uleb128 bytes position = .ok (count, after) →
          bytes.size - after < count →
            ∃ error,
              image.values bytes position = .error error
                ∧ times (bytes.size - after + 1) image.value bytes after = .error error
  elements :
    ∀ bytes position annotationType count after,
      position ≤ bytes.size →
        image.annotationHead bytes position = .ok ((annotationType, count), after) →
          bytes.size - after < count →
            ∃ error,
              image.annotationParts bytes position = .error error
                ∧ times (bytes.size - after + 1) (elementOf image image.value) bytes after
                  = .error error

/-- Items that are claimed beyond the bytes left fail, and as many as there are bytes fail alike. -/
theorem times_of_claimed
    {first second : Decoder α}
    {amount : α → Nat}
    {count : Nat}
    (agree : AgreeFrom bytes position first second)
    (moves : Moves bytes position Error.IsReported second amount)
    (positive : ∀ value, 1 ≤ amount value)
    (inside : position ≤ bytes.size)
    (claimed : bytes.size - position < count) :
    ∃ error,
      times count first bytes position = .error error
        ∧ times (bytes.size - position + 1) second bytes position = .error error := by
  obtain ⟨error, fails⟩ :=
    Decoder.times_fails_of_claimed moves positive (Nat.le_refl _) inside claimed
  refine ⟨error, ?_, ?_⟩
  · rw [agree.times moves count position (Nat.le_refl _) inside, fails]
  · rw [← fails]
    exact Decoder.times_eq_of_claimed moves positive (Nat.le_refl _) inside (Nat.lt_succ_self _)
      claimed

/-- A claim of more items than bytes are left is refused for every image. -/
theorem refusesClaims (image : Image) : image.RefusesClaims where
  values := by
    intro bytes position count after inside read claimed
    obtain ⟨forwards, within⟩ :=
      moves_uleb128.forwards position count after (Nat.le_refl _) inside read
    obtain ⟨error, fails, failsSoon⟩ := times_of_claimed
      (agree_value (by omega : bytes.size - after ≤ bytes.size - position)) moves_value
      EncodedValue.nodes_pos within claimed
    refine ⟨error, ?_, failsSoon⟩
    change valuesOf (image.valueWithin (bytes.size - position)) bytes position = _
    rw [valuesOf, Decoder.bind_eq_of_ok read]
    exact fails
  elements := by
    intro bytes position annotationType count after inside read claimed
    obtain ⟨forwards, within⟩ :=
      moves_annotationHead.forwards position _ after (Nat.le_refl _) inside read
    have agree : AgreeFrom bytes after
        (elementOf image (image.valueWithin (bytes.size - position)))
        (elementOf image image.value) :=
      agree_elementOf (agree_value (by omega)) moves_value
    obtain ⟨error, fails, failsSoon⟩ := times_of_claimed agree (moves_elementOf moves_value)
      (fun _ => Nat.le_add_right 1 _) within claimed
    refine ⟨error, ?_, failsSoon⟩
    change image.annotationOf (image.valueWithin (bytes.size - position)) bytes position = _
    rw [annotationOf_eq, Decoder.bind_eq_of_ok read]
    exact Decoder.bind_eq_error fails

/-- Whatever the bytes are, operations stay inside them and values are read to an end. -/
theorem readsArbitraryBytes (image : Image) :
    (∀ (α : Type) (operation : Decoder.Operation α), operation.decoder.StaysInside)
      ∧ image.ReadsWithin id image.value EncodedValue.nodes
      ∧ image.ReadsWithin valuesOf image.values EncodedValue.nodesOfValues
      ∧ image.ReadsWithin image.annotationOf image.annotationParts
          (fun parts => EncodedValue.nodesOfElements parts.2)
      ∧ image.RefusesClaims :=
  ⟨fun _ operation => operation.staysInside, image.value_readsWithin, image.values_readsWithin,
    image.annotationParts_readsWithin, image.refusesClaims⟩

end Image

end Dex

end DexSurface
