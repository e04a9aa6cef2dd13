import Mathlib.Data.List.Basic
import DexSurface.ClassFile.ConstantPool

namespace DexSurface

namespace ClassFile

/-!
# Consistent constant pools

A pool is consistent when its slots and its index map agree, every constant stands behind its parts,
and wide constants are followed by empty slots.  Appending a constant keeps a pool consistent and
moves nothing, so an index means the same in every later pool.
-/

/-- The indices that a constant refers to. -/
def Constant.parts : Constant → List Index
  | .classRef name => [name]
  | .string text => [text]
  | .nameAndType name descriptor => [name, descriptor]
  | .methodRef owner member => [owner, member]
  | _ => []

/-- A constant that can be asked for, with texts in place of the indices of its parts. -/
inductive Request where
  | utf8 (text : String)
  | integer (value : Int32)
  | float (bits : UInt32)
  | long (value : Int64)
  | double (bits : UInt64)
  | classRef (name : InternalName)
  | string (text : String)
  | nameAndType (name descriptor : String)
  | methodRef (owner : InternalName) (name descriptor : String)
  deriving Repr, DecidableEq

namespace ConstantPool

/-- The text at an index. -/
def utf8? (pool : ConstantPool) (index : Index) : Option String :=
  match pool.get? index with
  | some (.utf8 text) => some text
  | _ => none

/-- The name of the class at an index. -/
def className? (pool : ConstantPool) (index : Index) : Option InternalName :=
  match pool.get? index with
  | some (.classRef name) => pool.utf8? name
  | _ => none

/-- The name and the descriptor at an index. -/
def nameAndType? (pool : ConstantPool) (index : Index) : Option (String × String) :=
  match pool.get? index with
  | some (.nameAndType name descriptor) => do
      return (← pool.utf8? name, ← pool.utf8? descriptor)
  | _ => none

/-- A constant with its parts looked up, which fails if a part is missing or of another kind. -/
def spell? (pool : ConstantPool) : Constant → Option Request
  | .utf8 text => some (.utf8 text)
  | .integer value => some (.integer value)
  | .float bits => some (.float bits)
  | .long value => some (.long value)
  | .double bits => some (.double bits)
  | .classRef name => do return .classRef (← pool.utf8? name)
  | .string text => do return .string (← pool.utf8? text)
  | .nameAndType name descriptor => do
      return .nameAndType (← pool.utf8? name) (← pool.utf8? descriptor)
  | .methodRef owner member => do
      let ownerName ← pool.className? owner
      let (name, descriptor) ← pool.nameAndType? member
      return .methodRef ownerName name descriptor

/-- What stands at an index, with all parts looked up. -/
def request? (pool : ConstantPool) (index : Index) : Option Request :=
  pool.get? index >>= pool.spell?

/-- A constant has the kind of a request, and its parts are the requested ones. -/
def Spells (pool : ConstantPool) (constant : Constant) : Request → Prop
  | .utf8 text => constant = .utf8 text
  | .integer value => constant = .integer value
  | .float bits => constant = .float bits
  | .long value => constant = .long value
  | .double bits => constant = .double bits
  | .classRef name => ∃ part, constant = .classRef part ∧ pool.utf8? part = some name
  | .string text => ∃ part, constant = .string part ∧ pool.utf8? part = some text
  | .nameAndType name descriptor =>
      ∃ namePart descriptorPart,
        constant = .nameAndType namePart descriptorPart
          ∧ pool.utf8? namePart = some name
          ∧ pool.utf8? descriptorPart = some descriptor
  | .methodRef owner name descriptor =>
      ∃ ownerPart memberPart,
        constant = .methodRef ownerPart memberPart
          ∧ pool.className? ownerPart = some owner
          ∧ pool.nameAndType? memberPart = some (name, descriptor)

/-- The slots of a pool are the first ones of another. -/
def IsPartOf (earlier later : ConstantPool) : Prop :=
  earlier.slots.toList <+: later.slots.toList

/-- What every pool satisfies that is filled by requests. -/
structure IsConsistent (pool : ConstantPool) : Prop where
  /-- No constant has index zero. -/
  start : pool.slots[0]? = some none
  inRange :
    ∀ {place : Nat} {constant : Constant},
      pool.slots[place]? = some (some constant) → place ≤ maxIndex
  indexed :
    ∀ {constant : Constant} {index : Index},
      pool.indices[constant]? = some index ↔ pool.get? index = some constant
  spelled :
    ∀ {index : Index} {constant : Constant},
      pool.get? index = some constant → ∃ request, pool.spell? constant = some request
  partsBefore :
    ∀ {index : Index} {constant : Constant},
      pool.get? index = some constant → ∀ part ∈ constant.parts, part < index
  /-- Behind a constant come the empty slots of its width and then the next constant or the end. -/
  spaced :
    ∀ {place : Nat} {constant : Constant},
      pool.slots[place]? = some (some constant) →
        (∀ behind, place < behind → behind < place + constant.width →
            pool.slots[behind]? = some none)
          ∧ (pool.nextIndex = place + constant.width
            ∨ ∃ next, pool.slots[place + constant.width]? = some (some next))

variable {earlier middle later pool : ConstantPool} {constant other : Constant} {index : Index}

/-- A pool is part of itself. -/
theorem IsPartOf.refl (pool : ConstantPool) : pool.IsPartOf pool :=
  List.prefix_rfl

/-- A part of a part is a part. -/
theorem IsPartOf.trans (first : earlier.IsPartOf middle) (second : middle.IsPartOf later) :
    earlier.IsPartOf later :=
  List.IsPrefix.trans first second

/-- The next index of a part is not above that of the whole. -/
theorem IsPartOf.nextIndex_le (isPart : earlier.IsPartOf later) :
    earlier.nextIndex ≤ later.nextIndex := by
  have bound := List.IsPrefix.length_le isPart
  rwa [Array.length_toList, Array.length_toList] at bound

/-- A constant stands at an index exactly if the slot of that index holds it. -/
theorem get?_eq_some_iff :
    pool.get? index = some constant ↔ pool.slots[index.toNat]? = some (some constant) := by
  rw [get?, Option.join_eq_some_iff]

/-- A constant stands below the next index. -/
theorem lt_nextIndex_of_get? (stands : pool.get? index = some constant) :
    index.toNat < pool.nextIndex :=
  (Array.getElem?_eq_some_iff.mp (get?_eq_some_iff.mp stands)).1

/-! What stands at an index stands there in every later pool. -/

/-- A constant of a part stands at the same index in the whole. -/
theorem get?_of_isPart
    (isPart : earlier.IsPartOf later)
    (stands : earlier.get? index = some constant) :
    later.get? index = some constant := by
  rw [get?_eq_some_iff, ← Array.getElem?_toList] at stands ⊢
  obtain ⟨more, together⟩ := isPart
  rw [← together, List.getElem?_append_left (List.getElem?_eq_some_iff.mp stands).1]
  exact stands

/-- A text is read at an index exactly if a text constant stands there. -/
theorem utf8?_eq_some_iff {text : String} :
    pool.utf8? index = some text ↔ pool.get? index = some (.utf8 text) := by
  rw [utf8?]
  split
  · next found =>
      rw [found]
      simp
  · next other =>
      simp only [reduceCtorEq, false_iff]
      exact other text

/-- A class is read at an index exactly if a class constant stands there whose name is read. -/
theorem className?_eq_some_iff {name : InternalName} :
    pool.className? index = some name
      ↔ ∃ nameIndex,
          pool.get? index = some (.classRef nameIndex) ∧ pool.utf8? nameIndex = some name := by
  rw [className?]
  split
  · next found =>
      rw [found]
      simp
  · next other =>
      simp only [reduceCtorEq, false_iff]
      rintro ⟨nameIndex, found, -⟩
      exact other nameIndex found

/-- A name with a type is read exactly where a constant of both stands and both parts are read. -/
theorem nameAndType?_eq_some_iff {name descriptor : String} :
    pool.nameAndType? index = some (name, descriptor)
      ↔ ∃ nameIndex descriptorIndex,
          pool.get? index = some (.nameAndType nameIndex descriptorIndex)
            ∧ pool.utf8? nameIndex = some name
            ∧ pool.utf8? descriptorIndex = some descriptor := by
  rw [nameAndType?]
  split
  · next found =>
      rw [found]
      simp [Option.bind_eq_some_iff, and_assoc]
  · next other =>
      simp only [reduceCtorEq, false_iff]
      rintro ⟨nameIndex, descriptorIndex, found, -⟩
      exact other nameIndex descriptorIndex found

/-- A text of a part is read at the same index in the whole. -/
theorem utf8?_of_isPart
    (isPart : earlier.IsPartOf later)
    {text : String}
    (stands : earlier.utf8? index = some text) :
    later.utf8? index = some text :=
  utf8?_eq_some_iff.mpr (get?_of_isPart isPart (utf8?_eq_some_iff.mp stands))

/-- A class of a part is read at the same index in the whole. -/
theorem className?_of_isPart
    (isPart : earlier.IsPartOf later)
    {name : InternalName}
    (stands : earlier.className? index = some name) :
    later.className? index = some name := by
  obtain ⟨nameIndex, found, named⟩ := className?_eq_some_iff.mp stands
  exact className?_eq_some_iff.mpr
    ⟨nameIndex, get?_of_isPart isPart found, utf8?_of_isPart isPart named⟩

/-- A name with a type of a part is read at the same index in the whole. -/
theorem nameAndType?_of_isPart
    (isPart : earlier.IsPartOf later)
    {name descriptor : String}
    (stands : earlier.nameAndType? index = some (name, descriptor)) :
    later.nameAndType? index = some (name, descriptor) := by
  obtain ⟨nameIndex, descriptorIndex, found, named, described⟩ :=
    nameAndType?_eq_some_iff.mp stands
  exact nameAndType?_eq_some_iff.mpr
    ⟨nameIndex, descriptorIndex, get?_of_isPart isPart found, utf8?_of_isPart isPart named,
      utf8?_of_isPart isPart described⟩

/-- A constant is spelled as a request exactly if its kind and its parts are the requested ones. -/
theorem spell?_eq_some_iff {request : Request} :
    pool.spell? constant = some request ↔ pool.Spells constant request := by
  cases constant <;> cases request <;>
    simp [spell?, Spells, Option.bind_eq_some_iff, and_assoc]

/-- A constant spelled in a part is spelled alike in the whole. -/
theorem spell?_of_isPart
    (isPart : earlier.IsPartOf later)
    {request : Request}
    (spelled : earlier.spell? constant = some request) :
    later.spell? constant = some request := by
  rw [spell?_eq_some_iff] at spelled ⊢
  cases request with
  | utf8 | integer | float | long | double => exact spelled
  | classRef name =>
      obtain ⟨part, sameConstant, named⟩ := spelled
      exact ⟨part, sameConstant, utf8?_of_isPart isPart named⟩
  | string text =>
      obtain ⟨part, sameConstant, found⟩ := spelled
      exact ⟨part, sameConstant, utf8?_of_isPart isPart found⟩
  | nameAndType name descriptor =>
      obtain ⟨namePart, descriptorPart, sameConstant, named, described⟩ := spelled
      exact ⟨namePart, descriptorPart, sameConstant, utf8?_of_isPart isPart named,
        utf8?_of_isPart isPart described⟩
  | methodRef owner name descriptor =>
      obtain ⟨ownerPart, memberPart, sameConstant, owned, described⟩ := spelled
      exact ⟨ownerPart, memberPart, sameConstant, className?_of_isPart isPart owned,
        nameAndType?_of_isPart isPart described⟩

/-- What stands at an index is spelled in the same way in every later pool. -/
theorem request?_of_isPart
    (isPart : earlier.IsPartOf later)
    {request : Request}
    (stands : earlier.request? index = some request) :
    later.request? index = some request := by
  obtain ⟨constant, found, spelled⟩ := Option.bind_eq_some_iff.mp stands
  exact Option.bind_eq_some_iff.mpr
    ⟨constant, get?_of_isPart isPart found, spell?_of_isPart isPart spelled⟩

/-- A text stands below the next index. -/
theorem lt_nextIndex_of_utf8?
    {text : String}
    (found : pool.utf8? index = some text) :
    index.toNat < pool.nextIndex :=
  lt_nextIndex_of_get? (utf8?_eq_some_iff.mp found)

/-- The parts of a constant that can be spelled stand in the pool. -/
theorem part_lt_nextIndex
    {request : Request}
    (spelled : pool.spell? constant = some request) :
    ∀ part ∈ constant.parts, part.toNat < pool.nextIndex := by
  rw [spell?_eq_some_iff] at spelled
  intro part member
  cases request with
  | utf8 | integer | float | long | double =>
      rw [spelled] at member
      cases member
  | classRef name =>
      obtain ⟨namePart, rfl, named⟩ := spelled
      rw [List.mem_singleton.mp member]
      exact lt_nextIndex_of_utf8? named
  | string text =>
      obtain ⟨textPart, rfl, found⟩ := spelled
      rw [List.mem_singleton.mp member]
      exact lt_nextIndex_of_utf8? found
  | nameAndType name descriptor =>
      obtain ⟨namePart, descriptorPart, rfl, named, described⟩ := spelled
      rcases List.mem_pair.mp member with rfl | rfl
      · exact lt_nextIndex_of_utf8? named
      · exact lt_nextIndex_of_utf8? described
  | methodRef owner name descriptor =>
      obtain ⟨ownerPart, memberPart, rfl, owned, described⟩ := spelled
      rcases List.mem_pair.mp member with rfl | rfl
      · obtain ⟨_, found, -⟩ := className?_eq_some_iff.mp owned
        exact lt_nextIndex_of_get? found
      · obtain ⟨_, _, found, -⟩ := nameAndType?_eq_some_iff.mp described
        exact lt_nextIndex_of_get? found

/-! Appending a constant. -/

/-- A pushed constant takes the next slot and leaves the rest of its width empty. -/
theorem slots_push (pool : ConstantPool) (constant : Constant) :
    (pool.push constant).slots.toList =
      pool.slots.toList ++ some constant :: List.replicate (constant.width - 1) none := by
  simp [push]

/-- A pool is part of what it becomes when a constant is pushed. -/
theorem isPartOf_push (pool : ConstantPool) (constant : Constant) :
    pool.IsPartOf (pool.push constant) := by
  rw [IsPartOf, slots_push]
  exact List.prefix_append _ _

/-- A constant takes at least one index. -/
theorem width_pos (constant : Constant) : 0 < constant.width := by
  cases constant <;> simp [Constant.width]

/-- Pushing a constant raises the next index by the width of the constant. -/
theorem nextIndex_push (pool : ConstantPool) (constant : Constant) :
    (pool.push constant).nextIndex = pool.nextIndex + constant.width := by
  have positive := width_pos constant
  rw [nextIndex, ← Array.length_toList, slots_push, List.length_append, List.length_cons,
    List.length_replicate, Array.length_toList, nextIndex]
  omega

/-- The only new constant of a pool stands at what was the next index. -/
theorem slot_push_eq_some_iff {place : Nat} :
    (pool.push constant).slots[place]? = some (some other)
      ↔ pool.slots[place]? = some (some other)
        ∨ place = pool.nextIndex ∧ other = constant := by
  rw [← Array.getElem?_toList, slots_push, nextIndex, List.getElem?_append,
    Array.length_toList, Array.getElem?_toList]
  split
  · next inside => simp [Nat.ne_of_lt inside]
  · next outside =>
      have absent : pool.slots[place]? = none := Array.getElem?_eq_none (Nat.le_of_not_lt outside)
      rw [absent, List.getElem?_cons, List.getElem?_replicate]
      split
      · simp [eq_comm]
        omega
      · next behind => simp; omega

/-- A place up to the greatest index is kept as an index. -/
theorem toNat_toUInt16 {place : Nat} (fits : place ≤ maxIndex) :
    place.toUInt16.toNat = place := by
  rw [maxIndex] at fits
  simp only [Nat.toUInt16, UInt16.toNat_ofNat']
  omega

/-- After a push there is what stood before, and the new constant at the old next index. -/
theorem get?_push_eq_some_iff (room : pool.nextIndex ≤ maxIndex) :
    (pool.push constant).get? index = some other
      ↔ pool.get? index = some other
        ∨ index = pool.nextIndex.toUInt16 ∧ other = constant := by
  rw [get?_eq_some_iff, slot_push_eq_some_iff, get?_eq_some_iff,
    ← UInt16.toNat_inj, toNat_toUInt16 room]

/--
A new constant whose parts are there can be appended as long as there is an index for it.  A
constant that was the last one is then followed by the new one.
-/
theorem IsConsistent.push
    (consistent : pool.IsConsistent)
    (room : pool.nextIndex ≤ maxIndex)
    (absent : pool.indices[constant]? = none)
    {request : Request}
    (spelled : pool.spell? constant = some request) :
    (pool.push constant).IsConsistent where
  start := by
    have first := consistent.start
    rw [← Array.getElem?_toList] at first ⊢
    rw [slots_push, List.getElem?_append_left (List.getElem?_eq_some_iff.mp first).1]
    exact first
  inRange := by
    intro place other stands
    rcases slot_push_eq_some_iff.mp stands with stood | ⟨rfl, -⟩
    · exact consistent.inRange stood
    · exact room
  indexed := by
    intro other index
    rw [get?_push_eq_some_iff room, ← consistent.indexed]
    change (pool.indices.insert constant pool.nextIndex.toUInt16)[other]? = some index ↔ _
    rw [Std.HashMap.getElem?_insert]
    by_cases same : constant = other
    · subst same
      simp [absent, eq_comm]
    · have differs : other ≠ constant := fun isSame => same isSame.symm
      simp [same, differs]
  spelled := by
    intro index other stands
    rcases (get?_push_eq_some_iff room).mp stands with stood | ⟨-, rfl⟩
    · obtain ⟨known, knownSpelled⟩ := consistent.spelled stood
      exact ⟨known, spell?_of_isPart (isPartOf_push pool constant) knownSpelled⟩
    · exact ⟨request, spell?_of_isPart (isPartOf_push pool other) spelled⟩
  partsBefore := by
    intro index other stands part member
    rcases (get?_push_eq_some_iff room).mp stands with stood | ⟨rfl, rfl⟩
    · exact consistent.partsBefore stood part member
    · rw [UInt16.lt_iff_toNat_lt, toNat_toUInt16 room]
      exact part_lt_nextIndex spelled part member
  spaced := by
    intro place other stands
    rw [nextIndex_push]
    rcases slot_push_eq_some_iff.mp stands with stood | ⟨rfl, rfl⟩
    · obtain ⟨emptyBehind, nextOrEnd⟩ := consistent.spaced stood
      refine ⟨?_, Or.inr ?_⟩
      · intro behind after within
        have stays := emptyBehind behind after within
        rw [← Array.getElem?_toList] at stays ⊢
        rw [slots_push, List.getElem?_append_left (List.getElem?_eq_some_iff.mp stays).1]
        exact stays
      · rcases nextOrEnd with isEnd | ⟨next, followed⟩
        · exact ⟨constant, slot_push_eq_some_iff.mpr (Or.inr ⟨isEnd.symm, rfl⟩)⟩
        · exact ⟨next, slot_push_eq_some_iff.mpr (Or.inl followed)⟩
    · refine ⟨?_, Or.inl rfl⟩
      intro behind after within
      rw [← Array.getElem?_toList, slots_push, List.getElem?_append_right, List.getElem?_cons,
        List.getElem?_replicate, Array.length_toList]
      · rw [nextIndex] at after within
        rw [if_neg (by omega), if_pos (by omega)]
      · rw [Array.length_toList]
        exact Nat.le_of_lt after

/-- No slot of the empty pool holds a constant. -/
theorem slot_empty_ne_some (place : Nat) : empty.slots[place]? ≠ some (some constant) := by
  rcases place with _ | place <;> simp [empty]

/-- No constant stands in the empty pool. -/
theorem get?_empty_ne_some (index : Index) : empty.get? index ≠ some constant := by
  rw [Ne, get?_eq_some_iff]
  exact slot_empty_ne_some _

/-- The empty pool is consistent. -/
theorem isConsistent_empty : empty.IsConsistent where
  start := rfl
  inRange stands := (slot_empty_ne_some _ stands).elim
  indexed := by
    intro constant index
    simp only [get?_empty_ne_some, iff_false]
    simp [empty]
  spelled stands := (get?_empty_ne_some _ stands).elim
  partsBefore stands := (get?_empty_ne_some _ stands).elim
  spaced stands := (slot_empty_ne_some _ stands).elim

/-! In a consistent pool everything stands at one index only. -/

namespace IsConsistent

/-- A consistent pool holds no constant twice. -/
theorem eq_of_get?
    (consistent : pool.IsConsistent)
    {first second : Index}
    (atFirst : pool.get? first = some constant)
    (atSecond : pool.get? second = some constant) :
    first = second := by
  rw [← consistent.indexed] at atFirst atSecond
  rw [atFirst] at atSecond
  exact Option.some.inj atSecond

/-- A consistent pool holds no text twice. -/
theorem eq_of_utf8?
    (consistent : pool.IsConsistent)
    {first second : Index}
    {text : String}
    (atFirst : pool.utf8? first = some text)
    (atSecond : pool.utf8? second = some text) :
    first = second :=
  consistent.eq_of_get? (utf8?_eq_some_iff.mp atFirst) (utf8?_eq_some_iff.mp atSecond)

/-- A consistent pool holds no class twice. -/
theorem eq_of_className?
    (consistent : pool.IsConsistent)
    {first second : Index}
    {name : InternalName}
    (atFirst : pool.className? first = some name)
    (atSecond : pool.className? second = some name) :
    first = second := by
  obtain ⟨firstPart, firstFound, firstNamed⟩ := className?_eq_some_iff.mp atFirst
  obtain ⟨secondPart, secondFound, secondNamed⟩ := className?_eq_some_iff.mp atSecond
  obtain rfl := consistent.eq_of_utf8? firstNamed secondNamed
  exact consistent.eq_of_get? firstFound secondFound

/-- A consistent pool holds no name with a type twice. -/
theorem eq_of_nameAndType?
    (consistent : pool.IsConsistent)
    {first second : Index}
    {described : String × String}
    (atFirst : pool.nameAndType? first = some described)
    (atSecond : pool.nameAndType? second = some described) :
    first = second := by
  obtain ⟨_, _, firstFound, firstNamed, firstDescribed⟩ := nameAndType?_eq_some_iff.mp atFirst
  obtain ⟨_, _, secondFound, secondNamed, secondDescribed⟩ :=
    nameAndType?_eq_some_iff.mp atSecond
  obtain rfl := consistent.eq_of_utf8? firstNamed secondNamed
  obtain rfl := consistent.eq_of_utf8? firstDescribed secondDescribed
  exact consistent.eq_of_get? firstFound secondFound

/-- Constants that are spelled in the same way are the same. -/
theorem eq_of_spell?
    (consistent : pool.IsConsistent)
    {first second : Constant}
    {request : Request}
    (spelledFirst : pool.spell? first = some request)
    (spelledSecond : pool.spell? second = some request) :
    first = second := by
  rw [spell?_eq_some_iff] at spelledFirst spelledSecond
  cases request with
  | utf8 | integer | float | long | double => rw [spelledFirst, spelledSecond]
  | classRef name =>
      obtain ⟨_, rfl, firstNamed⟩ := spelledFirst
      obtain ⟨_, rfl, secondNamed⟩ := spelledSecond
      rw [consistent.eq_of_utf8? firstNamed secondNamed]
  | string text =>
      obtain ⟨_, rfl, firstFound⟩ := spelledFirst
      obtain ⟨_, rfl, secondFound⟩ := spelledSecond
      rw [consistent.eq_of_utf8? firstFound secondFound]
  | nameAndType name descriptor =>
      obtain ⟨_, _, rfl, firstNamed, firstDescribed⟩ := spelledFirst
      obtain ⟨_, _, rfl, secondNamed, secondDescribed⟩ := spelledSecond
      rw [consistent.eq_of_utf8? firstNamed secondNamed,
        consistent.eq_of_utf8? firstDescribed secondDescribed]
  | methodRef owner name descriptor =>
      obtain ⟨_, _, rfl, firstOwned, firstDescribed⟩ := spelledFirst
      obtain ⟨_, _, rfl, secondOwned, secondDescribed⟩ := spelledSecond
      rw [consistent.eq_of_className? firstOwned secondOwned,
        consistent.eq_of_nameAndType? firstDescribed secondDescribed]

/-- A consistent pool answers no request at two indices. -/
theorem eq_of_request?
    (consistent : pool.IsConsistent)
    {first second : Index}
    {request : Request}
    (atFirst : pool.request? first = some request)
    (atSecond : pool.request? second = some request) :
    first = second := by
  obtain ⟨_, firstFound, firstSpelled⟩ := Option.bind_eq_some_iff.mp atFirst
  obtain ⟨_, secondFound, secondSpelled⟩ := Option.bind_eq_some_iff.mp atSecond
  obtain rfl := consistent.eq_of_spell? firstSpelled secondSpelled
  exact consistent.eq_of_get? firstFound secondFound

end IsConsistent

end ConstantPool

end ClassFile

end DexSurface
