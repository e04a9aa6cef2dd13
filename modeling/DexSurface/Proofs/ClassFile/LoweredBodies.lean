import DexSurface.Proofs.ClassFile.LoweredParts

namespace DexSurface

namespace ClassFile

/-!
# Lowered bodies

Instructions are lowered one by one.  A string load is longer if the index of its constant, which
depends on all constants before it, takes two bytes.  The entries about local variables are made
before the instructions become bytes, from the sizes that the instructions will have, and all of
them span the whole body.
-/

open Interning (Enters enters_pure enters_throw)

/-! What a body is lowered to. -/

/-- The instructions and the variable tables that a body is lowered to. -/
structure LoweredBody where
  operations : List Operation
  tables : List VariableTable

/-- The entries of the tables of one kind. -/
def LoweredBody.entries (lowered : LoweredBody) (kind : VariableTableKind) : List VariableEntry :=
  (lowered.tables.filter fun table => table.kind = kind).flatMap VariableTable.entries

/-- The lowered form of an instruction; a string load is short exactly if its index fits a byte. -/
inductive IsLoweredTo (pool : ConstantPool) : Instruction → Operation → Prop where
  | simple (instruction : SimpleInstruction) :
      IsLoweredTo pool (.simple instruction) (.simple instruction)
  | new {name : InternalName} {index : Index} :
      pool.className? index = some name →
      IsLoweredTo pool (.new name) (.new index)
  | loadShort {text : String} {index : UInt8} :
      pool.stringText? index.toUInt16 = some text →
      IsLoweredTo pool (.loadString text) (.loadShort index)
  | loadWide {text : String} {index : Index} :
      0xff < index →
      pool.stringText? index = some text →
      IsLoweredTo pool (.loadString text) (.loadWide index)
  | invokeSpecial {owner : InternalName} {name descriptor : String} {index : Index} :
      pool.request? index = some (.methodRef owner name descriptor) →
      IsLoweredTo pool (.invokeSpecial owner name descriptor) (.invokeSpecial index)

/-- Entries stand in one table under the name of its kind; there is no table without entries. -/
inductive StatesEntries (pool : ConstantPool) (kind : VariableTableKind) :
    List VariableEntry → List VariableTable → Prop where
  | none : StatesEntries pool kind [] []
  | table {name : Index} {entries : List VariableEntry} :
      entries ≠ [] →
      pool.utf8? name = some kind.attributeName →
      StatesEntries pool kind entries [{ name, kind, entries }]

/--
The instructions of a body are lowered one by one, and each of its variables is read back from
entries that span them, first with its descriptor and then with its signature, if it has one.
-/
structure LowersBody (pool : ConstantPool) (body : Body) (lowered : LoweredBody) : Prop where
  operations : List.Forall₂ (IsLoweredTo pool) body.instructions lowered.operations
  size_le : total Operation.size lowered.operations ≤ 0xffff
  described :
    (lowered.entries .descriptors).mapM
        (VariableEntry.read? pool (total Operation.size lowered.operations))
      = some (body.localVariables.map LocalVariable.described)
  signed :
    (lowered.entries .signatures).mapM
        (VariableEntry.read? pool (total Operation.size lowered.operations))
      = some (body.localVariables.filterMap LocalVariable.signed?)
  tables :
    ∃ descriptors signatures,
      lowered.tables = descriptors ++ signatures
        ∧ StatesEntries pool .descriptors (lowered.entries .descriptors) descriptors
        ∧ StatesEntries pool .signatures (lowered.entries .signatures) signatures

/-- The attributes for the body of a method: one for its code, or none if it has no body. -/
inductive StatesBody (pool : ConstantPool) : Option Body → List Attribute → Prop where
  | none : StatesBody pool none []
  | code {body : Body} {lowered : LoweredBody} {item : Attribute} :
      item.content? pool
          = some (.code body.maxStack body.maxLocals lowered.operations lowered.tables) →
      LowersBody pool body lowered →
      StatesBody pool (some body) [item]

variable {pool : ConstantPool}

/-! Reading instructions and tables back. -/

/-- A lowered instruction is read back as the instruction. -/
theorem IsLoweredTo.read?_eq
    {operand : Instruction}
    {operation : Operation}
    (lowered : IsLoweredTo pool operand operation) : operation.read? pool = some operand := by
  cases lowered with
  | simple => rfl
  | new named => simp [Operation.read?, named]
  | loadShort found => simp [Operation.read?, found]
  | loadWide _ found => simp [Operation.read?, found]
  | invokeSpecial found => simp [Operation.read?, found]

/-- An empty table is left out, which is the same as a table without entries. -/
theorem StatesEntries.foldlM_eq
    {kind : VariableTableKind}
    {entries : List VariableEntry}
    {tables : List VariableTable}
    {size : Nat}
    {locals : List TypedVariable}
    (states : StatesEntries pool kind entries tables)
    (before : VariableTables)
    (localsRead : entries.mapM (VariableEntry.read? pool size) = some locals)
    (unchanged : before.put kind [] = before) :
    tables.foldlM (VariableTables.add? pool size) before = some (before.put kind locals) := by
  cases states with
  | none =>
      obtain rfl : [] = locals := Option.some.inj localsRead
      simp [unchanged]
  | table _ named => simp [VariableTables.add?, named, localsRead]

/-- The two kinds of entries are told apart. -/
theorem StatesEntries.entries_eq
    {operations : List Operation}
    {described signed : List VariableEntry}
    {descriptors signatures : List VariableTable}
    (statesDescribed : StatesEntries pool .descriptors described descriptors)
    (statesSigned : StatesEntries pool .signatures signed signatures) :
    LoweredBody.entries ⟨operations, descriptors ++ signatures⟩ .descriptors = described
      ∧ LoweredBody.entries ⟨operations, descriptors ++ signatures⟩ .signatures = signed := by
  cases statesDescribed <;> cases statesSigned <;> simp [LoweredBody.entries]

/--
The descriptors and signatures of the variables are read back, whichever tables there are.  The
second table is read on top of what the first one gave.
-/
theorem LowersBody.readBody?_eq
    {body : Body}
    {lowered : LoweredBody}
    (lowers : LowersBody pool body lowered) :
    readBody? pool body.maxStack body.maxLocals lowered.operations lowered.tables
      = some body.signedInOrder := by
  obtain ⟨descriptors, signatures, tables, statesDescribed, statesSigned⟩ := lowers.tables
  have instructionsRead : lowered.operations.mapM (Operation.read? pool) = some body.instructions :=
    mapM_eq_some_iff_forall₂.mpr (lowers.operations.imp fun _ _ => IsLoweredTo.read?_eq).flip
  have first := statesDescribed.foldlM_eq ⟨[], []⟩ lowers.described rfl
  have second :=
    statesSigned.foldlM_eq ⟨body.localVariables.map LocalVariable.described, []⟩ lowers.signed rfl
  simp [readBody?, instructionsRead, tables, first, second, Body.signedInOrder, VariableTables.put]

namespace Lowering

/-- An index that fits a byte survives the passage through a byte. -/
theorem toUInt16_toUInt8 {index : Index} (short : index ≤ 0xff) :
    index.toUInt8.toUInt16 = index := by
  have bound : index.toNat ≤ 0xff := UInt16.le_iff_toNat_le.mp short
  rw [← UInt16.toNat_inj]
  simp
  omega

/-- Lowering an instruction gives its lowered form. -/
theorem enters_instruction (operand : Instruction) :
    Enters (instruction operand) fun pool operation => IsLoweredTo pool operand operation := by
  cases operand with
  | simple operand => exact enters_pure fun _ _ => .simple operand
  | new name =>
      exact (Interning.enters_classRef name).bind fun index => enters_pure fun _ _ => .new
  | loadString text =>
      have textOf {pool : ConstantPool} {index : Index}
          (found : pool.request? index = some (.string text)) :
          pool.stringText? index = some text := by
        rw [ConstantPool.stringText?, found]
      refine (Request.enters_string text).bind fun index => ?_
      split
      · next short =>
          refine enters_pure fun pool _ found => .loadShort ?_
          rw [toUInt16_toUInt8 short, textOf found]
      · next long =>
          exact enters_pure fun pool _ found => .loadWide (UInt16.not_le.mp long) (textOf found)
  | invokeSpecial owner name descriptor =>
      refine (Request.enters_methodRef owner name descriptor).bind fun index => ?_
      exact enters_pure fun _ _ => .invokeSpecial

/-- The length of a body is the sum of the sizes of its instructions. -/
theorem enters_codeLength (operations : List Operation) :
    Enters (codeLength operations) fun _ length =>
      length.toNat = total Operation.size operations := by
  rw [codeLength]
  split
  · next fits =>
      refine enters_pure fun _ _ => ?_
      simp
      omega
  · exact enters_throw _

/--
An entry for a variable is read back with the name, the type and the slot that it was made for.
-/
theorem enters_variableEntry
    (length : UInt16)
    (localVariable : LocalVariable)
    (type : String) :
    Enters (variableEntry length localVariable type) fun pool entry =>
      entry.read? pool length.toNat = some ⟨localVariable.name, type, localVariable.slot⟩ := by
  refine (Interning.enters_utf8 localVariable.name).bind fun name => ?_
  refine (Interning.enters_utf8 type).bind fun index => ?_
  refine enters_pure fun pool _ typed named => ?_
  simp [VariableEntry.read?, typed, named]

/-- Entries are stated in a table of their kind. -/
theorem enters_variableTable (kind : VariableTableKind) (entries : List VariableEntry) :
    Enters (variableTable kind entries) fun pool tables =>
      StatesEntries pool kind entries tables := by
  rw [variableTable]
  split
  · next isEmpty =>
      rw [List.isEmpty_iff.mp isEmpty]
      exact enters_pure fun _ _ => .none
  · next someEntry =>
      refine (Interning.enters_utf8 kind.attributeName).bind fun name => ?_
      refine enters_pure fun pool _ named => .table ?_ named
      exact fun isEmpty => someEntry (List.isEmpty_iff.mpr isEmpty)

/-- The entries with descriptors are read back as the described variables, in their order. -/
theorem enters_describedVariables (length : UInt16) (locals : List LocalVariable) :
    Enters
      (locals.mapM fun localVariable =>
        variableEntry length localVariable localVariable.descriptor)
      fun pool entries =>
        entries.mapM (VariableEntry.read? pool length.toNat)
          = some (locals.map LocalVariable.described) :=
  Interning.enters_mapM
    (fun localVariable => enters_variableEntry length localVariable localVariable.descriptor)
    locals

/-- The entries with signatures are read back as the signed variables, in their order. -/
theorem enters_signedVariables (length : UInt16) (locals : List LocalVariable) :
    Enters
      (locals.filterMapM fun localVariable =>
        match localVariable.signature with
        | none => pure none
        | some signature => some <$> variableEntry length localVariable signature)
      fun pool entries =>
        entries.mapM (VariableEntry.read? pool length.toNat)
          = some (locals.filterMap LocalVariable.signed?) := by
  refine Interning.enters_filterMapM (fun localVariable => ?_) locals
  cases signed : localVariable.signature with
  | none =>
      refine enters_pure fun pool _ => ?_
      simp [LocalVariable.signed?, signed]
  | some signature =>
      dsimp only
      rw [map_eq_pure_bind]
      refine (enters_variableEntry length localVariable signature).bind fun entry => ?_
      refine enters_pure fun pool _ entryRead => ?_
      simp [LocalVariable.signed?, signed, entryRead]

/-- Lowering a body gives the one attribute that states it. -/
theorem enters_code (body : Body) :
    Enters (code body) fun pool item => StatesBody pool (some body) [item] := by
  refine (Interning.enters_forall₂ enters_instruction body.instructions).bind fun operations => ?_
  refine (enters_codeLength operations).bind fun length => ?_
  refine (enters_describedVariables length body.localVariables).bind fun described => ?_
  refine (enters_variableTable .descriptors described).bind fun descriptors => ?_
  refine (enters_signedVariables length body.localVariables).bind fun signed => ?_
  refine (enters_variableTable .signatures signed).bind fun signatures => ?_
  refine (enters_attributeOf _).imp fun pool item _ named => ?_
  intro statesSigned signedRead statesDescribed describedRead whole isLowered
  rw [whole] at signedRead describedRead
  obtain ⟨describedEntries, signedEntries⟩ := statesDescribed.entries_eq statesSigned
  have lowers : LowersBody pool body ⟨operations, descriptors ++ signatures⟩ := by
    constructor
    case operations => exact isLowered
    case size_le =>
      rw [← whole]
      exact Nat.le_of_lt_succ length.toNat_lt
    case described => rw [describedEntries, describedRead]
    case signed => rw [signedEntries, signedRead]
    case tables =>
      rw [describedEntries, signedEntries]
      exact ⟨descriptors, signatures, rfl, statesDescribed, statesSigned⟩
  exact .code named lowers

end Lowering

end ClassFile

end DexSurface
