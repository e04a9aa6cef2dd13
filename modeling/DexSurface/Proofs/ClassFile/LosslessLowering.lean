import DexSurface.Proofs.ClassFile.LoweringRoom

namespace DexSurface

namespace ClassFile

/-!
# Lowering and reading back

A class that can be lowered is read back from its file up to what a class file does not keep.  The
signatures of local variables stand in a table of their own that names a variable by its name and
slot only.  Two bodies that differ in which of two such variables has the signature are lowered to
the same code, so the signature is read back at the first variable it can belong to.
-/

/-! The variables that signatures are read back at. -/

/-- A variable with a signature has an entry in the table of signatures. -/
theorem LocalVariable.signed?_of_signature
    {name signature : String}
    {descriptor : TypeDescriptor}
    {slot : UInt16} :
    signed? ⟨name, descriptor, some signature, slot⟩ = some ⟨name, signature, slot⟩ :=
  rfl

/-- A variable without a signature has no entry in the table of signatures. -/
theorem LocalVariable.signed?_of_none
    {name : String}
    {descriptor : TypeDescriptor}
    {slot : UInt16} :
    signed? ⟨name, descriptor, none, slot⟩ = none :=
  rfl

/-- The part of a variable that both tables state. -/
def TypedVariable.place (typed : TypedVariable) : String × UInt16 :=
  (typed.name, typed.slot)

/--
Signatures stand in order exactly if the next one is not for an unsigned first variable and those of
the rest stand in order.
-/
theorem areSignedInOrder_cons_iff (first : LocalVariable) (rest : List LocalVariable) :
    AreSignedInOrder (first :: rest)
      ↔ (first.signature = none →
          ∀ next, rest.findSome? LocalVariable.signed? = some next →
            ¬ (next.name = first.name ∧ next.slot = first.slot))
        ∧ AreSignedInOrder rest := by
  constructor
  · intro ordered
    refine ⟨fun plain next => ordered first rest next List.suffix_rfl plain, ?_⟩
    intro plain behind next isSuffix
    exact ordered plain behind next (isSuffix.trans (List.suffix_cons first rest))
  · rintro ⟨firstOrdered, restOrdered⟩ plain behind next isSuffix
    rcases List.suffix_cons_iff.mp isSuffix with whole | inRest
    · obtain ⟨rfl, rfl⟩ := List.cons.inj whole
      exact fun unsigned => firstOrdered unsigned next
    · exact restOrdered plain behind next inRest

/--
Reading both tables gives the variables back exactly if their signatures stand in order: a variable
keeps no signature exactly if the next one cannot belong to it.
-/
theorem assignSignatures_eq_self_iff (locals : List LocalVariable) :
    assignSignatures (locals.map LocalVariable.described)
        (locals.filterMap LocalVariable.signed?) = locals
      ↔ AreSignedInOrder locals := by
  induction locals with
  | nil => simp [assignSignatures, AreSignedInOrder]
  | cons first rest inductionHypothesis =>
      rw [areSignedInOrder_cons_iff, ← inductionHypothesis, List.map_cons]
      obtain ⟨name, descriptor, signature?, slot⟩ := first
      cases signature? with
      | some signature =>
          rw [List.filterMap_cons_some LocalVariable.signed?_of_signature]
          simp [assignSignatures, LocalVariable.described]
      | none =>
          rw [List.filterMap_cons_none LocalVariable.signed?_of_none, ← List.head?_filterMap]
          cases rest.filterMap LocalVariable.signed? with
          | nil => simp [assignSignatures, LocalVariable.described]
          | cons next others =>
              rw [assignSignatures]
              split
              · next taken =>
                  have same : next.name = name ∧ next.slot = slot := taken
                  simp [same]
              · next left =>
                  have other : ¬ (next.name = name ∧ next.slot = slot) := left
                  simp [LocalVariable.described]
                  exact fun _ sameName sameSlot => other ⟨sameName, sameSlot⟩

/-- Assigning signatures changes no name, descriptor or slot. -/
theorem map_described_assignSignatures (described signed : List TypedVariable) :
    (assignSignatures described signed).map LocalVariable.described = described := by
  induction described, signed using assignSignatures.induct with
  | case1 signed => rfl
  | case2 first rest inductionHypothesis =>
      rw [assignSignatures, List.map_cons, inductionHypothesis]
      rfl
  | case3 first rest next others same inductionHypothesis =>
      rw [assignSignatures, if_pos same, List.map_cons, inductionHypothesis]
      rfl
  | case4 first rest next others differ inductionHypothesis =>
      rw [assignSignatures, if_neg differ, List.map_cons, inductionHypothesis]
      rfl

/--
Each signature finds a variable if the variables can be matched in order at all, since no signature
is kept back for a variable that was skipped.
-/
theorem filterMap_signed_assignSignatures
    {described signed : List TypedVariable}
    (matched :
      (signed.map TypedVariable.place).Sublist (described.map TypedVariable.place)) :
    (assignSignatures described signed).filterMap LocalVariable.signed? = signed := by
  induction described, signed using assignSignatures.induct with
  | case1 signed =>
      have unmatched : signed.map TypedVariable.place = [] := List.sublist_nil.mp matched
      rw [List.map_eq_nil_iff.mp unmatched]
      rfl
  | case2 first rest inductionHypothesis =>
      rw [assignSignatures, List.filterMap_cons_none rfl]
      exact inductionHypothesis (List.nil_sublist _)
  | case3 first rest next others same inductionHypothesis =>
      obtain ⟨name, type, slot⟩ := next
      obtain ⟨rfl, rfl⟩ := same
      rw [assignSignatures, if_pos ⟨rfl, rfl⟩,
        List.filterMap_cons_some LocalVariable.signed?_of_signature,
        inductionHypothesis matched.of_cons_cons]
  | case4 first rest next others differ inductionHypothesis =>
      have elsewhere : next.place ≠ first.place := by
        intro samePlace
        exact differ (Prod.mk.inj samePlace)
      rw [assignSignatures, if_neg differ, List.filterMap_cons_none rfl]
      exact inductionHypothesis (matched.of_cons_of_ne elsewhere)

/-- The entries with signatures name places of the entries with descriptors, in the same order. -/
theorem signed_sublist_described (locals : List LocalVariable) :
    ((locals.filterMap LocalVariable.signed?).map TypedVariable.place).Sublist
      ((locals.map LocalVariable.described).map TypedVariable.place) := by
  induction locals with
  | nil => exact List.Sublist.refl []
  | cons first rest inductionHypothesis =>
      obtain ⟨name, descriptor, signature?, slot⟩ := first
      cases signature? with
      | none =>
          rw [List.filterMap_cons_none rfl]
          exact inductionHypothesis.cons _
      | some signature =>
          rw [List.filterMap_cons_some LocalVariable.signed?_of_signature]
          exact inductionHypothesis.cons_cons (name, slot)

/-! Reading back gives another class with the same file. -/

namespace Lowering

/-- An entry about a variable with its type. -/
def typedEntry (length : UInt16) (typed : TypedVariable) : Interning VariableEntry := do
  let name ← Interning.utf8 typed.name
  let type ← Interning.utf8 typed.type
  return { start := 0, length, name, type, slot := typed.slot }

/-- The entries with descriptors are those of the described variables. -/
theorem mapM_described (length : UInt16) (locals : List LocalVariable) :
    (locals.mapM fun localVariable =>
        variableEntry length localVariable localVariable.descriptor)
      = (locals.map LocalVariable.described).mapM (typedEntry length) := by
  rw [List.mapM_map]
  rfl

/-- The entries with signatures are those of the signed variables. -/
theorem filterMapM_signed (length : UInt16) (locals : List LocalVariable) :
    (locals.filterMapM fun localVariable =>
        match localVariable.signature with
        | none => pure none
        | some signature => some <$> variableEntry length localVariable signature)
      = (locals.filterMap LocalVariable.signed?).mapM (typedEntry length) := by
  induction locals with
  | nil => rfl
  | cons first rest inductionHypothesis =>
      obtain ⟨name, descriptor, signature?, slot⟩ := first
      rw [List.filterMapM_cons, inductionHypothesis]
      cases signature? with
      | none =>
          rw [List.filterMap_cons_none rfl]
          simp
      | some signature =>
          rw [List.filterMap_cons_some LocalVariable.signed?_of_signature, List.mapM_cons]
          simp [typedEntry, variableEntry]

/-- The code of a body depends on its variables through the two tables only. -/
theorem code_eq (body : Body) :
    code body = (do
      let operations ← body.instructions.mapM instruction
      let length ← codeLength operations
      let entries ← (body.localVariables.map LocalVariable.described).mapM (typedEntry length)
      let descriptors ← variableTable .descriptors entries
      let typed ← (body.localVariables.filterMap LocalVariable.signed?).mapM (typedEntry length)
      let signatures ← variableTable .signatures typed
      attributeOf (.code body.maxStack body.maxLocals operations (descriptors ++ signatures))) := by
  refine bind_congr fun operations => ?_
  refine bind_congr fun length => ?_
  rewrite [← mapM_described, ← filterMapM_signed]
  rfl

/-- A body is lowered alike with its signatures put in order. -/
theorem code_signedInOrder (body : Body) : code body.signedInOrder = code body := by
  have described :
      body.signedInOrder.localVariables.map LocalVariable.described
        = body.localVariables.map LocalVariable.described :=
    map_described_assignSignatures _ _
  have signed :
      body.signedInOrder.localVariables.filterMap LocalVariable.signed?
        = body.localVariables.filterMap LocalVariable.signed? :=
    filterMap_signed_assignSignatures (signed_sublist_described body.localVariables)
  rw [code_eq, code_eq, described, signed]
  rfl

/-- A method is lowered alike with the signatures of its body put in order. -/
theorem method_signedInOrder (tree : MethodTree) : method tree.signedInOrder = method tree := by
  have bodies : bodyAttribute tree.signedInOrder.body = bodyAttribute tree.body := by
    rw [MethodTree.signedInOrder]
    cases tree.body with
    | none => rfl
    | some body => rw [Option.map_some, bodyAttribute, code_signedInOrder, bodyAttribute]
  rw [method_eq, method_eq, bodies]
  rfl

end Lowering

/-- A class is lowered alike with the signatures of its bodies put in order. -/
theorem ClassTree.lower_signedInOrder (tree : ClassTree) :
    tree.signedInOrder.lower = tree.lower := by
  have methods :
      tree.signedInOrder.methods.mapM Lowering.method = tree.methods.mapM Lowering.method := by
    rw [signedInOrder, List.mapM_map, Function.comp_def]
    simp only [Lowering.method_signedInOrder]
  have same : Lowering.classTree tree.signedInOrder = Lowering.classTree tree := by
    rw [Lowering.classTree, methods]
    rfl
  rw [lower, same, lower]

/-- Putting signatures in order keeps a body exactly if they stand in order. -/
theorem Body.signedInOrder_eq_self_iff (body : Body) :
    body.signedInOrder = body ↔ AreSignedInOrder body.localVariables := by
  rw [← assignSignatures_eq_self_iff]
  constructor
  · exact congrArg Body.localVariables
  · intro restored
    rw [signedInOrder, restored]

/-- Putting signatures in order keeps a method exactly if those of its body stand in order. -/
theorem MethodTree.signedInOrder_eq_self_iff (method : MethodTree) :
    method.signedInOrder = method ↔ ∀ body ∈ method.body, AreSignedInOrder body.localVariables := by
  simp only [← Body.signedInOrder_eq_self_iff]
  constructor
  · intro restored body present
    have bodies := congrArg MethodTree.body restored
    rw [signedInOrder, present] at bodies
    exact Option.some.inj bodies
  · intro restored
    have bodies : method.body.map Body.signedInOrder = method.body := by
      cases present : method.body with
      | none => rfl
      | some body => rw [Option.map_some, restored body present]
    rw [signedInOrder, bodies]

/-- Putting signatures in order keeps a class exactly if those of all its bodies stand in order. -/
theorem ClassTree.signedInOrder_eq_self_iff (tree : ClassTree) :
    tree.signedInOrder = tree
      ↔ ∀ method ∈ tree.methods, ∀ body ∈ method.body, AreSignedInOrder body.localVariables := by
  simp only [← MethodTree.signedInOrder_eq_self_iff]
  have memberwise :
      tree.methods.map MethodTree.signedInOrder = tree.methods
        ↔ ∀ method ∈ tree.methods, method.signedInOrder = method := by
    conv_lhs => rw [← List.map_id tree.methods, List.map_map]
    exact List.map_inj_left
  rw [← memberwise]
  constructor
  · exact congrArg ClassTree.methods
  · intro restored
    rw [signedInOrder, restored]

/--
A lowered class is read back from its file as far as a class file keeps it.  Reading fails on an
index without a constant of the required kind, so every index of the file has one.
-/
theorem ClassTree.read_of_lower
    {tree : ClassTree}
    {file : File}
    (lowered : tree.lower = .ok file) :
    file.read? = some tree.stored.signedInOrder
      ∧ (file.read? = some tree.stored
        ↔ ∀ method ∈ tree.methods, ∀ body ∈ method.body,
            AreSignedInOrder body.localVariables) := by
  have whole := read?_eq_of_lower lowered
  refine ⟨whole, ?_⟩
  rw [whole, Option.some.injEq, signedInOrder_eq_self_iff]
  simp [stored, MethodTree.stored]

/-- A class with parts of every kind, among them some that a class file keeps only in part. -/
def boxTree : ClassTree where
  version := 61
  flags := AccessFlags.publicBit ||| AccessFlags.recordBit ||| AccessFlags.deprecatedBit
  name := "pkg/Box"
  signature := some "<T:Ljava/lang/Object;>Ljava/lang/Object;"
  superclass := some "java/lang/Object"
  interfaces := ["pkg/Shape"]
  sourceFile := some "Box.java"
  enclosingMethod := some ⟨"pkg/Outer", some "make", none⟩
  innerClasses := [⟨"pkg/Box", none, some "Box", 0x20001⟩]
  permittedSubclasses := ["pkg/Crate"]
  annotations := {
    visible := [⟨"Lpkg/Mark;", [("kind", .enum "Lpkg/Kind;" "ROUND"),
      ("inner", .nested "Lpkg/Mark;" [("sizes", .array [.int 1, .float 0x7fc00001])])]⟩]
    invisible := []
  }
  fields := [{
    flags := 0x80019
    name := "EDGE"
    descriptor := "D"
    signature := none
    value := some (.double 0x3ff0000000000000)
    annotations := .empty
  }]
  methods := [{
    MethodTree.bare AccessFlags.publicBit "fill" "(I)V" with
    exceptions := ["java/io/IOException"]
    parameters := [⟨"", 0x10010⟩]
    visibleParameters := [[]]
    invisibleParameters := [[⟨"Lpkg/Mark;", []⟩]]
    body := some {
      maxStack := 3
      maxLocals := 2
      instructions := [.new "pkg/Stub", .simple .dup, .loadString "Stub!",
        .invokeSpecial "pkg/Stub" "<init>" "(Ljava/lang/String;)V", .simple .athrow]
      localVariables := [⟨"this", "Lpkg/Box;", some "Lpkg/Box<TT;>;", 0⟩, ⟨"count", "I", none, 1⟩]
    }
  }]

/-- What is read back of the class. -/
def boxTreeRead : ClassTree :=
  { boxTree with
    flags := AccessFlags.publicBit ||| AccessFlags.deprecatedBit
    enclosingMethod := some ⟨"pkg/Outer", none, none⟩
    innerClasses := [⟨"pkg/Box", none, some "Box", 0x0001⟩]
    fields := boxTree.fields.map fun field => { field with flags := 0x0019 }
    methods := boxTree.methods.map fun method =>
      { method with parameters := [⟨"", 0x0010⟩], visibleParameters := [] } }

/-- The class with parts of every kind is lowered, and its file is read back as expected. -/
theorem boxTree_read_of_lower :
    ∃ file, boxTree.lower = .ok file ∧ file.read? = some boxTreeRead := by
  have short : ∀ method ∈ boxTree.methods, method.IsShort := by
    simp only [boxTree, List.mem_singleton]
    rintro method rfl
    exact ⟨by rintro body ⟨rfl⟩; decide, by decide, by decide⟩
  have typed :
      ∀ field ∈ boxTree.fields, Lowering.checkFieldType field.descriptor.toList = .ok () := by
    simp only [boxTree, List.mem_singleton]
    rintro field rfl
    rfl
  obtain ⟨file, lowered⟩ := ClassTree.exists_lower (by decide) typed short (by decide)
  have stored : boxTree.stored.signedInOrder = boxTreeRead := by
    rfl
  exact ⟨file, lowered, stored ▸ (ClassTree.read_of_lower lowered).1⟩

/-- A class with a body in which only the second of two variables of one name has a signature. -/
def twiceNamed : ClassTree :=
  { ClassTree.bare 52 AccessFlags.publicBit "pkg/Twice" with
    methods := [{ MethodTree.bare AccessFlags.publicBit "run" "()V" with
      body := some {
        maxStack := 0
        maxLocals := 1
        instructions := [.simple .returnVoid]
        localVariables := [⟨"item", "Ljava/lang/Object;", none, 0⟩,
          ⟨"item", "Ljava/util/List;", some "Ljava/util/List<TT;>;", 0⟩]
      } }] }

/--
No way of reading class files gives every lowered class back: the class with the signature at the
other variable has the same file.
-/
theorem ClassTree.not_exists_read :
    ¬ ∃ read : File → Option ClassTree,
        ∀ (tree : ClassTree) (file : File),
          tree.lower = .ok file → read file = some tree.stored := by
  rintro ⟨read, reads⟩
  have short : ∀ method ∈ twiceNamed.methods, method.IsShort := by
    simp only [twiceNamed, List.mem_singleton]
    rintro method rfl
    exact ⟨by rintro body ⟨rfl⟩; decide, by decide, by decide⟩
  obtain ⟨file, lowered⟩ :=
    ClassTree.exists_lower (by decide) (by rintro field ⟨⟩) short (by decide)
  have swapped := reads twiceNamed.signedInOrder file ((lower_signedInOrder _).trans lowered)
  rw [reads twiceNamed file lowered, Option.some.injEq] at swapped
  have sameBodies := congrArg (fun tree => tree.methods.map MethodTree.body) swapped
  exact absurd sameBodies (by decide)

end ClassFile

end DexSurface
