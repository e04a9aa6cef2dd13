import DexSurface.Proofs.ClassFile.LoweredMembers

namespace DexSurface

namespace ClassFile

/-!
# Reading lowered classes

The attributes of a class are read back like those of its members.  With the members and the
references of the class itself this makes the whole class tree readable from its class file.
-/

open Interning (Enters enters_pure enters_throw)

namespace Lowering

/-! Class attributes. -/

/-- The attribute for the source file is read back as the name of the file. -/
theorem enters_sourceFile (file : Option String) :
    Enters (sourceFile file)
      (StatesPart ClassTree.addAttribute? (fun sourceFile tree => { tree with sourceFile })
        none file) := by
  cases file with
  | none => exact enters_pure fun _ _ => statesPart_nil
  | some file =>
      refine (Interning.enters_utf8 _).bind fun name => ?_
      refine (Interning.enters_utf8 file).bind fun index => ?_
      refine enters_pure fun pool _ found named => statesPart_singleton fun before => ?_
      simp [ClassTree.addAttribute?, Attribute.content?, AttributeContent.attributeName, named,
        found]

/-- The entry for an inner class is read back as what a class file keeps of it. -/
theorem enters_innerClass (inner : InnerClass) :
    Enters (innerClass inner) fun pool entry => entry.read? pool = some inner.stored := by
  refine (Interning.enters_classRef inner.name).bind fun name => ?_
  refine (enters_optionalClass inner.outerName).bind fun outerName => ?_
  refine (enters_optionalUtf8 inner.innerName).bind fun innerName => ?_
  refine enters_pure fun pool _ innerNamed outerNamed named => ?_
  simp only [InnerClassEntry.read?, named, outerNamed, innerNamed, toUInt32_toUInt16]
  rfl

/-- The attribute for inner classes is read back as what a class file keeps of them. -/
theorem enters_innerClasses (classes : List InnerClass) :
    Enters (innerClasses classes)
      (StatesPart ClassTree.addAttribute? (fun innerClasses tree => { tree with innerClasses })
        [] (classes.map InnerClass.stored)) := by
  refine enters_listAttribute (Interning.enters_mapM enters_innerClass classes) ?_ ?_
  · rintro rfl
    rfl
  · intro pool item entries before named entriesRead
    simp [ClassTree.addAttribute?, named, entriesRead]

/-- The index of a full enclosing method; zero when a part of it is absent. -/
def enclosingMember (enclosing : EnclosingMethod) : Interning Index :=
  match enclosing.name, enclosing.descriptor with
  | some name, some descriptor => Interning.nameAndType name descriptor
  | _, _ => return 0

/-- The attribute for an enclosing method enters its member before the name and the owner. -/
theorem enclosingMethod_some (enclosing : EnclosingMethod) :
    enclosingMethod (some enclosing) = do
      let method ← enclosingMember enclosing
      let name ← Interning.utf8 (AttributeContent.enclosingMethod 0 0).attributeName
      let owner ← Interning.classRef enclosing.owner
      return [{ name, content := .enclosingMethod owner method }] := by
  obtain ⟨owner, name, descriptor⟩ := enclosing
  cases name <;> cases descriptor <;> simp [enclosingMethod, enclosingMember]

/-- The member of an enclosing method is read back as what a class file keeps of it. -/
theorem enters_enclosingMember (enclosing : EnclosingMethod) :
    Enters (enclosingMember enclosing) fun pool index =>
      ∃ member?,
        ConstantPool.optional? pool.nameAndType? index = some member?
          ∧ enclosing.stored = ⟨enclosing.owner, member?.map Prod.fst, member?.map Prod.snd⟩ := by
  obtain ⟨owner, name?, descriptor?⟩ := enclosing
  cases name? with
  | none => exact enters_pure fun pool _ => ⟨none, rfl, rfl⟩
  | some name =>
      cases descriptor? with
      | none => exact enters_pure fun pool _ => ⟨none, rfl, rfl⟩
      | some descriptor =>
          refine (Request.enters_nameAndType name descriptor).imp
            fun pool index consistent found => ?_
          refine ⟨some (name, descriptor), ?_, rfl⟩
          exact ConstantPool.optional?_of_ne_zero (consistent.ne_zero found)
            (ConstantPool.request?_eq_nameAndType_iff.mp found)

/-- The attribute for an enclosing method is read back as what a class file keeps of it. -/
theorem enters_enclosingMethod (enclosing : Option EnclosingMethod) :
    Enters (enclosingMethod enclosing)
      (StatesPart ClassTree.addAttribute?
        (fun enclosingMethod tree => { tree with enclosingMethod })
        none (enclosing.map EnclosingMethod.stored)) := by
  cases enclosing with
  | none => exact enters_pure fun _ _ => statesPart_nil
  | some enclosing =>
      rw [enclosingMethod_some]
      refine (enters_enclosingMember enclosing).bind fun method => ?_
      refine (Interning.enters_utf8 _).bind fun name => ?_
      refine (Interning.enters_classRef enclosing.owner).bind fun owner => ?_
      refine enters_pure fun pool _ owned named => ?_
      rintro ⟨member?, memberRead, stored⟩
      refine statesPart_singleton fun before => ?_
      simp [ClassTree.addAttribute?, Attribute.content?, AttributeContent.attributeName, named,
        owned, memberRead, stored]

/-- The attribute for permitted subclasses is read back as their names. -/
theorem enters_permittedSubclasses (names : List InternalName) :
    Enters (permittedSubclasses names)
      (StatesPart ClassTree.addAttribute?
        (fun permittedSubclasses tree => { tree with permittedSubclasses }) [] names) := by
  refine enters_listAttribute (Interning.enters_mapM_self Interning.enters_classRef names) id ?_
  intro pool item entries before named entriesRead
  simp [ClassTree.addAttribute?, named, entriesRead]

/-- A class reads the shared attributes as they are read on their own. -/
theorem readsCommon_class : ReadsCommon ClassTree.addAttribute? ClassTree.withCommon := by
  intro pool before parts next item added
  obtain ⟨content, named, contentAdded⟩ := Option.bind_eq_some_iff.mp added
  cases content <;>
    simp_all [ClassTree.addAttribute?, CommonParts.add?, ClassTree.common, ClassTree.withCommon]

/--
The attributes of a class, read in order into the bare class, give all that its file keeps of them.
-/
theorem enters_classAttributes (tree : ClassTree) :
    Enters (classAttributes tree) fun pool attributes =>
      attributes.foldlM (ClassTree.addAttribute? pool)
          { ClassTree.bare tree.version (entryFlags tree.flags) tree.name with
            superclass := tree.superclass
            interfaces := tree.interfaces
            fields := tree.stored.fields
            methods := tree.stored.signedInOrder.methods }
        = some tree.stored.signedInOrder := by
  refine (enters_sourceFile tree.sourceFile).bind fun source => ?_
  refine (enters_innerClasses tree.innerClasses).bind fun inner => ?_
  refine (enters_enclosingMethod tree.enclosingMethod).bind fun enclosing => ?_
  refine (enters_commonPart readsCommon_class tree.flags tree.signature
    tree.annotations).bind fun common => ?_
  refine (enters_permittedSubclasses tree.permittedSubclasses).bind fun permitted => ?_
  refine enters_pure fun pool _ permittedRead commonRead enclosingRead innerRead sourceRead => ?_
  simp only [List.append_assoc]
  rw [sourceRead.foldlM_append rfl, innerRead.foldlM_append rfl, enclosingRead.foldlM_append rfl,
    commonRead.foldlM_append rfl]
  exact permittedRead _ rfl

/-! The whole class. -/

/-- The methods of a lowered class state those of the class, and all of it is read back. -/
theorem enters_classTree (tree : ClassTree) :
    Enters (classTree tree) fun pool build =>
      (build pool).pool = pool
        ∧ List.Forall₂ (StatesMethod pool) tree.methods (build pool).methods
        ∧ (build pool).read? = some tree.stored.signedInOrder := by
  refine (Interning.enters_classRef tree.name).bind fun thisClass => ?_
  refine (enters_optionalClass tree.superclass).bind fun superclass => ?_
  refine (Interning.enters_mapM_self Interning.enters_classRef tree.interfaces).bind
    fun interfaces => ?_
  refine (Interning.enters_mapM enters_field tree.fields).bind fun fields => ?_
  refine (Interning.enters_forall₂ enters_method tree.methods).bind fun methods => ?_
  refine (enters_classAttributes tree).bind fun attributes => ?_
  split
  · refine enters_pure fun pool _ => ?_
    intro attributesRead states fieldsRead interfacesRead superRead named
    refine ⟨rfl, states, ?_⟩
    have methodsRead :
        methods.mapM (Member.readMethod? pool)
          = some (tree.methods.map fun declared => declared.stored.signedInOrder) :=
      mapM_eq_some_iff_forall₂.mpr (List.forall₂_map_right_iff.mpr
        (states.imp fun _ _ => readMethod?_of_statesMethod).flip)
    simp only [File.read?, named, superRead, interfacesRead, fieldsRead, methodsRead,
      Option.bind_eq_bind, Option.bind_some, toUInt32_toUInt16]
    simpa [ClassTree.stored, ClassTree.signedInOrder, Function.comp_def] using attributesRead
  · exact enters_throw _

end Lowering

/--
What the lowering of a class means holds in every later pool, so also in the pool of its file.
-/
theorem ClassTree.exists_build_of_lower
    {tree : ClassTree}
    {file : File}
    {means : ConstantPool → (ConstantPool → File) → Prop}
    (enters : Enters (Lowering.classTree tree) means)
    (lowered : tree.lower = .ok file) :
    ∃ build pool, build pool = file ∧ pool.IsConsistent ∧ means pool build := by
  have entered := enters ConstantPool.empty ConstantPool.isConsistent_empty
  rw [lower] at lowered
  cases ran : Lowering.classTree tree ConstantPool.empty with
  | error error after => simp [ran] at lowered
  | ok build after =>
      rw [ran] at entered lowered
      obtain ⟨consistent, -, meant⟩ := entered
      exact ⟨build, after, Except.ok.inj lowered, consistent,
        meant after consistent (.refl after)⟩

/-- A class file is read back as its class, as far as it keeps it. -/
theorem ClassTree.read?_eq_of_lower
    {tree : ClassTree}
    {file : File}
    (lowered : tree.lower = .ok file) : file.read? = some tree.stored.signedInOrder := by
  obtain ⟨build, pool, rfl, -, -, -, read⟩ :=
    exists_build_of_lower (Lowering.enters_classTree tree) lowered
  exact read

end ClassFile

end DexSurface
