import DexSurface.Dex.ImageBuilder
import DexSurface.Proofs.Dex.AssembleRoundTrip

namespace DexSurface

namespace Dex

open Dex.Numbering (IsStable Settles IsSettled MatchNotes MatchBody MatchParts MatchItems)

/-!
# Sessions with a builder

The calls of a builder come in any order, as long as a class is given with items that the builder
has encoded for it.  Each call only adds entries, so every item and every class stays settled in the
tables, and in the end the classes denote their drafts.  The image is then read as the drafts.
Assembling classes in a row is one of these orders.
-/

/-- The class that a call gives, if it gives one. -/
def BuilderCall.draft? : BuilderCall → Option ClassDraft
  | .give draft _ => some draft
  | _ => none

namespace ImageBuilder

variable {builder : ImageBuilder} {drafts : List ClassDraft}

/-- The builder has encoded a fragment as an item. -/
def HasEncoded (builder : ImageBuilder) (fragment : Fragment) (item : Item) : Prop :=
  (fragment, item) ∈ builder.encoded

/-- A call is admitted unless it gives a class with items that were not encoded for it. -/
def Admits (builder : ImageBuilder) : BuilderCall → Prop
  | .give draft items => MatchItems builder.HasEncoded draft items
  | _ => True

/-- Calls in a row are admitted, each behind those before it. -/
def AdmitsAll (builder : ImageBuilder) : List BuilderCall → Prop
  | [] => True
  | call :: rest => builder.Admits call ∧ (builder.call call).AdmitsAll rest

/-- What a builder holds is settled in its tables: the items, and the classes for their drafts. -/
structure IsSound (builder : ImageBuilder) (drafts : List ClassDraft) : Prop where
  encoded :
    ∀ fragment item,
      builder.HasEncoded fragment item → IsSettled builder.tables fragment item
  classes :
    List.Forall₂ (fun draft entry => Settles builder.tables (Numbering.numberedClass draft) entry)
      drafts builder.classes

/-- A builder that has not been called holds nothing. -/
theorem isSound_empty : IsSound empty [] where
  encoded := by
    intro fragment item isEncoded
    cases isEncoded
  classes := .nil

/-- What a builder holds stays settled when its tables grow. -/
theorem IsSound.grow
    {tables : EntryTables}
    (sound : builder.IsSound drafts)
    (isPart : builder.tables.IsPartOf tables) :
    IsSound { builder with tables } drafts where
  encoded := by
    intro fragment item isEncoded
    exact (sound.encoded fragment item isEncoded).later (isStable_fragmentBytes fragment) isPart
  classes := by
    refine sound.classes.imp fun draft entry settled => ?_
    exact settled.later (Numbering.isStable_numberedClass draft) isPart

/-- Mentioning an entry keeps a builder sound. -/
theorem IsSound.mention
    {run : Numbering Nat}
    (sound : builder.IsSound drafts)
    (stable : IsStable run) :
    (builder.mention run).IsSound drafts :=
  sound.grow (stable builder.tables).1

/-- Encoding a fragment keeps a builder sound. -/
theorem IsSound.encode (sound : builder.IsSound drafts) (fragment : Fragment) :
    (builder.encode fragment).IsSound drafts := by
  have stable := isStable_fragmentBytes fragment
  have grown := sound.grow (stable builder.tables).1
  refine ⟨?_, grown.classes⟩
  intro other item isEncoded
  rcases List.mem_cons.mp isEncoded with isNew | isOld
  · obtain ⟨rfl, rfl⟩ := Prod.mk.inj isNew
    exact stable.settles (.refl _)
  · exact grown.encoded other item isOld

/-- Giving a class with items that were encoded for it keeps a builder sound. -/
theorem IsSound.give
    {draft : ClassDraft}
    {items : Numbering.ClassItems}
    (sound : builder.IsSound drafts)
    (matched : MatchItems builder.HasEncoded draft items) :
    (builder.give draft items).IsSound (drafts ++ [draft]) := by
  have stable := Numbering.isStable_classWith draft items
  have grown := sound.grow (stable builder.tables).1
  have itemsSettled :
      Settles (builder.give draft items).tables (Numbering.classItems draft) items :=
    Numbering.settles_classItems_iff.mpr (matched.imp grown.encoded)
  have classSettled :
      Settles (builder.give draft items).tables (Numbering.classWith draft items)
        (Numbering.classWith draft items builder.tables).1 :=
    stable.settles (.refl _)
  refine ⟨grown.encoded, ?_⟩
  exact List.rel_append grown.classes (.cons (itemsSettled.bind classSettled) .nil)

/-- A call without a class adds no draft. -/
theorem IsSound.addNone
    {call : BuilderCall}
    (sound : builder.IsSound drafts)
    (noDraft : call.draft? = none) :
    builder.IsSound (drafts ++ call.draft?.toList) := by
  rw [noDraft, Option.toList_none, List.append_nil]
  exact sound

/-- An admitted call keeps a builder sound. -/
theorem IsSound.call
    {call : BuilderCall}
    (sound : builder.IsSound drafts)
    (admitted : builder.Admits call) :
    (builder.call call).IsSound (drafts ++ call.draft?.toList) := by
  cases call with
  | string text => exact (sound.mention (Numbering.isStable_string text)).addNone rfl
  | typeName descriptor =>
      exact (sound.mention (Numbering.isStable_typeName descriptor)).addNone rfl
  | field reference => exact (sound.mention (Numbering.isStable_field reference)).addNone rfl
  | method reference => exact (sound.mention (Numbering.isStable_method reference)).addNone rfl
  | encode fragment => exact (sound.encode fragment).addNone rfl
  | give draft items => exact sound.give admitted

/-- Admitted calls in a row keep a builder sound, and their classes are added in their order. -/
theorem IsSound.after
    {calls : List BuilderCall}
    (sound : builder.IsSound drafts)
    (admitted : builder.AdmitsAll calls) :
    (builder.after calls).IsSound (drafts ++ calls.filterMap BuilderCall.draft?) := by
  induction calls generalizing builder drafts with
  | nil =>
      rw [List.filterMap_nil, List.append_nil]
      exact sound
  | cons call rest inductionHypothesis =>
      obtain ⟨firstAdmitted, restAdmitted⟩ := admitted
      have behind := inductionHypothesis (sound.call firstAdmitted) restAdmitted
      rw [List.append_assoc] at behind
      have sameDrafts :
          (call :: rest).filterMap BuilderCall.draft? =
            call.draft?.toList ++ rest.filterMap BuilderCall.draft? := by
        cases given : call.draft? with
        | none => rw [List.filterMap_cons_none given, Option.toList_none, List.nil_append]
        | some draft => rw [List.filterMap_cons_some given]; rfl
      rw [sameDrafts]
      exact behind

/-- The classes of a sound builder denote their drafts. -/
theorem IsSound.denotes (sound : builder.IsSound drafts) :
    List.Forall₂ (Numbering.Denotes builder.tables) drafts builder.classes :=
  sound.classes.imp fun draft entry => (Numbering.ensures_numberedClass draft).2 entry

/--
Whatever the order of its calls, the image of a builder is parsed, and its classes are what the
drafts mean that were given, in their order.
-/
theorem exists_parse_bytes
    {calls : List BuilderCall}
    (admitted : empty.AdmitsAll calls)
    (readable : ∀ draft ∈ calls.filterMap BuilderCall.draft?, draft.IsReadable)
    (typesFit : (empty.after calls).tables.types.size < Bytes.span 2)
    (protosFit : (empty.after calls).tables.protos.size < Bytes.span 2)
    (imageFits : (empty.after calls).bytes.size < Bytes.span 4) :
    ∃ image,
      Image.parse (empty.after calls).bytes = .ok image
        ∧ image.classes =
          .ok
            ((calls.filterMap BuilderCall.draft?).map
              (ClassDraft.record (empty.after calls).tables)) := by
  have sound : (empty.after calls).IsSound (calls.filterMap BuilderCall.draft?) :=
    isSound_empty.after admitted
  exact Assembly.exists_parse_imageOf readable sound.denotes typesFit protosFit imageFits

/-- A class with a member of every kind, annotations, a value, a body and restriction flags. -/
def counterDraft : ClassDraft where
  typeName := "LCounter;"
  flags := 1
  superclass := some "LBase;"
  interfaces := ["LStep;"]
  sourceFile := some "Counter.kt"
  annotations := [{ visibility := 1, annotationType := "LKept;", elements := [("at", .int 3)] }]
  staticFields := [{ name := "limit", fieldType := "I", flags := 9, annotations := [] }]
  instanceFields := [{ name := "count", fieldType := "I", flags := 2, annotations := [] }]
  directMethods :=
    [{
      name := "add"
      parameterTypes := ["I"]
      returnType := "V"
      flags := 2
      annotations := []
      parameterAnnotations := [[{ visibility := 0, annotationType := "LKept;", elements := [] }]]
      body := some {
        registerCount := 2
        units := [0x000e]
        debug := some { parameterNames := [some "step"], events := [.startLocal 0 "sum" "I"] }
      }
    }]
  virtualMethods :=
    [{
      name := "count"
      parameterTypes := []
      returnType := "I"
      flags := 0x401
      annotations := [{ visibility := 2, annotationType := "LPure;", elements := [] }]
      parameterAnnotations := []
      body := none
    }]
  staticValues := [.enum { definingClass := "LLevel;", name := "high", fieldType := "LLevel;" }]
  restrictions := some [0, 2, 1, 0]

/-- The fragments of the counter, those that are needed last first. -/
def counterFragments : List Fragment :=
  [.value (.enum { definingClass := "LLevel;", name := "high", fieldType := "LLevel;" }),
    .note { visibility := 2, annotationType := "LPure;", elements := [] },
    .debugInfo { parameterNames := [some "step"], events := [.startLocal 0 "sum" "I"] },
    .note { visibility := 0, annotationType := "LKept;", elements := [] },
    .note { visibility := 1, annotationType := "LKept;", elements := [("at", .int 3)] }]

/-- The bytes of these fragments behind a mention of a name, the last ones first. -/
def counterBytes : List Item :=
  [[1, 3, 1, 8, 4, 3], [0, 3, 0], [1, 1, 5, 3, 0, 6, 3, 11, 0], [2, 1, 0], [123, 0, 0, 0, 0]]

/-- A builder that has encoded the fragments behind a mention of a name. -/
def counterBuilder : ImageBuilder :=
  empty.after (.string "count" :: counterFragments.map .encode)

/-- The items of the counter as they are encoded in this order. -/
def counterItems : Numbering.ClassItems where
  annotations := [[1, 3, 1, 8, 4, 3]]
  staticFields := [[]]
  instanceFields := [[]]
  directMethods :=
    [{
      annotations := []
      parameterAnnotations := [[[0, 3, 0]]]
      body := some {
        registerCount := 2
        units := [0x000e]
        debug := some [1, 1, 5, 3, 0, 6, 3, 11, 0]
      }
    }]
  virtualMethods := [{ annotations := [[2, 1, 0]], parameterAnnotations := [], body := none }]
  staticValues := [[123, 0, 0, 0, 0]]

/-- Calls that mention a name, encode the fragments, give the counter and mention a type. -/
def counterCalls : List BuilderCall :=
  .string "count" :: counterFragments.map .encode
    ++ [.give counterDraft counterItems, .typeName "LOther;"]

/-- The builder has encoded each fragment as its bytes. -/
theorem encoded_counterBuilder :
    counterBuilder.encoded = counterFragments.reverse.zip counterBytes := by
  have sameItems : counterBuilder.encoded.map Prod.snd = counterBytes := by
    decide +kernel
  have sameFragments : counterBuilder.encoded.map Prod.fst = counterFragments.reverse :=
    rfl
  rw [← sameItems, ← sameFragments, List.zip_map', List.map_id']

/-- The counter is given with items that were encoded for it. -/
theorem admitsAll_counterCalls : empty.AdmitsAll counterCalls := by
  have encoded (position : Nat) (fragment : Fragment) (item : Item)
      (stands :
        (counterFragments.reverse.zip counterBytes)[position]? = some (fragment, item)) :
      counterBuilder.HasEncoded fragment item := by
    rw [HasEncoded, encoded_counterBuilder]
    exact List.mem_of_getElem? stands
  have matched : MatchItems counterBuilder.HasEncoded counterDraft counterItems := {
    annotations := .cons (encoded 0 _ _ rfl) .nil
    staticFields := .cons .nil .nil
    instanceFields := .cons .nil .nil
    directMethods :=
      .cons ⟨.nil, .cons (.cons (encoded 1 _ _ rfl) .nil) .nil,
        .some ⟨rfl, rfl, .some (encoded 2 _ _ rfl)⟩⟩ .nil
    virtualMethods := .cons ⟨.cons (encoded 3 _ _ rfl) .nil, .nil, .none⟩ .nil
    staticValues := .cons (encoded 4 _ _ rfl) .nil
  }
  exact ⟨trivial, trivial, trivial, trivial, trivial, trivial, matched, trivial, trivial⟩

/-- A session in another order than that of assembling: its image is read as the counter. -/
theorem exists_parse_bytes_counter :
    empty.AdmitsAll counterCalls
      ∧ (∀ draft ∈ counterCalls.filterMap BuilderCall.draft?, draft.IsReadable)
      ∧ ∃ image,
        Image.parse (empty.after counterCalls).bytes = .ok image
          ∧ image.classes = .ok [counterDraft.record (empty.after counterCalls).tables] := by
  have readable : ∀ draft ∈ counterCalls.filterMap BuilderCall.draft?, draft.IsReadable := by
    intro draft member
    obtain rfl := List.mem_singleton.mp member
    decide +kernel
  have typesFit : (empty.after counterCalls).tables.types.size < Bytes.span 2 := by
    decide +kernel
  have protosFit : (empty.after counterCalls).tables.protos.size < Bytes.span 2 := by
    decide +kernel
  have imageFits : (empty.after counterCalls).bytes.size < Bytes.span 4 := by
    decide +kernel
  exact ⟨admitsAll_counterCalls, readable,
    exists_parse_bytes admitsAll_counterCalls readable typesFit protosFit imageFits⟩

/-! Assembling classes in a row. -/

/-- The second part of some calls is made behind the first part. -/
theorem after_append (builder : ImageBuilder) (calls others : List BuilderCall) :
    builder.after (calls ++ others) = (builder.after calls).after others := by
  rw [after, List.foldl_append]
  rfl

/-- Calls in a row are admitted where both parts are, the second one behind the first. -/
theorem admitsAll_append_iff {calls others : List BuilderCall} :
    builder.AdmitsAll (calls ++ others)
      ↔ builder.AdmitsAll calls ∧ (builder.after calls).AdmitsAll others := by
  induction calls generalizing builder with
  | nil =>
      rw [List.nil_append, AdmitsAll, true_and]
      rfl
  | cons call rest inductionHypothesis =>
      rw [List.cons_append, AdmitsAll, AdmitsAll, inductionHypothesis, and_assoc]
      rfl

/-- Calls that encode fragments. -/
def encoding (fragments : List Fragment) : List BuilderCall :=
  fragments.map .encode

/-- Encoding is always admitted. -/
theorem admitsAll_encoding (fragments : List Fragment) :
    builder.AdmitsAll (encoding fragments) := by
  induction fragments generalizing builder with
  | nil => exact trivial
  | cons fragment rest inductionHypothesis => exact ⟨trivial, inductionHypothesis⟩

/-- Encoding fragments gives no class. -/
theorem filterMap_encoding (fragments : List Fragment) :
    (encoding fragments).filterMap BuilderCall.draft? = [] := by
  induction fragments with
  | nil => rfl
  | cons fragment rest inductionHypothesis => exact inductionHypothesis

/-- What has been encoded stays so when more is encoded. -/
theorem HasEncoded.after_encoding
    {fragment : Fragment}
    {item : Item}
    (isEncoded : builder.HasEncoded fragment item)
    (fragments : List Fragment) :
    (builder.after (encoding fragments)).HasEncoded fragment item := by
  induction fragments generalizing builder with
  | nil => exact isEncoded
  | cons first rest inductionHypothesis =>
      have kept : (builder.encode first).HasEncoded fragment item :=
        List.mem_cons_of_mem _ isEncoded
      exact inductionHypothesis kept

/-- Encoding fragments leaves the classes as they are. -/
theorem classes_after_encoding (builder : ImageBuilder) (fragments : List Fragment) :
    (builder.after (encoding fragments)).classes = builder.classes := by
  induction fragments generalizing builder with
  | nil => rfl
  | cons first rest inductionHypothesis => exact inductionHypothesis (builder.encode first)

/--
A computation does what encoding some fragments in a row does.  Its value belongs to what has been
encoded, in every way to tell the item of a fragment that accepts what has been encoded.
-/
def IsEncoding (run : Numbering α) (holds : (Fragment → Item → Prop) → α → Prop) : Prop :=
  ∀ builder : ImageBuilder, ∃ fragments : List Fragment,
    (builder.after (encoding fragments)).tables = (run builder.tables).2
      ∧ ∀ belongs : Fragment → Item → Prop,
        (∀ fragment item,
            (builder.after (encoding fragments)).HasEncoded fragment item →
              belongs fragment item) →
          holds belongs (run builder.tables).1

/-- Nothing is encoded for a value that is there. -/
theorem isEncoding_pure
    {value : α}
    {holds : (Fragment → Item → Prop) → α → Prop}
    (isHeld : ∀ belongs, holds belongs value) :
    IsEncoding (pure value) holds := by
  intro builder
  exact ⟨[], rfl, fun belongs _ => isHeld belongs⟩

/-- A fragment is encoded as its bytes. -/
theorem isEncoding_fragment (fragment : Fragment) :
    IsEncoding fragment.bytes fun belongs item => belongs fragment item := by
  intro builder
  refine ⟨[fragment], rfl, fun belongs accepts => ?_⟩
  exact accepts fragment _ List.mem_cons_self

/-- What follows a step is encoded behind it, and may use what holds of the step's value. -/
theorem IsEncoding.bind
    {run : Numbering α}
    {next : α → Numbering β}
    {first : (Fragment → Item → Prop) → α → Prop}
    {holds : (Fragment → Item → Prop) → β → Prop}
    (isEncoding : IsEncoding run first)
    (nextEncodes : ∀ value,
      IsEncoding (next value) fun belongs result => first belongs value → holds belongs result) :
    IsEncoding (run >>= next) holds := by
  intro builder
  obtain ⟨fragments, sameTables, firstHolds⟩ := isEncoding builder
  obtain ⟨others, nextTables, nextHolds⟩ :=
    nextEncodes (run builder.tables).1 (builder.after (encoding fragments))
  have joined :
      builder.after (encoding (fragments ++ others)) =
        (builder.after (encoding fragments)).after (encoding others) := by
    rw [encoding, List.map_append]
    exact after_append builder _ _
  rw [sameTables] at nextTables nextHolds
  refine ⟨fragments ++ others, ?_, ?_⟩
  · rw [joined, nextTables]
    rfl
  · intro belongs accepts
    rw [joined] at accepts
    refine nextHolds belongs accepts (firstHolds belongs ?_)
    intro fragment item isEncoded
    exact accepts fragment item (isEncoded.after_encoding others)

/-- A list is encoded element by element. -/
theorem isEncoding_listMapM
    {item : α → Numbering β}
    {holds : α → (Fragment → Item → Prop) → β → Prop}
    (encodes : ∀ element, IsEncoding (item element) (holds element))
    (elements : List α) :
    IsEncoding (elements.mapM item) fun belongs values =>
      List.Forall₂ (fun element value => holds element belongs value) elements values := by
  induction elements with
  | nil => exact isEncoding_pure fun belongs => .nil
  | cons first rest inductionHypothesis =>
      rw [List.mapM_cons]
      refine (encodes first).bind fun value => ?_
      refine inductionHypothesis.bind fun values => ?_
      exact isEncoding_pure fun belongs restHold firstHolds => .cons firstHolds restHold

/-- An optional element is encoded if it is there. -/
theorem isEncoding_optionMapM
    {item : α → Numbering β}
    {holds : α → (Fragment → Item → Prop) → β → Prop}
    (encodes : ∀ element, IsEncoding (item element) (holds element))
    (element? : Option α) :
    IsEncoding (element?.mapM item) fun belongs value? =>
      Option.Rel (fun element value => holds element belongs value) element? value? := by
  cases element? with
  | none => exact isEncoding_pure fun belongs => .none
  | some element =>
      change IsEncoding (some <$> item element) _
      rw [map_eq_pure_bind]
      refine (encodes element).bind fun value => ?_
      exact isEncoding_pure fun belongs isHeld => .some isHeld

/-- Annotations are encoded one by one. -/
theorem isEncoding_annotationItems (drafts : List AnnotationDraft) :
    IsEncoding (Numbering.annotationItems drafts) fun belongs items =>
      MatchNotes belongs drafts items :=
  isEncoding_listMapM (fun draft => isEncoding_fragment (.note draft)) drafts

/-- A body is numbered by encoding its debug information. -/
theorem isEncoding_numberedBody (draft : BodyDraft) :
    IsEncoding (Numbering.numberedBody draft) fun belongs entry =>
      MatchBody belongs draft entry := by
  have debug := isEncoding_optionMapM (fun debug => isEncoding_fragment (.debugInfo debug))
    draft.debug
  refine debug.bind fun item? => ?_
  exact isEncoding_pure fun belongs debugMatches => ⟨rfl, rfl, debugMatches⟩

/-- The parts of a method are encoded fragment by fragment. -/
theorem isEncoding_methodParts (draft : MethodDraft) :
    IsEncoding (Numbering.methodParts draft) fun belongs parts =>
      MatchParts belongs draft parts := by
  refine (isEncoding_annotationItems _).bind fun annotations => ?_
  refine (isEncoding_listMapM isEncoding_annotationItems _).bind fun parameterAnnotations => ?_
  refine (isEncoding_optionMapM isEncoding_numberedBody _).bind fun body => ?_
  refine isEncoding_pure ?_
  intro belongs bodyMatches parametersMatch notesMatch
  exact ⟨notesMatch, parametersMatch, bodyMatches⟩

/-- The items of a class are encoded fragment by fragment. -/
theorem isEncoding_classItems (draft : ClassDraft) :
    IsEncoding (Numbering.classItems draft) fun belongs items =>
      MatchItems belongs draft items := by
  have fieldItems (fields : List FieldDraft) :=
    isEncoding_listMapM (fun field : FieldDraft => isEncoding_annotationItems field.annotations)
      fields
  refine (isEncoding_annotationItems _).bind fun annotations => ?_
  refine (fieldItems _).bind fun staticFields => ?_
  refine (fieldItems _).bind fun instanceFields => ?_
  refine (isEncoding_listMapM isEncoding_methodParts _).bind fun directMethods => ?_
  refine (isEncoding_listMapM isEncoding_methodParts _).bind fun virtualMethods => ?_
  refine (isEncoding_listMapM (fun value => isEncoding_fragment (.value value)) _).bind
    fun staticValues => ?_
  refine isEncoding_pure ?_
  intro belongs valuesMatch virtualMatch directMatch instanceMatch staticMatch notesMatch
  exact ⟨notesMatch, staticMatch, instanceMatch, directMatch, virtualMatch, valuesMatch⟩

/-- Numbering a class is encoding its fragments and then giving it. -/
theorem exists_calls_numberedClass (builder : ImageBuilder) (draft : ClassDraft) :
    ∃ calls,
      builder.AdmitsAll calls
        ∧ calls.filterMap BuilderCall.draft? = [draft]
        ∧ (builder.after calls).tables = (Numbering.numberedClass draft builder.tables).2
        ∧ (builder.after calls).classes =
          builder.classes ++ [(Numbering.numberedClass draft builder.tables).1] := by
  obtain ⟨fragments, sameTables, matched⟩ := isEncoding_classItems draft builder
  let items := (Numbering.classItems draft builder.tables).1
  let reached := builder.after (encoding fragments)
  have isMatched : MatchItems reached.HasEncoded draft items :=
    matched reached.HasEncoded fun fragment item => id
  have behind :
      builder.after (encoding fragments ++ [.give draft items]) = reached.give draft items :=
    after_append builder _ _
  have numbered : Numbering.numberedClass draft builder.tables =
      Numbering.classWith draft items reached.tables := by
    rw [show reached.tables = _ from sameTables]
    rfl
  refine ⟨encoding fragments ++ [.give draft items], ?_, ?_, ?_, ?_⟩
  · exact admitsAll_append_iff.mpr ⟨admitsAll_encoding fragments, isMatched, trivial⟩
  · rw [List.filterMap_append, filterMap_encoding]
    rfl
  · rw [behind, numbered]
    rfl
  · rw [behind, numbered, ← classes_after_encoding builder fragments]
    rfl

/-- Numbering classes in a row is a session with a builder. -/
theorem exists_calls_mapM (builder : ImageBuilder) (drafts : List ClassDraft) :
    ∃ calls,
      builder.AdmitsAll calls
        ∧ calls.filterMap BuilderCall.draft? = drafts
        ∧ (builder.after calls).tables = (drafts.mapM Numbering.numberedClass builder.tables).2
        ∧ (builder.after calls).classes =
          builder.classes ++ (drafts.mapM Numbering.numberedClass builder.tables).1 := by
  induction drafts generalizing builder with
  | nil => exact ⟨[], trivial, rfl, rfl, (List.append_nil _).symm⟩
  | cons draft rest inductionHypothesis =>
      obtain ⟨calls, admitted, given, sameTables, sameClasses⟩ :=
        exists_calls_numberedClass builder draft
      obtain ⟨others, restAdmitted, restGiven, restTables, restClasses⟩ :=
        inductionHypothesis (builder.after calls)
      have behind := after_append builder calls others
      refine ⟨calls ++ others, admitsAll_append_iff.mpr ⟨admitted, restAdmitted⟩, ?_, ?_, ?_⟩
      · rw [List.filterMap_append, given, restGiven]
        rfl
      · rw [behind, restTables, sameTables, List.mapM_cons]
        rfl
      · rw [behind, restClasses, sameTables, sameClasses, List.mapM_cons, List.append_assoc]
        rfl

/-- An assembled image is that of a session in which its classes are given in their order. -/
theorem exists_calls_assemble (drafts : List ClassDraft) :
    ∃ calls,
      empty.AdmitsAll calls
        ∧ calls.filterMap BuilderCall.draft? = drafts
        ∧ (empty.after calls).tables = Image.tablesOf drafts
        ∧ (empty.after calls).bytes = Image.assemble drafts := by
  obtain ⟨calls, admitted, given, sameTables, sameClasses⟩ := exists_calls_mapM empty drafts
  refine ⟨calls, admitted, given, sameTables, ?_⟩
  rw [bytes, sameTables, sameClasses]
  rfl

end ImageBuilder

end Dex

end DexSurface
