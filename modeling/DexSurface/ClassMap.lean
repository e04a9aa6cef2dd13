import Std.Data.TreeMap
import DexSurface.ClassRecord

/-!
# Class maps

The classes of all archives by type name, in the order of the names.  The first class of a name is
kept, and synthetic classes are never kept.
-/

namespace DexSurface

/-- Classes by type name. -/
abbrev ClassMap := Std.TreeMap String ClassRecord

namespace ClassMap

/-- The classes in the order of their names. -/
def records (classes : ClassMap) : List ClassRecord :=
  classes.toList.map Prod.snd

/-- A class found under some name is a class of the map. -/
theorem mem_records_of_getElem?
    {classes : ClassMap}
    {typeName : String}
    {record : ClassRecord}
    (found : classes[typeName]? = some record) :
    record ∈ classes.records :=
  List.mem_map.mpr ⟨_, Std.TreeMap.mem_toList_iff_getElem?_eq_some.mpr found, rfl⟩

/-- A class enters the map unless it is synthetic or its name is taken. -/
def accepts (classes : ClassMap) (record : ClassRecord) : Bool :=
  !record.flags.isSynthetic && !classes.contains record.typeName

/-- Add a class under its own name if the map accepts it. -/
def insertFirst (classes : ClassMap) (record : ClassRecord) : ClassMap :=
  if classes.accepts record then classes.insert record.typeName record else classes

/-- Add classes in order. -/
def insertAll (classes : ClassMap) (records : List ClassRecord) : ClassMap :=
  records.foldl insertFirst classes

/-- The class that a type names, array dimensions left out, if it is inaccessible. -/
def inaccessible? (classes : ClassMap) (typeName : TypeDescriptor) : Option ClassRecord :=
  classes[Descriptor.elementType typeName]?.filter fun record => record.flags.isInaccessible

end ClassMap

end DexSurface
