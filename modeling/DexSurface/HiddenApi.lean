/-!
# Restriction categories of members

The platform classifies members by lists and domains.  A member carries a set of categories, kept
in the order of their declaration, and is restricted when it has some category but not the
whitelist.
-/

namespace DexSurface

namespace HiddenApi

/-- The categories, in the order in which they are reported. -/
inductive Category where
  | whitelist
  | greylist
  | blacklist
  | greylistMaxO
  | greylistMaxP
  | greylistMaxQ
  | greylistMaxR
  | greylistMaxS
  | corePlatformApi
  | testApi
  deriving Repr, DecidableEq

namespace Category

/-- All categories in the order of their declaration. -/
def all : List Category :=
  [.whitelist, .greylist, .blacklist, .greylistMaxO, .greylistMaxP, .greylistMaxQ,
    .greylistMaxR, .greylistMaxS, .corePlatformApi, .testApi]

/-- The published name of a category. -/
def name : Category → String
  | .whitelist => "whitelist"
  | .greylist => "greylist"
  | .blacklist => "blacklist"
  | .greylistMaxO => "greylist-max-o"
  | .greylistMaxP => "greylist-max-p"
  | .greylistMaxQ => "greylist-max-q"
  | .greylistMaxR => "greylist-max-r"
  | .greylistMaxS => "greylist-max-s"
  | .corePlatformApi => "core-platform-api"
  | .testApi => "test-api"

/-- The list that the low three bits of a flags word name. -/
def ofListNumber : UInt32 → Category
  | 0 => .whitelist
  | 1 => .greylist
  | 2 => .blacklist
  | 3 => .greylistMaxO
  | 4 => .greylistMaxP
  | 5 => .greylistMaxQ
  | 6 => .greylistMaxR
  | _ => .greylistMaxS

end Category

/-- A set of categories, listed in the order of their declaration. -/
structure Categories where
  toList : List Category
  ordered : Category.all.filter (fun category => toList.contains category) = toList
  deriving Repr, DecidableEq

namespace Categories

/-- The set of the given categories. -/
def ofList (categories : List Category) : Categories where
  toList := Category.all.filter (fun category => categories.contains category)
  ordered := by
    apply List.filter_congr
    intro category member
    simp [member]

/-- No category at all. -/
def empty : Categories := ofList []

instance : Inhabited Categories := ⟨empty⟩

/--
The categories of a flags word: the list in the low three bits, then a bit for the core platform
and a bit for tests.
-/
def ofFlags (flags : UInt32) : Categories :=
  ofList <|
    [Category.ofListNumber (flags &&& 0x7)]
      ++ (if flags &&& 0x8 != 0 then [.corePlatformApi] else [])
      ++ (if flags &&& 0x10 != 0 then [.testApi] else [])

/-- The published names in the order of declaration. -/
def names (categories : Categories) : List String :=
  categories.toList.map Category.name

/-- A member is restricted when it has a category and is not on the whitelist. -/
def isRestricted (categories : Categories) : Bool :=
  !categories.toList.isEmpty && !categories.toList.contains .whitelist

end Categories

end HiddenApi

end DexSurface
