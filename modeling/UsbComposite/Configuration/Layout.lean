import UsbComposite.FunctionKind

/-!
# Layouts

Interfaces are numbered from zero. The enabled functions take their numbers in a fixed order, each
as many as it has interfaces, without gaps. The result is a **layout**: which function starts at
which number.
-/

namespace UsbComposite

/-- A function and the number of its first interface. -/
structure Slot where
  kind : FunctionKind
  first : UInt8
deriving DecidableEq

/-- The functions of a configuration in the order of their interfaces. -/
structure Layout where
  slots : List Slot
deriving DecidableEq

namespace Layout

/-- Give functions their interface numbers, the first one starting at `next`. -/
def place (next : UInt8) : List FunctionKind → List Slot
  | [] => []
  | kind :: rest => ⟨kind, next⟩ :: place (next + kind.interfaceCount) rest

/-- The layout of the functions that the roles call for. -/
def ofRoles (roles : RoleSet) : Layout :=
  ⟨place 0 (FunctionKind.all.filter fun kind => kind.isEnabled roles)⟩

/-- The number of the first interface of a function, none if it is not enabled. -/
def interfaceOf? (layout : Layout) (kind : FunctionKind) : Option UInt8 :=
  (layout.slots.find? fun slot => slot.kind == kind).map Slot.first

/-- How many interfaces there are. -/
def interfaceCount (layout : Layout) : UInt8 :=
  layout.slots.foldr (fun slot rest => slot.kind.interfaceCount + rest) 0

/-- The length of the configuration in bytes, its header of nine bytes included. -/
def totalLength (layout : Layout) : Nat :=
  9 + layout.slots.foldr (fun slot rest => slot.kind.blockLength + rest) 0

end Layout

end UsbComposite
