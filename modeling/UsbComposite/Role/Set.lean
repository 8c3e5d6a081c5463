import UsbComposite.Role

/-!
# Sets of roles

A device's roles are fixed when it is created. A **role set** holds one bit per role, at the role's
place in the registry. Everything else is said through `contains`:

* `contains_insert`: inserting a role adds that role and touches no other;
* `ext_contains`: a set is known by the roles that it contains.
-/

namespace UsbComposite

/-- A set of roles, one bit for each place of the registry. -/
structure RoleSet where
  bits : BitVec 7
deriving DecidableEq

namespace RoleSet

/-- The set without roles. -/
def empty : RoleSet :=
  ⟨0#7⟩

/-- Whether a role is in the set. -/
def contains (roles : RoleSet) (role : Role) : Bool :=
  roles.bits.getLsbD role.place

/-- The set with one more role. -/
def insert (roles : RoleSet) (role : Role) : RoleSet :=
  ⟨roles.bits ||| BitVec.twoPow 7 role.place⟩

/-- The set with the roles of a list added. -/
def insertAll (roles : RoleSet) (added : List Role) : RoleSet :=
  added.foldl insert roles

/-- The set of the roles of a list. -/
def ofList (roles : List Role) : RoleSet :=
  empty.insertAll roles

/-- The set of all seven roles. -/
def full : RoleSet :=
  ofList Role.all

/-- The roles of the set, in registry order. -/
def toList (roles : RoleSet) : List Role :=
  Role.all.filter roles.contains

/-- Whether the set has no role. -/
def isEmpty (roles : RoleSet) : Bool :=
  roles.bits == 0#7

/-- Whether some role of the set travels on the shared HID interface. -/
def hasShared (roles : RoleSet) : Bool :=
  roles.contains .keyboard || roles.contains .mouse ||
    roles.contains .joystick || roles.contains .consumerControl

/-- How many roles of the set travel on the shared HID interface. -/
def sharedCount (roles : RoleSet) : Nat :=
  Role.shared.countP roles.contains

/-! ### Listings -/

/-- The names of the roles between braces, separated by commas. -/
def listing (roles : RoleSet) : String :=
  "\x7b" ++ ", ".intercalate (roles.toList.map Role.name) ++ "\x7d"

/-- The listing with one role to a line, each indented by four blanks and closed by a comma. -/
def tallListing (roles : RoleSet) : String :=
  if roles.isEmpty then "\x7b\x7d"
  else "\x7b\n" ++ String.join (roles.toList.map fun role => "    " ++ role.name ++ ",\n") ++ "\x7d"

/-! ### The set through `contains` -/

@[simp] theorem contains_empty (role : Role) : empty.contains role = false := by
  simp [contains, empty]

@[simp] theorem contains_insert (roles : RoleSet) (added role : Role) :
    (roles.insert added).contains role = (roles.contains role || decide (added = role)) := by
  simp only [contains, insert, BitVec.getLsbD_or, BitVec.getLsbD_twoPow, Role.place_lt,
    Role.place_inj, decide_true, Bool.true_and]

/-- A set is known by the roles that it contains. -/
theorem ext_contains {s t : RoleSet} (h : ∀ role, s.contains role = t.contains role) : s = t := by
  obtain ⟨a⟩ := s
  obtain ⟨b⟩ := t
  have hab : a = b := by
    apply BitVec.eq_of_getLsbD_eq
    intro i hi
    match i, hi with
    | 0, _ => exact h .serial
    | 1, _ => exact h .keyboard
    | 2, _ => exact h .mouse
    | 3, _ => exact h .joystick
    | 4, _ => exact h .consumerControl
    | 5, _ => exact h .massStorage
    | 6, _ => exact h .rawHid
  rw [hab]

end RoleSet

end UsbComposite
