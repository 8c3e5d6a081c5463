import Mathlib.Data.List.Basic
import UsbComposite.Report.Shared

/-!
# The report descriptors of a role set

The roles fix both report descriptors. Stamped and written one after the other, the templates of all
four shared roles stay within the room for them, so building never fails, whatever the roles.

* `shared_eq`: the shared report descriptor, and when it is present;
* `raw_eq`: the same for the raw one.
-/

namespace UsbComposite

namespace ReportNumbers

/-- The table of a role set has the assigned number of each shared role. -/
theorem get?_ofRoles (roles : RoleSet) {role : Role} (shared : role ∈ Role.shared) :
    (ofRoles roles).get? role = assigned roles role := by
  cases role with
  | serial => exact absurd shared (by decide)
  | massStorage => exact absurd shared (by decide)
  | rawHid => exact absurd shared (by decide)
  | _ => rfl

/-- A shared role gets a number exactly if it is enabled. -/
theorem isSome_assigned (roles : RoleSet) {role : Role} (shared : role ∈ Role.shared) :
    (assigned roles role).isSome = roles.contains role := by
  rw [assigned, Option.isSome_map, Bool.eq_iff_iff, List.isSome_idxOf?, List.mem_filter]
  exact ⟨fun h => h.2, fun h => ⟨shared, h⟩⟩

theorem count_ofRoles (roles : RoleSet) : (ofRoles roles).count = roles.sharedCount := by
  rw [count, RoleSet.sharedCount]
  apply List.countP_congr
  intro role hrole
  rw [get?_ofRoles roles hrole, isSome_assigned roles hrole]

end ReportNumbers

/-- No shared role is enabled exactly if their number is zero. -/
theorem RoleSet.sharedCount_eq_zero_iff (roles : RoleSet) :
    roles.sharedCount = 0 ↔ roles.hasShared = false := by
  rw [sharedCount, List.countP_eq_zero, hasShared]
  simp [Role.shared, and_assoc]

namespace ReportDescriptor

/-- The length of stamped templates written one after the other. -/
def totalLength (templates : List Template) : Nat :=
  templates.foldr (fun template rest => template.stampedLength + rest) 0

/-- The bytes of numbered templates, stamped one after the other. -/
def stampedAll (templates : List (Template × UInt8)) : List UInt8 :=
  templates.flatMap fun numbered => numbered.1.stamped numbered.2

theorem length_stampedAll (templates : List (Template × UInt8)) :
    (stampedAll templates).length = totalLength (templates.map Prod.fst) := by
  induction templates with
  | nil => rfl
  | cons numbered rest ih =>
    show (numbered.1.stamped numbered.2 ++ stampedAll rest).length = _
    rw [List.length_append, Template.length_stamped, ih]
    rfl

theorem totalLength_le_of_sublist {some all : List Template} (h : some.Sublist all) :
    totalLength some ≤ totalLength all := by
  induction h with
  | slnil => exact Nat.le_refl _
  | cons template _ ih => exact Nat.le_trans ih (Nat.le_add_left _ _)
  | cons_cons template _ ih => exact Nat.add_le_add_left ih _

/-- Templates that fit together are all written. -/
theorem assemble_of_le {written : List UInt8} {templates : List (Template × UInt8)}
    (h : written.length + totalLength (templates.map Prod.fst) ≤ sharedCapacity) :
    assemble written templates = .ok (written ++ stampedAll templates) := by
  induction templates generalizing written with
  | nil =>
    show Except.ok written = .ok (written ++ [])
    rw [List.append_nil]
  | cons numbered rest ih =>
    obtain ⟨template, number⟩ := numbered
    have hsum : totalLength (((template, number) :: rest).map Prod.fst) =
        template.stampedLength + totalLength (rest.map Prod.fst) := rfl
    rw [hsum] at h
    have hfirst : written.length + template.stampedLength ≤ sharedCapacity := by omega
    have hrest : (written ++ template.stamped number).length + totalLength (rest.map Prod.fst) ≤
        sharedCapacity := by
      rw [List.length_append, Template.length_stamped]
      omega
    rw [assemble, Template.stampInto_of_le hfirst]
    show assemble (written ++ template.stamped number) rest = _
    rw [ih hrest, List.append_assoc]
    rfl

/-- The numbered templates are those of the enabled shared roles. -/
theorem map_fst_numbered (roles : RoleSet) :
    (numbered roles).map Prod.fst =
      (Role.shared.filter roles.contains).filterMap Role.template? := by
  rw [numbered, List.map_filterMap, List.filterMap_filter]
  apply List.filterMap_congr
  intro role hrole
  have hnumber := ReportNumbers.isSome_assigned roles hrole
  rw [ReportNumbers.get?_ofRoles roles hrole]
  cases hassigned : ReportNumbers.assigned roles role with
  | none =>
    rw [hassigned] at hnumber
    rw [← hnumber]
    rfl
  | some number =>
    rw [hassigned] at hnumber
    rw [← hnumber]
    cases role.template? <;> rfl

/-- **The shared templates fit**, whichever roles are enabled. -/
theorem sharedLength_le (roles : RoleSet) : sharedLength roles ≤ sharedCapacity := by
  have hsublist : ((Role.shared.filter roles.contains).filterMap Role.template?).Sublist
      (Role.shared.filterMap Role.template?) := List.filter_sublist.filterMap _
  have hall : totalLength (Role.shared.filterMap Role.template?) ≤ sharedCapacity := by decide
  exact Nat.le_trans (totalLength_le_of_sublist hsublist) hall

theorem length_stampedAll_numbered (roles : RoleSet) :
    (stampedAll (numbered roles)).length = sharedLength roles := by
  rw [length_stampedAll, map_fst_numbered]
  rfl

/-- **The shared report descriptor is built for every set of roles**: it is present if some shared
role is enabled, and then it is the stamped templates of these roles in their order. -/
theorem shared_eq (roles : RoleSet) :
    shared roles = .ok (if roles.hasShared then some (stampedAll (numbered roles)) else none) := by
  have hfits : ([] : List UInt8).length + totalLength ((numbered roles).map Prod.fst) ≤
      sharedCapacity := by
    rw [← length_stampedAll, length_stampedAll_numbered, List.length_nil, Nat.zero_add]
    exact sharedLength_le roles
  have hcount := RoleSet.sharedCount_eq_zero_iff roles
  rw [shared, ReportNumbers.count_ofRoles]
  by_cases hnone : roles.sharedCount = 0
  · rw [if_pos hnone, hcount.mp hnone]
    rfl
  · have hsome : roles.hasShared = true := by
      rwa [hcount, Bool.not_eq_false] at hnone
    rw [if_neg hnone, if_neg (Nat.not_lt.mpr (sharedLength_le roles)), assemble_of_le hfits, hsome]
    rfl

/-- **The raw report descriptor is built for every set of roles**: it is present if the raw HID role
is enabled. -/
theorem raw_eq (roles : RoleSet) :
    raw roles = .ok (if roles.contains .rawHid then some VendorReport.descriptor else none) := by
  have hfits : VendorReport.descriptor.length ≤ rawCapacity := by decide
  rw [raw, if_pos hfits]
  split <;> rfl

end ReportDescriptor

end UsbComposite
