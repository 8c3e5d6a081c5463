import Mathlib.Data.List.Nodup
import UsbComposite.Proofs.Report.Shared

/-!
# Who owns a report number

A table of report numbers is read in two directions: from a role to its number, and from a number to
its owner. A table need not come from a role set, so numbers may repeat, and then the second reading
is a search for the first owner.

* `owner?_eq_some_iff`: the owner of a number is the first role that has it;
* `forall_owner?_iff`: the two directions fit together exactly if no number repeats;
* `entries_ofRoles`: the table of a role set numbers its shared roles 1, 2, …, so there none does.
-/

namespace UsbComposite.ReportNumbers

/-- The roles that have a number, each with it, in the fixed order. -/
def entries (numbers : ReportNumbers) : List (Role × UInt8) :=
  Role.shared.filterMap fun role => (numbers.get? role).map fun number => (role, number)

/-- The numbers in use, in the order of their roles. -/
def given (numbers : ReportNumbers) : List UInt8 :=
  numbers.entries.map Prod.snd

theorem mem_shared_of_get? {numbers : ReportNumbers} {role : Role} {number : UInt8}
    (h : numbers.get? role = some number) : role ∈ Role.shared := by
  cases role with
  | serial => cases h
  | massStorage => cases h
  | rawHid => cases h
  | _ => decide

theorem mem_entries_iff {numbers : ReportNumbers} {role : Role} {number : UInt8} :
    (role, number) ∈ numbers.entries ↔ numbers.get? role = some number := by
  rw [entries, List.mem_filterMap]
  constructor
  · rintro ⟨owner, -, howner⟩
    obtain ⟨found, hfound, heq⟩ := Option.map_eq_some_iff.mp howner
    obtain ⟨rfl, rfl⟩ := Prod.mk.inj heq
    exact hfound
  · intro h
    exact ⟨role, mem_shared_of_get? h, by rw [h, Option.map_some]⟩

theorem given_eq (numbers : ReportNumbers) :
    numbers.given = Role.shared.filterMap numbers.get? := by
  rw [given, entries, List.map_filterMap]
  apply List.filterMap_congr
  intro role _
  cases numbers.get? role <;> rfl

/-- No number repeats exactly if no two roles have the same. -/
theorem nodup_given_iff {numbers : ReportNumbers} :
    numbers.given.Nodup ↔ ∀ first second number, numbers.get? first = some number →
      numbers.get? second = some number → first = second := by
  constructor
  · intro hnodup first second number hfirst hsecond
    have hentry := List.inj_on_of_nodup_map hnodup (mem_entries_iff.mpr hfirst)
      (mem_entries_iff.mpr hsecond) rfl
    exact (Prod.mk.inj hentry).1
  · intro hinj
    have hshared : Role.shared.Nodup := by decide
    rw [given_eq]
    exact hshared.filterMap fun first second number => hinj first second number

/-! ### Owners -/

/-- The first role that has a number: it does, and no role in front of it does. -/
structure FirstOwner (numbers : ReportNumbers) (number : UInt8) (role : Role) : Prop where
  has : numbers.get? role = some number
  first : ∃ before after, Role.shared = before ++ role :: after ∧
    ∀ earlier ∈ before, numbers.get? earlier ≠ some number

/-- **The owner of a number is the first role that has it.** -/
theorem owner?_eq_some_iff {numbers : ReportNumbers} {number : UInt8} {role : Role} :
    numbers.owner? number = some role ↔ numbers.FirstOwner number role := by
  rw [owner?, List.find?_eq_some_iff_append]
  constructor
  · rintro ⟨hrole, before, after, hsplit, hbefore⟩
    refine ⟨beq_iff_eq.mp hrole, before, after, hsplit, ?_⟩
    intro earlier hearlier
    have hnot := hbefore earlier hearlier
    rwa [Bool.not_eq_true', beq_eq_false_iff_ne] at hnot
  · rintro ⟨hrole, before, after, hsplit, hbefore⟩
    refine ⟨beq_iff_eq.mpr hrole, before, after, hsplit, ?_⟩
    intro earlier hearlier
    rw [Bool.not_eq_true', beq_eq_false_iff_ne]
    exact hbefore earlier hearlier

/-- A number that some role has is owned. -/
theorem exists_owner? {numbers : ReportNumbers} {role : Role} {number : UInt8}
    (h : numbers.get? role = some number) : ∃ owner, numbers.owner? number = some owner := by
  rw [← Option.isSome_iff_exists, owner?, List.find?_isSome]
  exact ⟨role, mem_shared_of_get? h, beq_iff_eq.mpr h⟩

/-- **Every role owns its number exactly if no number repeats.** -/
theorem forall_owner?_iff {numbers : ReportNumbers} :
    (∀ role number, numbers.get? role = some number → numbers.owner? number = some role) ↔
      numbers.given.Nodup := by
  rw [nodup_given_iff]
  constructor
  · intro howner first second number hfirst hsecond
    have hsame := (howner first number hfirst).symm.trans (howner second number hsecond)
    exact Option.some.inj hsame
  · intro hinj role number hrole
    obtain ⟨owner, howner⟩ := exists_owner? hrole
    have hhas := (owner?_eq_some_iff.mp howner).has
    rw [howner, hinj owner role number hhas hrole]

/-! ### The table of a role set -/

/-- The shared roles of a set, in the fixed order. -/
def enabled (roles : RoleSet) : List Role :=
  Role.shared.filter roles.contains

theorem nodup_enabled (roles : RoleSet) : (enabled roles).Nodup := by
  have hshared : Role.shared.Nodup := by decide
  exact hshared.filter _

theorem length_enabled (roles : RoleSet) : (enabled roles).length = roles.sharedCount :=
  List.countP_eq_length_filter.symm

/-- An enabled shared role has its place among the enabled ones, from 1. -/
theorem get?_ofRoles_of_contains {roles : RoleSet} {role : Role} (shared : role ∈ Role.shared)
    (contained : roles.contains role = true) :
    (ofRoles roles).get? role = some (UInt8.ofNat (1 + (enabled roles).idxOf role)) := by
  have hmem : role ∈ enabled roles := List.mem_filter.mpr ⟨shared, contained⟩
  obtain ⟨place, hplace⟩ := Option.isSome_iff_exists.mp (List.isSome_idxOf?.mpr hmem)
  have hidx : (enabled roles).idxOf role = place := by
    rw [List.idxOf_eq_getD_idxOf?, hplace, Option.getD_some]
  rw [get?_ofRoles roles shared, assigned, hidx]
  show ((enabled roles).idxOf? role).map _ = _
  rw [hplace, Option.map_some, Nat.add_comm]

theorem get?_ofRoles_of_not_contains {roles : RoleSet} {role : Role} (shared : role ∈ Role.shared)
    (missing : ¬ roles.contains role = true) : (ofRoles roles).get? role = none := by
  have hnone : (assigned roles role).isSome = false := by
    rw [isSome_assigned roles shared]
    exact Bool.eq_false_iff.mpr missing
  rw [get?_ofRoles roles shared]
  exact Option.isNone_iff_eq_none.mp (Option.isSome_eq_false_iff.mp hnone)

/-- **The table of a role set** has its shared roles in order, numbered from 1 without gaps. -/
theorem entries_ofRoles (roles : RoleSet) :
    (ofRoles roles).entries =
      (enabled roles).zip ((List.range' 1 roles.sharedCount).map UInt8.ofNat) := by
  have hplaces : (ofRoles roles).entries = (enabled roles).map fun role =>
      (role, UInt8.ofNat (1 + (enabled roles).idxOf role)) := by
    show _ = (Role.shared.filter roles.contains).map _
    rw [← List.filterMap_eq_map, List.filterMap_filter, entries]
    apply List.filterMap_congr
    intro role hrole
    split
    · rename_i hcontained
      rw [get?_ofRoles_of_contains hrole hcontained]
      rfl
    · rename_i hmissing
      rw [get?_ofRoles_of_not_contains hrole hmissing]
      rfl
  rw [hplaces]
  apply List.ext_getElem
  · simp [length_enabled]
  · intro i hi _
    have hlt : i < (enabled roles).length := by simpa using hi
    simp [(nodup_enabled roles).idxOf_getElem i hlt]

theorem length_numbers (roles : RoleSet) :
    (enabled roles).length = ((List.range' 1 roles.sharedCount).map UInt8.ofNat).length := by
  rw [length_enabled, List.length_map, List.length_range']

theorem map_fst_entries_ofRoles (roles : RoleSet) :
    (ofRoles roles).entries.map Prod.fst = enabled roles := by
  rw [entries_ofRoles, List.map_fst_zip (Nat.le_of_eq (length_numbers roles))]

theorem given_ofRoles (roles : RoleSet) :
    (ofRoles roles).given = (List.range' 1 roles.sharedCount).map UInt8.ofNat := by
  rw [given, entries_ofRoles, List.map_snd_zip (Nat.le_of_eq (length_numbers roles).symm)]

/-- Where a role has a number, some shared role is enabled. -/
theorem hasShared_of_get? {roles : RoleSet} {role : Role} {number : UInt8}
    (h : (ofRoles roles).get? role = some number) : roles.hasShared = true := by
  by_contra hnone
  have hzero := (RoleSet.sharedCount_eq_zero_iff roles).mpr (Bool.eq_false_iff.mpr hnone)
  rw [← count_ofRoles, count, List.countP_eq_zero] at hzero
  apply hzero role (mem_shared_of_get? h)
  rw [h]
  rfl

/-- No number of a role set repeats. -/
theorem nodup_given_ofRoles (roles : RoleSet) : (ofRoles roles).given.Nodup := by
  have hcount : roles.sharedCount ≤ 4 := List.countP_le_length
  rw [given_ofRoles]
  apply List.Nodup.map_on _ List.nodup_range'
  intro first hfirst second hsecond heq
  have hnat := congrArg UInt8.toNat heq
  rw [List.mem_range'_1] at hfirst hsecond
  simp only [UInt8.toNat_ofNat'] at hnat
  omega

end UsbComposite.ReportNumbers
