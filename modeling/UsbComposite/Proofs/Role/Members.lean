import Mathlib.Data.Finset.Card
import UsbComposite.Device
import UsbComposite.Proofs.Report.Shared

/-!
# Role sets are finite sets of roles

A role set is fully described by its **members**, a finite set of roles, and inserting a list of roles
is a union. The order and the repeats of the list leave no trace. In memory a set is a byte: each role
has a bit of its own there, inserting is a disjunction and asking is a test of that bit.

* `byte_insertAll`, `contains_iff_byte`: the set as a byte;
* `contains_insertAll_iff`, `members_insertAll`: the set behind a list of insertions;
* `ofList_eq_ofList_iff`: what two lists have in common that give the same set;
* `collects_finite_set`: everything that can be asked of the set of a list.
-/

namespace UsbComposite

/-- The bit of a role in a byte. -/
def Role.mask (role : Role) : UInt8 :=
  1 <<< UInt8.ofNat role.place

theorem Role.toBitVec_mask (role : Role) : role.mask.toBitVec = BitVec.twoPow 8 role.place := by
  cases role <;> rfl

/-- The registry names no role twice. -/
theorem Role.nodup_all : all.Nodup := by
  decide

theorem Role.nodup_shared : shared.Nodup := by
  decide

namespace RoleSet

/-! ### The set as a byte -/

/-- The byte of a set. Its highest bit belongs to no role. -/
def byte (roles : RoleSet) : UInt8 :=
  ⟨roles.bits.setWidth 8⟩

@[simp] theorem byte_empty : empty.byte = 0 := rfl

/-- Inserting a role is a disjunction with its bit. -/
theorem byte_insert (roles : RoleSet) (role : Role) :
    (roles.insert role).byte = roles.byte ||| role.mask := by
  have hwide : (BitVec.twoPow 7 role.place).setWidth 8 = BitVec.twoPow 8 role.place := by
    cases role <;> rfl
  apply UInt8.toBitVec_inj.mp
  rw [UInt8.toBitVec_or, Role.toBitVec_mask, byte, byte, insert, BitVec.setWidth_or, hwide]

theorem byte_insertAll (roles : RoleSet) (added : List Role) :
    (roles.insertAll added).byte = added.foldl (fun byte role => byte ||| role.mask) roles.byte := by
  induction added generalizing roles with
  | nil => rfl
  | cons role rest ih =>
    rw [List.foldl_cons, ← byte_insert]
    exact ih (roles.insert role)

/-- **A role is in a set if and only if its bit is set.** -/
theorem contains_iff_byte (roles : RoleSet) (role : Role) :
    roles.contains role = true ↔ roles.byte &&& role.mask ≠ 0 := by
  have hbit : roles.byte.toBitVec.getLsbD role.place = roles.contains role := by
    have hplace := role.place_lt
    rw [byte, BitVec.getLsbD_setWidth, contains, decide_eq_true (by omega), Bool.true_and]
  have hmask : BitVec.twoPow 8 role.place ≠ 0#8 := by
    cases role <;> decide
  rw [Ne, ← UInt8.toBitVec_inj, UInt8.toBitVec_and, Role.toBitVec_mask, BitVec.and_twoPow, hbit]
  cases roles.contains role with
  | false => exact iff_of_false Bool.false_ne_true (fun h => h rfl)
  | true => exact iff_of_true rfl hmask

/-! ### Members -/

theorem contains_insertAll_iff (roles : RoleSet) (added : List Role) (role : Role) :
    (roles.insertAll added).contains role = true ↔ roles.contains role = true ∨ role ∈ added := by
  induction added generalizing roles with
  | nil => exact (or_iff_left List.not_mem_nil).symm
  | cons first rest ih =>
    show ((roles.insert first).insertAll rest).contains role = true ↔ _
    rw [ih, contains_insert, Bool.or_eq_true, decide_eq_true_eq, List.mem_cons, or_assoc,
      @eq_comm _ first]

/-- **The set of a list contains what is in the list.** -/
theorem contains_ofList_iff (roles : List Role) (role : Role) :
    (ofList roles).contains role = true ↔ role ∈ roles := by
  rw [ofList, contains_insertAll_iff, contains_empty]
  exact or_iff_right Bool.false_ne_true

theorem mem_toList_iff (roles : RoleSet) (role : Role) :
    role ∈ roles.toList ↔ roles.contains role = true := by
  rw [toList, List.mem_filter, and_iff_right role.mem_all]

/-- The roles of a set. -/
def members (roles : RoleSet) : Finset Role :=
  roles.toList.toFinset

theorem mem_members_iff (roles : RoleSet) (role : Role) :
    role ∈ roles.members ↔ roles.contains role = true := by
  rw [members, List.mem_toFinset, mem_toList_iff]

/-- **Inserting the roles of a list is a union.** -/
theorem members_insertAll (roles : RoleSet) (added : List Role) :
    (roles.insertAll added).members = roles.members ∪ added.toFinset := by
  ext role
  rw [Finset.mem_union, mem_members_iff, mem_members_iff, List.mem_toFinset,
    contains_insertAll_iff]

theorem members_ofList (roles : List Role) : (ofList roles).members = roles.toFinset := by
  rw [ofList, members_insertAll]
  exact Finset.empty_union _

/-- **Two lists give the same set if and only if the same roles are in them.** -/
theorem ofList_eq_ofList_iff (roles other : List Role) :
    ofList roles = ofList other ↔ ∀ role, role ∈ roles ↔ role ∈ other := by
  constructor
  · intro h role
    rw [← contains_ofList_iff, h, contains_ofList_iff]
  · intro h
    apply ext_contains
    intro role
    rw [Bool.eq_iff_iff, contains_ofList_iff, contains_ofList_iff]
    exact h role

/-- A set is collected from its listing. -/
theorem ofList_toList (roles : RoleSet) : ofList roles.toList = roles := by
  apply ext_contains
  intro role
  rw [Bool.eq_iff_iff, contains_ofList_iff, mem_toList_iff]

theorem isEmpty_iff (roles : RoleSet) : roles.isEmpty = true ↔ roles = empty := by
  rw [isEmpty, beq_iff_eq]
  constructor
  · exact congrArg RoleSet.mk
  · rintro rfl
    rfl

theorem isEmpty_ofList_iff (roles : List Role) : (ofList roles).isEmpty = true ↔ roles = [] := by
  rw [isEmpty_iff, show empty = ofList [] from rfl, ofList_eq_ofList_iff,
    List.eq_nil_iff_forall_not_mem]
  simp only [List.not_mem_nil, iff_false]

/-- The shared roles of a set are counted each once. -/
theorem sharedCount_eq_card (roles : RoleSet) :
    roles.sharedCount = (roles.members.filter (· ∈ Role.shared)).card := by
  have hfilter : roles.members.filter (· ∈ Role.shared) =
      (Role.shared.filter roles.contains).toFinset := by
    ext role
    rw [Finset.mem_filter, mem_members_iff, List.mem_toFinset, List.mem_filter, and_comm]
  rw [hfilter, List.toFinset_card_of_nodup (Role.nodup_shared.filter _), sharedCount,
    List.countP_eq_length_filter]

theorem hasShared_iff (roles : RoleSet) : roles.hasShared = true ↔ 0 < roles.sharedCount := by
  rw [Nat.pos_iff_ne_zero, Ne, sharedCount_eq_zero_iff, Bool.not_eq_false]

/-- **The set of a list is the finite set of the roles in it.** It contains these and no others, also
as a byte. Its listing has each of them once, in registry order, and is collected to the same set.
Inserting the list into any set is a union. The shared roles are counted each once, some are there
exactly if their number is positive, and the set is empty exactly if the list is. Two lists give the
same set exactly if the same roles are in them, and then everything that is made of the set is the
same. -/
theorem collects_finite_set (roles : List Role) :
    let set := ofList roles
    (∀ role, set.contains role = true ↔ role ∈ roles) ∧
    (set.byte = roles.foldl (fun byte role => byte ||| role.mask) 0 ∧
      ∀ role, set.byte &&& role.mask ≠ 0 ↔ role ∈ roles) ∧
    (set.toList.Sublist Role.all ∧ set.toList.Nodup ∧ (∀ role, role ∈ set.toList ↔ role ∈ roles) ∧
      ofList set.toList = set) ∧
    (∀ start : RoleSet, (start.insertAll roles).members = start.members ∪ roles.toFinset) ∧
    set.sharedCount = (roles.toFinset.filter (· ∈ Role.shared)).card ∧
    (set.hasShared = true ↔ 0 < set.sharedCount) ∧
    (set.isEmpty = true ↔ roles = []) ∧
    ∀ other : List Role,
      (ofList other = set ↔ ∀ role, role ∈ other ↔ role ∈ roles) ∧
      ((∀ role, role ∈ other ↔ role ∈ roles) →
        ReportNumbers.ofRoles (ofList other) = .ofRoles set ∧
        Layout.ofRoles (ofList other) = .ofRoles set ∧
        ReportDescriptor.shared (ofList other) = ReportDescriptor.shared set ∧
        ReportDescriptor.raw (ofList other) = ReportDescriptor.raw set ∧
        (∀ chosen, ProductNumber.shown chosen (ofList other) = ProductNumber.shown chosen set) ∧
        ∀ medium, Device.make (ofList other) medium = Device.make set medium) := by
  intro set
  have hcontains : ∀ role, set.contains role = true ↔ role ∈ roles := contains_ofList_iff roles
  refine ⟨hcontains, ⟨byte_insertAll empty roles, ?_⟩, ⟨List.filter_sublist,
    Role.nodup_all.filter _, ?_, ofList_toList set⟩, fun start => members_insertAll start roles, ?_,
    hasShared_iff set, isEmpty_ofList_iff roles, ?_⟩
  · intro role
    rw [← contains_iff_byte, hcontains]
  · intro role
    rw [mem_toList_iff, hcontains]
  · rw [sharedCount_eq_card, members_ofList]
  · intro other
    refine ⟨ofList_eq_ofList_iff other roles, ?_⟩
    intro hsame
    rw [(ofList_eq_ofList_iff other roles).mpr hsame]
    exact ⟨rfl, rfl, rfl, rfl, fun _ => rfl, fun _ => rfl⟩

/-- Order and repeats leave no trace. -/
example : ofList [.mouse, .serial, .mouse] = ofList [.serial, .mouse] ∧
    (ofList [.mouse, .serial, .mouse]).toList = [.serial, .mouse] := by
  decide

end RoleSet

end UsbComposite
