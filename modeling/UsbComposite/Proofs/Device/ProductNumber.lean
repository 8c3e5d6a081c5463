import Mathlib.Data.Finset.SymmDiff
import UsbComposite.Identity
import UsbComposite.Proofs.Role.Members

/-!
# What the device descriptor tells of the roles

The device descriptor carries the vendor and the product number, and nothing else that varies. A
product number chosen by the identity says nothing of the roles. The default one has a bit to spare
for each of five roles, and no two of these bits coincide, so each role leaves a **trace** that the
others do not touch: setting and toggling a clear bit come to the same.

* `traces_set`, `traces_toggle`: one more role leaves its trace, and the others keep theirs;
* `shown_default_eq_iff`: which role sets share a product number;
* `descriptor_tells_five_roles`: what can be read from the device descriptor.

The serial link and the media keys leave no trace, so a host that knows devices by their numbers
cannot tell devices apart that differ in these two only.
-/

namespace UsbComposite

namespace ProductNumber

/-- The roles that leave a trace in the default product number, in the order in which they do. -/
def traced : List Role :=
  [.keyboard, .mouse, .joystick, .massStorage, .rawHid]

/-- The bit by which a role is traced; the serial link and the media keys have none. -/
def bit : Role → UInt16
  | .keyboard => keyboardBit
  | .mouse => mouseBit
  | .joystick => joystickBit
  | .massStorage => massStorageBit
  | .rawHid => rawHidBit
  | .serial | .consumerControl => 0

theorem mem_traced_iff {role : Role} :
    role ∈ traced ↔ role ∉ ({.serial, .consumerControl} : Finset Role) := by
  cases role <;> decide

theorem bit_ne_zero {role : Role} (h : role ∈ traced) : bit role ≠ 0 := by
  revert role
  decide

/-- No two roles have a bit in common. -/
theorem bit_and_bit {role other : Role} (h : role ≠ other) : bit role &&& bit other = 0 := by
  cases role <;> cases other <;> revert h <;> decide

/-- The default product number leaves every such bit clear. -/
theorem default_and_bit (role : Role) : default &&& bit role = 0 := by
  cases role <;> rfl

/-- A number in which the enabled ones of the given roles have their bits, and no other role has. -/
def Traces (roles : RoleSet) (given : List Role) (number : UInt16) : Prop :=
  ∀ role, number &&& bit role = if role ∈ given ∧ roles.contains role = true then bit role else 0

theorem traces_default (roles : RoleSet) : Traces roles [] default := by
  intro role
  rw [default_and_bit, if_neg (fun h => List.not_mem_nil h.1)]

/-- What a mask sees of a number in which a bit may have been set. -/
theorem set_and (roles : RoleSet) (role : Role) (bit number mask : UInt16) :
    set roles role bit number &&& mask =
      number &&& mask ||| if roles.contains role then bit &&& mask else 0 := by
  apply UInt16.toBitVec_inj.mp
  rw [set]
  split
  · exact BitVec.and_or_distrib_right
  · exact BitVec.or_zero.symm

/-- **Toggling a clear bit sets it.** -/
theorem toggle_eq_set {bit number : UInt16} (h : number &&& bit = 0) (roles : RoleSet)
    (role : Role) : toggle roles role bit number = set roles role bit number := by
  rw [toggle, set]
  split
  · apply UInt16.toBitVec_inj.mp
    ext i hi
    have hclear : (number &&& bit).toBitVec[i] = false := by
      rw [h]
      exact BitVec.getElem_zero hi
    rw [UInt16.toBitVec_and, BitVec.getElem_and] at hclear
    rw [UInt16.toBitVec_xor, UInt16.toBitVec_or, BitVec.getElem_xor, BitVec.getElem_or]
    revert hclear
    cases number.toBitVec[i] <;> cases bit.toBitVec[i] <;> decide
  · rfl

/-- **Setting a bit leaves the trace of one role** and keeps those of the others. -/
theorem traces_set {roles : RoleSet} {given : List Role} {number : UInt16}
    (h : Traces roles given number) (role : Role) :
    Traces roles (given ++ [role]) (set roles role (bit role) number) := by
  intro other
  rw [set_and, h other]
  by_cases hother : role = other
  · subst hother
    by_cases hcontains : roles.contains role = true <;> by_cases hgiven : role ∈ given <;>
      simp [hcontains, hgiven]
  · have hgiven : other ∈ given ++ [role] ↔ other ∈ given := by
      rw [List.mem_append, List.mem_singleton, or_iff_left (Ne.symm hother)]
    simp only [bit_and_bit hother, ite_self, UInt16.or_zero, hgiven]

/-- Toggling a bit does the same if its role has left no trace yet. -/
theorem traces_toggle {roles : RoleSet} {given : List Role} {number : UInt16}
    (h : Traces roles given number) {role : Role} (fresh : role ∉ given) :
    Traces roles (given ++ [role]) (toggle roles role (bit role) number) := by
  have hclear : number &&& bit role = 0 := by
    rw [h role, if_neg (fun hgiven => fresh hgiven.1)]
  rw [toggle_eq_set hclear]
  exact traces_set h role

/-- Every traced role has left its trace in the number that is shown. -/
theorem traces_shown (roles : RoleSet) : Traces roles traced (shown default roles) := by
  have hkeyboard := traces_set (traces_default roles) .keyboard
  have hmouse := traces_set hkeyboard .mouse
  have hjoystick := traces_set hmouse .joystick
  have hstorage := traces_toggle hjoystick (show Role.massStorage ∉ _ by decide)
  exact traces_toggle hstorage (show Role.rawHid ∉ _ by decide)

/-- **A traced role is enabled if and only if its bit is there.** -/
theorem contains_iff_bit {role : Role} (h : role ∈ traced) (roles : RoleSet) :
    roles.contains role = true ↔ shown default roles &&& bit role ≠ 0 := by
  rw [traces_shown roles role]
  by_cases hcontains : roles.contains role = true
  · rw [if_pos ⟨h, hcontains⟩]
    exact iff_of_true hcontains (bit_ne_zero h)
  · rw [if_neg (fun hboth => hcontains hboth.2)]
    exact iff_of_false hcontains (fun hzero => hzero rfl)

/-- **Role sets share a product number if and only if they agree on the traced roles.** -/
theorem shown_default_eq_iff (roles other : RoleSet) :
    shown default roles = shown default other ↔
      ∀ role ∈ traced, roles.contains role = true ↔ other.contains role = true := by
  constructor
  · intro h role hrole
    rw [contains_iff_bit hrole, h, ← contains_iff_bit hrole]
  · intro h
    have hsame : ∀ role ∈ traced, roles.contains role = other.contains role :=
      fun role hrole => Bool.eq_iff_iff.mpr (h role hrole)
    simp only [traced, List.forall_mem_cons] at hsame
    obtain ⟨hkeyboard, hmouse, hjoystick, hstorage, hraw, -⟩ := hsame
    simp only [shown, set, toggle, hkeyboard, hmouse, hjoystick, hstorage, hraw]

/-- To agree on the traced roles is to differ at most in the others. -/
theorem forall_traced_iff (roles other : List Role) :
    (∀ role ∈ traced, role ∈ roles ↔ role ∈ other) ↔
      symmDiff roles.toFinset other.toFinset ⊆ {.serial, .consumerControl} := by
  constructor
  · intro h role hdiffers
    by_contra huntraced
    rw [Finset.mem_symmDiff, List.mem_toFinset, List.mem_toFinset] at hdiffers
    have hsame := h role (mem_traced_iff.mpr huntraced)
    tauto
  · intro h role hrole
    by_contra hdiffers
    apply mem_traced_iff.mp hrole
    apply h
    rw [Finset.mem_symmDiff, List.mem_toFinset, List.mem_toFinset]
    tauto

/-- A chosen product number is shown as it is. -/
theorem shown_of_ne {chosen : UInt16} (h : chosen ≠ default) (roles : RoleSet) :
    shown chosen roles = chosen :=
  if_neg h

end ProductNumber

namespace Identity

theorem length_deviceDescriptor (identity : Identity) (roles : RoleSet) :
    (identity.deviceDescriptor roles).length = 18 := rfl

/-- **The device descriptor is read back** as the two numbers. -/
theorem readAll?_deviceDescriptor (identity : Identity) (roles : RoleSet) :
    Descriptor.readAll? (identity.deviceDescriptor roles) =
      some [.device identity.vendor (ProductNumber.shown identity.product roles)] := by
  have hone : identity.deviceDescriptor roles =
      Descriptor.encodeAll [identity.descriptor roles] := (List.append_nil _).symm
  rw [hone, Descriptor.readAll?_encodeAll, descriptor]

/-- So it tells of the roles what the product number tells. -/
theorem deviceDescriptor_eq_iff (identity : Identity) (roles other : RoleSet) :
    identity.deviceDescriptor roles = identity.deviceDescriptor other ↔
      ProductNumber.shown identity.product roles = ProductNumber.shown identity.product other := by
  constructor
  · intro h
    have hread := readAll?_deviceDescriptor identity roles
    rw [h, readAll?_deviceDescriptor] at hread
    simpa using hread.symm
  · intro h
    rw [deviceDescriptor, descriptor, h]
    rfl

/-- **What the device descriptor tells.** It has eighteen bytes and is read back as the vendor number
and the product number that is shown; a chosen product number is shown as it is. With the default
product number, two lists of roles give the same descriptor exactly if they agree on keyboard, mouse,
joystick, mass storage and raw HID, so they share the number exactly if they differ at most in the
serial link and the media keys. With any other product number all lists give the same descriptor. -/
theorem descriptor_tells_five_roles (identity : Identity) :
    (∀ roles : List Role,
      (identity.deviceDescriptor (.ofList roles)).length = 18 ∧
      Descriptor.readAll? (identity.deviceDescriptor (.ofList roles)) =
        some [.device identity.vendor (ProductNumber.shown identity.product (.ofList roles))]) ∧
    (identity.product = ProductNumber.default → ∀ roles other : List Role,
      (identity.deviceDescriptor (.ofList roles) = identity.deviceDescriptor (.ofList other) ↔
        ∀ role ∈ [Role.keyboard, .mouse, .joystick, .massStorage, .rawHid],
          role ∈ roles ↔ role ∈ other) ∧
      (ProductNumber.shown identity.product (.ofList roles) =
          ProductNumber.shown identity.product (.ofList other) ↔
        symmDiff roles.toFinset other.toFinset ⊆ {.serial, .consumerControl})) ∧
    (identity.product ≠ ProductNumber.default → ∀ roles other : List Role,
      ProductNumber.shown identity.product (.ofList roles) = identity.product ∧
      identity.deviceDescriptor (.ofList roles) = identity.deviceDescriptor (.ofList other)) := by
  refine ⟨fun roles => ⟨length_deviceDescriptor identity _, readAll?_deviceDescriptor identity _⟩,
    ?_, ?_⟩
  · intro hdefault roles other
    have hshown : ProductNumber.shown identity.product (.ofList roles) =
        ProductNumber.shown identity.product (.ofList other) ↔
          ∀ role ∈ ProductNumber.traced, role ∈ roles ↔ role ∈ other := by
      rw [hdefault, ProductNumber.shown_default_eq_iff]
      simp only [RoleSet.contains_ofList_iff]
    exact ⟨(deviceDescriptor_eq_iff identity _ _).trans hshown,
      hshown.trans (ProductNumber.forall_traced_iff roles other)⟩
  · intro hchosen roles other
    have hroles := ProductNumber.shown_of_ne hchosen (.ofList roles)
    refine ⟨hroles, ?_⟩
    rw [deviceDescriptor_eq_iff, hroles, ProductNumber.shown_of_ne hchosen]

/-- By default a host takes a mouse with a serial link for a mouse with media keys, but sees raw HID
beside the mouse; under a chosen number it takes the device with all roles for the one without any. -/
theorem descriptor_tells_five_roles_mouse :
    let standard : Identity := {}
    let chosen : Identity := { product := 0x1234 }
    standard.product = ProductNumber.default ∧ chosen.product ≠ ProductNumber.default ∧
    Descriptor.readAll? (standard.deviceDescriptor (.ofList [.mouse])) =
      some [.device 0x2E8A 0x400A] ∧
    standard.deviceDescriptor (.ofList [.serial, .mouse]) =
      standard.deviceDescriptor (.ofList [.mouse, .consumerControl, .mouse]) ∧
    standard.deviceDescriptor (.ofList [.mouse]) ≠
      standard.deviceDescriptor (.ofList [.rawHid, .mouse]) ∧
    chosen.deviceDescriptor (.ofList []) = chosen.deviceDescriptor (.ofList Role.all) := by
  intro standard chosen
  have hdefault : standard.product = ProductNumber.default := rfl
  have hchosen : chosen.product ≠ ProductNumber.default := by decide
  have hshown : ProductNumber.shown standard.product (.ofList [.mouse]) = 0x400A := by decide
  obtain ⟨hread, hstandard, -⟩ := descriptor_tells_five_roles standard
  refine ⟨hdefault, hchosen, ?_, ?_, ?_, ?_⟩
  · rw [(hread [.mouse]).2, hshown]
  · exact (hstandard hdefault _ _).1.mpr (by decide)
  · exact fun hsame => absurd ((hstandard hdefault _ _).1.mp hsame) (by decide)
  · exact ((descriptor_tells_five_roles chosen).2.2 hchosen _ _).2

end Identity

end UsbComposite
