/-!
# Faults

Every operation that can fail fails for one of six causes. A **fault** is such a cause; the text
shown for it is `Fault.message`, and no other part of the library writes an error text.
-/

namespace UsbComposite

/-- The cause of a failed operation. -/
inductive Fault
  /-- A descriptor did not fit into the room kept for it. -/
  | descriptorOverflow
  /-- The identity was replaced before, or the configuration has been built. -/
  | identityLocked
  /-- Every place in the listener table is taken. -/
  | listenerTableFull
  /-- No medium stands behind the storage request. -/
  | mediumNotReady
  /-- The platform has no interrupt line to give. -/
  | noInterruptLine
  /-- Somebody else holds the access token. -/
  | tokenHeld
deriving DecidableEq

/-- The text shown for a fault. -/
def Fault.message : Fault → String
  | .descriptorOverflow => "descriptor buffer overflow"
  | .identityLocked => "device identity is locked"
  | .listenerTableFull => "set-report handler table full"
  | .mediumNotReady => "mass storage not ready"
  | .noInterruptLine => "no interrupt line available"
  | .tokenHeld => "controller access token held"

/-- Distinct causes have distinct texts, so a text names its cause. -/
theorem Fault.message_injective {f g : Fault} (h : f.message = g.message) : f = g := by
  cases f <;> cases g <;> first | rfl | simp [Fault.message] at h

/-- Outcomes can be compared if what they carry can. -/
instance Fault.decidableEqOutcome {α : Type} [DecidableEq α] : DecidableEq (Except Fault α)
  | .ok a, .ok b => decidable_of_iff (a = b) ⟨fun h => h ▸ rfl, fun h => Except.ok.inj h⟩
  | .error f, .error g => decidable_of_iff (f = g) ⟨fun h => h ▸ rfl, fun h => Except.error.inj h⟩
  | .ok _, .error _ => isFalse fun h => by cases h
  | .error _, .ok _ => isFalse fun h => by cases h

end UsbComposite
