import UsbComposite.Proofs.Device.Life

/-!
# Requests in their circumstances

What a device replies depends on the device and the board as they are when the request is put. An
**ask** is a request together with these. Between two asks without setup, nothing happens to a device
but that listeners are subscribed: it **attends** to the asks one after the other.

* `Attends.sameSetup`: attending to asks leaves all that setup has put in place as it is.
-/

namespace UsbComposite

/-- A request put to a device, with the device and the board as they are then. -/
structure Ask where
  device : Device
  board : BoardId
  request : Request

namespace Ask

/-- What the device answers. -/
def response (ask : Ask) : Response :=
  ask.device.respond ask.board ask.request

/-- What the host gets to see. -/
def reply (ask : Ask) : Reply :=
  ask.response.reply

/-- Whether the answer reads the board's identifier. -/
def reads (ask : Ask) : Bool :=
  ask.response.effects.contains .boardRead

end Ask

namespace Device

/-- From `first` on, a device is asked in turn, with subscriptions in between, and becomes the last
one. -/
inductive Attends : Device → List Ask → Device → Prop
  | nil (device : Device) : Attends device [] device
  | ask {device last : Device} {asks : List Ask} (board : BoardId) (request : Request) :
      Attends (device.respond board request).device asks last →
      Attends device (⟨device, board, request⟩ :: asks) last
  | subscribe {device last : Device} {asks : List Ask} (listener : Listener) :
      Attends (device.subscribe listener).1 asks last → Attends device asks last

theorem Attends.append {first second third : Device} {asks later : List Ask}
    (h : first.Attends asks second) (h' : second.Attends later third) :
    first.Attends (asks ++ later) third := by
  induction h with
  | nil => exact h'
  | ask board request _ ih => exact .ask board request (ih h')
  | subscribe listener _ ih => exact .subscribe listener (ih h')

/-- Two devices agree in all that setup puts in place. -/
structure SameSetup (first last : Device) : Prop where
  roles : last.roles = first.roles
  identity : last.identity = first.identity
  identityReplaced : last.identityReplaced = first.identityReplaced
  descriptor : last.descriptor = first.descriptor
  reports : last.reports = first.reports
  configuration : last.configuration = first.configuration

theorem SameSetup.refl (device : Device) : device.SameSetup device :=
  ⟨rfl, rfl, rfl, rfl, rfl, rfl⟩

theorem SameSetup.trans {first second third : Device} (h : first.SameSetup second)
    (h' : second.SameSetup third) : first.SameSetup third :=
  ⟨h'.roles.trans h.roles, h'.identity.trans h.identity,
    h'.identityReplaced.trans h.identityReplaced, h'.descriptor.trans h.descriptor,
    h'.reports.trans h.reports, h'.configuration.trans h.configuration⟩

theorem sameSetup_respond (device : Device) (board : BoardId) (request : Request) :
    device.SameSetup (device.respond board request).device := by
  obtain hsame | hshown := respond_cases device board request
  · rw [hsame]
    exact .refl device
  · rw [hshown]
    exact ⟨rfl, rfl, rfl, rfl, rfl, rfl⟩

theorem sameSetup_subscribe (device : Device) (listener : Listener) :
    device.SameSetup (device.subscribe listener).1 :=
  ⟨rfl, rfl, rfl, rfl, rfl, rfl⟩

/-- **Attending to asks sets nothing up**: every device that is asked on the way, and the last one,
agree with the first in all that setup puts in place. -/
theorem Attends.sameSetup {first last : Device} {asks : List Ask} (h : first.Attends asks last) :
    (∀ ask ∈ asks, first.SameSetup ask.device) ∧ first.SameSetup last := by
  induction h with
  | nil device => exact ⟨by simp, .refl device⟩
  | @ask device _ _ board request _ ih =>
    have hrespond := sameSetup_respond device board request
    refine ⟨?_, hrespond.trans ih.2⟩
    intro ask hask
    rcases List.mem_cons.mp hask with rfl | hask
    · exact .refl _
    · exact hrespond.trans (ih.1 ask hask)
  | @subscribe device _ _ listener _ ih =>
    have hsubscribe := sameSetup_subscribe device listener
    exact ⟨fun ask hask => hsubscribe.trans (ih.1 ask hask), hsubscribe.trans ih.2⟩

end Device

end UsbComposite
