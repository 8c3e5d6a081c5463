import UsbComposite.Proofs.Session.Asks
import UsbComposite.Proofs.Session.Stability
import UsbComposite.Proofs.Session.Start

/-!
# The identity is replaced at most once

Two things lock the identity: that it was replaced before, and that the configuration was built. The
first is done by one setup, the second by three, of which a start does it even if it then finds no
interrupt line, but not if it finds the engine initialized. The descriptor of the device is kept as
bytes beside the identity and has to follow it.

The **record** of a session lists its setups with their answers. It tells all there is to know:

* `Reflects.open_iff`: it decides whether the identity of a device can be replaced;
* `reflects_performSetup`: a setup keeps a device that reflects its record;
* `reflects_run`: so the device of every session reflects the record.
-/

namespace UsbComposite

/-! ### Records -/

/-- The setups among steps, each with its answer. -/
def setupRecord (steps : List Step) (entries : List Entry) : List (Setup × Answer) :=
  (steps.zip entries).filterMap fun
    | (.setup setup, .answered answer _) => some (setup, answer)
    | _ => none

/-- The identity that a setup has put in place. -/
def replaced? : Setup × Answer → Option Identity
  | (.replaceIdentity identity, .outcome (.ok ())) => some identity
  | _ => none

/-- The identities that were put in place, oldest first. -/
def replacements (record : List (Setup × Answer)) : List Identity :=
  record.filterMap replaced?

/-- Whether a setup built the configuration. A start does, whatever comes of it, unless it found the
engine initialized. -/
def configures : Setup × Answer → Bool
  | (.buildConfiguration, _) | (.prepare, _) => true
  | (.start, answer) => answer != .startup (.ok .alreadyRunning)
  | (.buildReports, _) | (.replaceIdentity _, _) => false

namespace Device

/-- A device is what its record of setups makes of a new one. -/
structure Reflects (record : List (Setup × Answer)) (device : Device) : Prop where
  replaced : device.identityReplaced = !(replacements record).isEmpty
  prepared : device.isPrepared = record.any configures
  identity : device.identity = (replacements record).headD {}
  once : (replacements record).length ≤ 1
  /-- The bytes that are kept are never stale. -/
  descriptor : device.descriptor = device.identity.deviceDescriptor device.roles

theorem reflects_make (roles : RoleSet) (medium : Medium) : (make roles medium).Reflects [] :=
  ⟨rfl, rfl, rfl, Nat.zero_le 1, rfl⟩

theorem Reflects.sameSetup {record : List (Setup × Answer)} {first last : Device}
    (h : first.Reflects record) (same : first.SameSetup last) : last.Reflects record where
  replaced := same.identityReplaced.trans h.replaced
  prepared := by rw [← h.prepared, isPrepared, isPrepared, same.configuration]
  identity := same.identity.trans h.identity
  once := h.once
  descriptor := by rw [same.descriptor, same.identity, same.roles, h.descriptor]

/-- The record with a setup that puts no identity in place. -/
theorem Reflects.append {record : List (Setup × Answer)} {first last : Device}
    (h : first.Reflects record) {setup : Setup × Answer} (hsetup : replaced? setup = none)
    (roles : last.roles = first.roles) (identity : last.identity = first.identity)
    (identityReplaced : last.identityReplaced = first.identityReplaced)
    (descriptor : last.descriptor = first.descriptor)
    (prepared : last.isPrepared = (first.isPrepared || configures setup)) :
    last.Reflects (record ++ [setup]) := by
  have hsame : replacements (record ++ [setup]) = replacements record := by
    rw [replacements, List.filterMap_append, List.filterMap_cons, hsetup, List.filterMap_nil,
      List.append_nil, ← replacements]
  constructor
  case replaced => rw [hsame, identityReplaced, h.replaced]
  case prepared =>
    rw [prepared, h.prepared, List.any_append, List.any_cons, List.any_nil, Bool.or_false]
  case identity => rw [hsame, identity, h.identity]
  case once =>
    rw [hsame]
    exact h.once
  case descriptor => rw [descriptor, identity, roles, h.descriptor]

/-- What locks the identity can be told from the record. -/
theorem Reflects.open_iff {record : List (Setup × Answer)} {device : Device}
    (h : device.Reflects record) :
    device.identityReplaced = false ∧ device.isPrepared = false ↔
      replacements record = [] ∧ ∀ setup ∈ record, configures setup = false := by
  rw [h.replaced, h.prepared, Bool.not_eq_false', List.isEmpty_iff, List.any_eq_false]
  simp only [Bool.not_eq_true]

/-! ### One setup -/

theorem replaceIdentity_of_open {device : Device} (replaced : device.identityReplaced = false)
    (prepared : device.isPrepared = false) (identity : Identity) :
    device.replaceIdentity identity =
      ({ device with
          identity := identity
          identityReplaced := true
          descriptor := identity.deviceDescriptor device.roles },
        .ok ()) := by
  rw [replaceIdentity, replaced, prepared]
  rfl

theorem replaceIdentity_of_locked {device : Device}
    (h : ¬ (device.identityReplaced = false ∧ device.isPrepared = false)) (identity : Identity) :
    device.replaceIdentity identity = (device, .error .identityLocked) := by
  rw [replaceIdentity, if_pos]
  rw [Bool.or_eq_true]
  by_contra hopen
  rw [not_or, Bool.not_eq_true, Bool.not_eq_true] at hopen
  exact h hopen

theorem Reflects.replaceIdentity {record : List (Setup × Answer)} {device : Device}
    (h : device.Reflects record) (identity : Identity) :
    (device.replaceIdentity identity).1.Reflects
      (record ++ [(.replaceIdentity identity,
        .outcome (device.replaceIdentity identity).2)]) := by
  by_cases hopen : device.identityReplaced = false ∧ device.isPrepared = false
  · rw [replaceIdentity_of_open hopen.1 hopen.2]
    have hnone : replacements record = [] := (h.open_iff.mp hopen).1
    have hone : replacements (record ++ [(.replaceIdentity identity, .outcome (.ok ()))]) =
        [identity] := by
      rw [replacements, List.filterMap_append, ← replacements, hnone]
      rfl
    constructor
    case replaced =>
      rw [hone]
      rfl
    case prepared =>
      rw [List.any_append, ← h.prepared]
      exact (Bool.or_false _).symm
    case identity =>
      rw [hone]
      rfl
    case once =>
      rw [hone]
      exact Nat.le_refl 1
    case descriptor => rfl
  · rw [replaceIdentity_of_locked hopen]
    exact h.append rfl rfl rfl rfl rfl (Bool.or_false _).symm

theorem Reflects.buildReports {record : List (Setup × Answer)} {device : Device}
    (h : device.Reflects record) (answer : Answer) :
    device.buildReports.1.Reflects (record ++ [(.buildReports, answer)]) := by
  obtain ⟨reports, hbuilt⟩ := exists_buildReports_eq device
  rw [hbuilt]
  exact h.append rfl rfl rfl rfl rfl (Bool.or_false _).symm

/-- The record with a setup that builds the configuration. -/
theorem Reflects.prepare {record : List (Setup × Answer)} {device : Device}
    (h : device.Reflects record) {setup : Setup × Answer} (hsetup : replaced? setup = none)
    (hconfigures : configures setup = true) :
    device.prepare.1.Reflects (record ++ [setup]) := by
  have hprepared : device.prepare.1.isPrepared = (device.isPrepared || configures setup) := by
    rw [isPrepared_prepare, hconfigures, Bool.or_true]
  obtain ⟨reports, configuration, hbuilt⟩ := exists_buildConfiguration_eq device
  rw [Device.prepare, hbuilt] at hprepared ⊢
  exact h.append hsetup rfl rfl rfl rfl hprepared

end Device

/-! ### Sessions -/

namespace Session

open Occurrence (exchange?)

theorem reflects_start {record : List (Setup × Answer)} {session : Session}
    (h : session.device.Reflects record) :
    session.start.session.device.Reflects (record ++ [(.start, session.start.answer)]) := by
  cases hflag : session.engine.initialized with
  | true =>
    rw [start_of_initialized hflag]
    exact h.append rfl rfl rfl rfl rfl (Bool.or_false _).symm
  | false =>
    rw [start_of_next hflag]
    cases session.platform.next with
    | none => exact h.prepare rfl rfl
    | some line => exact h.prepare rfl rfl

/-- **A setup keeps a device that reflects its record.** -/
theorem reflects_performSetup {record : List (Setup × Answer)} {session : Session}
    (h : session.device.Reflects record) (setup : Setup) :
    (session.performSetup setup).session.device.Reflects
      (record ++ [(setup, (session.performSetup setup).answer)]) := by
  cases setup with
  | replaceIdentity identity => exact h.replaceIdentity identity
  | buildReports => exact h.buildReports _
  | buildConfiguration => exact h.prepare rfl rfl
  | prepare => exact h.prepare rfl rfl
  | start => exact reflects_start h

/-- **The device of a session reflects its record.** -/
theorem reflects_run {record : List (Setup × Answer)} {session : Session}
    (h : session.device.Reflects record) (steps : List Step) :
    (session.run steps).1.device.Reflects
      (record ++ setupRecord steps (session.run steps).2) := by
  induction steps generalizing session record with
  | nil =>
    rw [setupRecord, List.zip_nil_left, List.filterMap_nil, List.append_nil]
    exact h
  | cons step rest ih =>
    cases step with
    | setup setup =>
      have hrest := ih (reflects_performSetup h setup)
      rw [List.append_assoc] at hrest
      exact hrest
    | action action =>
      have hsame := (accounted_perform session action).attends.sameSetup.2
      have hrecord : setupRecord (.action action :: rest) (session.run (.action action :: rest)).2 =
          setupRecord rest ((session.step (.action action)).1.run rest).2 := rfl
      rw [hrecord]
      exact ih (h.sameSetup hsame)

/-! ### Asking for the descriptor -/

/-- The request and the reply that are sighted, if any. -/
def exchanged? : Sighting → Option (Request × Reply)
  | .exchanged request reply => some (request, reply)
  | .boardRead => none

theorem exchange?_eq_bind (occurrence : Occurrence) :
    occurrence.exchange? = occurrence.sighting?.bind exchanged? := by
  cases occurrence with
  | event event =>
    cases event with
    | effect effect => cases effect <;> rfl
    | _ => rfl
  | answer answer => cases answer <;> rfl
  | taken => rfl
  | released => rfl

theorem exchanged_sightings (ask : Ask) :
    ask.sightings.filterMap exchanged? = [(ask.request, ask.reply)] := by
  rw [Ask.sightings]
  cases ask.reads <;> rfl

/-- The requests of a log with their replies are those of its asks. -/
theorem exchanges_of_accounted {first last : Session} {asks : List Ask} {log : List Occurrence}
    (h : Accounted first asks log last) :
    log.filterMap exchange? = asks.map fun ask => (ask.request, ask.reply) := by
  have hlog : log.filterMap exchange? =
      (log.filterMap Occurrence.sighting?).filterMap exchanged? := by
    rw [List.filterMap_filterMap]
    exact List.filterMap_congr fun occurrence _ => exchange?_eq_bind occurrence
  have hasks : ∀ asks : List Ask, (asks.flatMap Ask.sightings).filterMap exchanged? =
      asks.map fun ask => (ask.request, ask.reply) := by
    intro asks
    induction asks with
    | nil => rfl
    | cons ask rest ih =>
      rw [List.flatMap_cons, List.filterMap_append, exchanged_sightings, ih]
      rfl
  rw [hlog, h.sightings, hasks]

/-- Whenever the host asks for the descriptor of the device on the way, it gets the bytes that were
kept before. -/
theorem deviceDescriptor_of_accounted {first last : Session} {asks : List Ask}
    {log : List Occurrence} (h : Accounted first asks log last) {exchange : Request × Reply}
    (hexchange : exchange ∈ log.filterMap exchange?) (hrequest : exchange.1 = .deviceDescriptor) :
    exchange.2 = .bytes first.device.descriptor := by
  rw [exchanges_of_accounted h] at hexchange
  obtain ⟨ask, hask, rfl⟩ := List.mem_map.mp hexchange
  have hsame := h.attends.sameSetup.1 ask hask
  have hask : ask.request = .deviceDescriptor := hrequest
  show ask.reply = _
  rw [Ask.reply, Ask.response, hask, ← hsame.descriptor]
  rfl

/-! ### All of it together -/

/-- A session has an identity and keeps these bytes as the descriptor of its device, from now on up to
the next setup. -/
structure Shows (session : Session) (shown : Identity) (bytes : List UInt8) : Prop where
  identity : session.device.identity = shown
  descriptor : session.device.descriptor = bytes
  /-- Inside a hold too. -/
  inside : ∀ body, (performAll body session.take).1.device.identity = shown ∧
    (performAll body session.take).1.device.descriptor = bytes
  /-- The host is told nothing else, in whatever way it asks. -/
  replies : ∀ action, ∀ exchange ∈ Entry.exchanges [(perform action session).2],
    exchange.1 = .deviceDescriptor → exchange.2 = .bytes bytes

theorem shows_of_device (session : Session) :
    session.Shows session.device.identity session.device.descriptor := by
  constructor
  case identity => rfl
  case descriptor => rfl
  case inside =>
    intro body
    have hsame :=
      (accounted_performAll session.take_held body).attends.sameSetup.2
    exact ⟨hsame.identity, hsame.descriptor⟩
  case replies =>
    intro action exchange hexchange hrequest
    rw [Entry.exchanges_eq, Entry.logAll, Entry.logAll, List.append_nil] at hexchange
    exact deviceDescriptor_of_accounted (accounted_perform session action) hexchange hrequest

/-- What replacing the identity comes to, told from the record. -/
structure Replaces (session : Session) (record : List (Setup × Answer)) (wanted : Identity) :
    Prop where
  ok_iff : (session.performSetup (.replaceIdentity wanted)).answer = .outcome (.ok ()) ↔
    replacements record = [] ∧ ∀ setup ∈ record, configures setup = false
  refused : (session.performSetup (.replaceIdentity wanted)).answer ≠ .outcome (.ok ()) →
    (session.performSetup (.replaceIdentity wanted)).answer =
        .outcome (.error .identityLocked) ∧
      (session.performSetup (.replaceIdentity wanted)).session = session

theorem replaces_of_reflects {record : List (Setup × Answer)} {session : Session}
    (h : session.device.Reflects record) (wanted : Identity) :
    session.Replaces record wanted := by
  by_cases hopen : session.device.identityReplaced = false ∧ session.device.isPrepared = false
  · have hdone : (session.performSetup (.replaceIdentity wanted)).answer = .outcome (.ok ()) := by
      simp only [performSetup, onDevice, Device.replaceIdentity_of_open hopen.1 hopen.2]
    exact ⟨iff_of_true hdone (h.open_iff.mp hopen), fun hnot => absurd hdone hnot⟩
  · have hlocked : session.performSetup (.replaceIdentity wanted) =
        ⟨session, .outcome (.error .identityLocked), []⟩ := by
      simp only [performSetup, onDevice, Device.replaceIdentity_of_locked hopen]
    constructor
    · rw [hlocked, ← h.open_iff]
      exact iff_of_false (by simp) hopen
    · rw [hlocked]
      exact fun _ => ⟨rfl, rfl⟩

/-- **The identity is replaced at most once, and the descriptor is never stale.** After any steps, the
identity can be replaced exactly if no earlier setup replaced it and none built the configuration;
otherwise it is locked, and nothing at all changes. The identity is the one that was put in place, or
the default one, and the descriptor of the device, kept or shown to the host in whatever follows, is
that of this identity and the roles. -/
theorem identity_replaced_once (scenario : Scenario) (steps : List Step) :
    let now := (scenario.session.run steps).1
    let record := setupRecord steps (scenario.session.run steps).2
    let identity := (replacements record).headD {}
    (∀ wanted, now.Replaces record wanted) ∧
    (replacements record).length ≤ 1 ∧
    now.Shows identity (Descriptor.device identity.vendor
      (ProductNumber.shown identity.product scenario.roles)).encode := by
  intro now record identity
  have hnew : scenario.session.device.Reflects [] :=
    Device.reflects_make scenario.roles scenario.medium
  have hreflects : now.device.Reflects record := reflects_run hnew steps
  have hroles : now.device.roles = scenario.roles := by
    obtain ⟨acts, hacts⟩ := exists_acts_of_moves (moves_run scenario.session_token steps).1
    rw [show now.device = _ from hacts]
    exact (Device.continues_live _ acts).roles
  have hdescriptor : now.device.descriptor = identity.deviceDescriptor scenario.roles := by
    rw [hreflects.descriptor, hreflects.identity, hroles]
  refine ⟨replaces_of_reflects hreflects, hreflects.once, ?_⟩
  have hshows := shows_of_device now
  rw [hreflects.identity, hdescriptor] at hshows
  exact hshows

/-- A start locks the identity also where it finds no interrupt line, and building the report
descriptors does not. -/
example :
    let session := { Scenario.keyboard with lines := [] }.session
    let replace : Step := .setup (.replaceIdentity { vendor := 1 })
    Entry.answers (session.run [.setup .start, replace]).2 =
        [.startup (.error .noInterruptLine), .outcome (.error .identityLocked)] ∧
      Entry.answers (session.run [.setup .buildReports, replace]).2 =
        [.outcome (.ok ()), .outcome (.ok ())] := by
  decide +kernel

end Session

end UsbComposite
