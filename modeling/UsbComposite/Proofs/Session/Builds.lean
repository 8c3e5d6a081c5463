import UsbComposite.Proofs.Session.Stability
import UsbComposite.Proofs.Session.Start

/-!
# Built descriptors depend on the roles alone

A device can reach its descriptors by many routes: all at once or one after the other, by its owner
or by a start that succeeds or fails, before or after its identity is replaced. Whatever the route,
what it keeps is what its roles alone determine.

* `Arises`: how a device of given roles may have come about, alone or behind controllers;
* `Arises.wellBuilt`: what such a device keeps is what would be built anew;
* `sameBuilds`: so any two devices of the same roles that have built something have built the same;
* `buildsSafely`: building never fails, and where its product exists it changes nothing.
-/

namespace UsbComposite

open Session (Moves prepare_ok)

namespace Device

/-- The ways in which a device of the given roles comes about: it is made, it lives through an act of
its owner, or through anything that happens in a session. -/
inductive Arises (roles : RoleSet) : Device → Prop
  | made (medium : Medium) : Arises roles (make roles medium)
  | acted {device : Device} (act : Act) : Arises roles device → Arises roles (device.act act)
  | passed {first last : Session} {log : List Occurrence} :
      Moves first log last → Arises roles first.device → Arises roles last.device

/-- However it came about, a device has lived through acts from its making on. -/
theorem Arises.exists_acts {roles : RoleSet} {device : Device} (h : device.Arises roles) :
    ∃ medium acts, device = (make roles medium).live acts := by
  induction h with
  | made medium => exact ⟨medium, [], rfl⟩
  | acted act _ ih =>
    obtain ⟨medium, acts, rfl⟩ := ih
    exact ⟨medium, acts ++ [act], by rw [live_append]; rfl⟩
  | passed hmoves _ ih =>
    obtain ⟨medium, acts, hacts⟩ := ih
    obtain ⟨later, hlater⟩ := Session.exists_acts_of_moves hmoves
    exact ⟨medium, acts ++ later, by rw [live_append, ← hacts, hlater]⟩

theorem Arises.roles_eq {roles : RoleSet} {device : Device} (h : device.Arises roles) :
    device.roles = roles := by
  obtain ⟨medium, acts, rfl⟩ := h.exists_acts
  exact (continues_live (make roles medium) acts).roles

/-- **What a device keeps is what would be built anew**, by whatever route it came about. -/
theorem Arises.wellBuilt {roles : RoleSet} {device : Device} (h : device.Arises roles) :
    device.WellBuilt := by
  obtain ⟨medium, acts, rfl⟩ := h.exists_acts
  exact wellBuilt_live (wellBuilt_make roles medium) acts

theorem Arises.live {roles : RoleSet} {device : Device} (h : device.Arises roles)
    (acts : List Act) : (device.live acts).Arises roles := by
  induction acts generalizing device with
  | nil => exact h
  | cons act rest ih => exact ih (.acted act h)

/-! ### Two devices of the same roles -/

/-- Whatever both devices have built is the same. -/
structure SameBuilds (first second : Device) : Prop where
  reports : ∀ built built', first.reports = some built → second.reports = some built' →
    built = built'
  configuration : ∀ bytes bytes', first.configuration = some bytes →
    second.configuration = some bytes' → bytes = bytes'

/-- The lengths that a configuration names are those of the report descriptors. -/
theorem reportLengths_of_reports {first second : Device} (h : first.reports = second.reports) :
    first.reportLengths = second.reportLengths := by
  simp only [reportLengths, sharedReport, rawReport, h]

/-- **Two devices of the same roles have built the same.** -/
theorem sameBuilds {first second : Device} (h : first.WellBuilt) (h' : second.WellBuilt)
    (roles : first.roles = second.roles) : SameBuilds first second := by
  have hreports : ∀ built built', first.reports = some built → second.reports = some built' →
      built = built' := by
    intro built built' hbuilt hbuilt'
    obtain ⟨hshared, hraw⟩ := h.reports built hbuilt
    obtain ⟨hshared', hraw'⟩ := h'.reports built' hbuilt'
    rw [roles, hshared'] at hshared
    rw [roles, hraw'] at hraw
    obtain ⟨shared, raw⟩ := built
    obtain ⟨shared', raw'⟩ := built'
    cases Except.ok.inj hshared
    cases Except.ok.inj hraw
    rfl
  refine ⟨hreports, ?_⟩
  intro bytes bytes' hbytes hbytes'
  obtain ⟨hsome, hencode⟩ := h.configuration bytes hbytes
  obtain ⟨hsome', hencode'⟩ := h'.configuration bytes' hbytes'
  obtain ⟨built, hbuilt⟩ := Option.isSome_iff_exists.mp hsome
  obtain ⟨built', hbuilt'⟩ := Option.isSome_iff_exists.mp hsome'
  -- the report descriptors agree, hence the lengths that the configurations name
  have hlengths : first.reportLengths = second.reportLengths := by
    apply reportLengths_of_reports
    rw [hbuilt, hbuilt', hreports built built' hbuilt hbuilt']
  rw [roles, hlengths, hencode'] at hencode
  exact (Except.ok.inj hencode).symm

/-! ### Building -/

/-- Building succeeds, leaves its product, and does nothing where the product exists. -/
structure BuildsSafely (device : Device) : Prop where
  reports : device.buildReports.2 = .ok () ∧ device.buildReports.1.reports.isSome = true
  configuration : device.buildConfiguration.2 = .ok () ∧
    device.buildConfiguration.1.isPrepared = true
  everything : device.prepare.2 = .ok () ∧ device.prepare.1.isPrepared = true
  reports_kept : device.reports.isSome = true → device.buildReports = (device, .ok ())
  configuration_kept : device.isPrepared = true → device.buildConfiguration = (device, .ok ())
  everything_kept : device.isPrepared = true → device.prepare = (device, .ok ())

theorem buildReports_of_reports {device : Device} (h : device.reports.isSome = true) :
    device.buildReports = (device, .ok ()) := by
  obtain ⟨reports, hreports⟩ := Option.isSome_iff_exists.mp h
  unfold buildReports
  rw [hreports]

theorem prepare_of_isPrepared {device : Device} (h : device.isPrepared = true) :
    device.prepare = (device, .ok ()) := by
  obtain ⟨bytes, hbytes⟩ := Option.isSome_iff_exists.mp h
  unfold prepare buildConfiguration
  rw [hbytes]

/-- **Every device builds safely**, whatever it has built before. -/
theorem buildsSafely (device : Device) : device.BuildsSafely where
  reports := ⟨buildReports_ok device,
    reports_of_buildReports (Prod.ext rfl (buildReports_ok device))⟩
  configuration := ⟨prepare_ok device, isPrepared_prepare device⟩
  everything := ⟨prepare_ok device, isPrepared_prepare device⟩
  reports_kept := buildReports_of_reports
  configuration_kept := prepare_of_isPrepared
  everything_kept := prepare_of_isPrepared

end Device

/-! ### Building behind a controller -/

/-- Whether a setup is a call to build descriptors. -/
def Setup.builds : Setup → Bool
  | .buildReports | .buildConfiguration | .prepare => true
  | .replaceIdentity _ | .start => false

namespace Session

/-- Building succeeds behind a controller too: calls to build answer that all went well, a start has
no outcome but its three, and one on a prepared device leaves the device alone. -/
structure BuildsSafely (session : Session) : Prop where
  outcome : ∀ setup, Setup.builds setup = true →
    (session.performSetup setup).answer = .outcome (.ok ())
  startup : session.start.answer = .startup (.ok .started) ∨
    session.start.answer = .startup (.ok .alreadyRunning) ∨
    session.start.answer = .startup (.error .noInterruptLine)
  kept : session.device.isPrepared = true → session.start.session.device = session.device

theorem buildsSafely (session : Session) : session.BuildsSafely := by
  constructor
  case outcome =>
    intro setup hbuilds
    cases setup with
    | buildReports =>
      exact congrArg Answer.outcome (Device.buildReports_ok session.device)
    | buildConfiguration => exact congrArg Answer.outcome (prepare_ok session.device)
    | prepare => exact congrArg Answer.outcome (prepare_ok session.device)
    | replaceIdentity identity => cases hbuilds
    | start => cases hbuilds
  case startup =>
    cases hflag : session.engine.initialized with
    | true => exact .inr (.inl ((startsInOrder session).running.mpr hflag))
    | false =>
      cases hnext : session.platform.next with
      | none => exact .inr (.inr ((startsInOrder session).unavailable.mpr ⟨hflag, hnext⟩))
      | some line =>
        exact .inl ((startsInOrder session).started.mpr ⟨hflag, by rw [hnext]; simp⟩)
  case kept =>
    intro prepared
    have hprepare := Device.prepare_of_isPrepared prepared
    obtain hsame | hprepared := start_device_cases session
    · exact hsame
    · rw [hprepared, hprepare]

end Session

/-! ### The roles alone -/

namespace Device

/-- **Built descriptors depend on the roles alone.** Any two devices of the same roles, alone or
behind controllers and by whatever routes they came about, have the same report descriptors and the
same configuration as far as they have built them. The report descriptors are what the builders give
for the roles; a configuration is the encoding of their layout with the lengths of the report
descriptors, and is present only with these. Every device and every session builds safely at any
time. -/
theorem built_by_roles_alone {roles : RoleSet} {first second : Device} (h : first.Arises roles)
    (h' : second.Arises roles) :
    SameBuilds first second ∧
    (∀ built, first.reports = some built →
      ReportDescriptor.shared roles = .ok built.shared ∧
        ReportDescriptor.raw roles = .ok built.raw) ∧
    (∀ bytes, first.configuration = some bytes →
      first.reports.isSome = true ∧
        Configuration.encode (.ofRoles roles)
          ⟨(first.sharedReport.map List.length).getD 0,
            (first.rawReport.map List.length).getD 0⟩ = .ok bytes) ∧
    first.BuildsSafely ∧
    ∀ session : Session, session.device = first → session.BuildsSafely := by
  have hroles : first.roles = second.roles := h.roles_eq.trans h'.roles_eq.symm
  have hbuilt := h.wellBuilt
  refine ⟨sameBuilds hbuilt h'.wellBuilt hroles, ?_, ?_, buildsSafely first,
    fun session _ => session.buildsSafely⟩
  · intro built hreports
    rw [← h.roles_eq]
    exact hbuilt.reports built hreports
  · intro bytes hbytes
    rw [← h.roles_eq]
    exact hbuilt.configuration bytes hbytes

/-- A keyboard that builds its report descriptors, then gets a new identity and then is prepared, and
one that is started without an interrupt line, behind another medium and another board: both are
prepared in the end, with one configuration. -/
theorem built_by_roles_alone_keyboard :
    let roles := RoleSet.ofList [.keyboard]
    let first := (make roles .absent).live
      [.buildReports, .replaceIdentity { serial := "7" }, .prepare]
    let scenario : Scenario :=
      ⟨roles, .ram (.blank 512), .replicate 8 0x1D, [], false, true, [.string 3 0x0409]⟩
    let second := (scenario.session.run [.setup .start, .action (.single .runInline)]).1.device
    first.Arises roles ∧ second.Arises roles ∧
      first.isPrepared = true ∧ second.isPrepared = true ∧
      first.configuration = second.configuration := by
  intro roles first scenario second
  have hfirst : first.Arises roles := Arises.live (.made .absent) _
  have hsecond : second.Arises roles :=
    .passed (Session.moves_run scenario.session_token _).1 (.made (.ram (.blank 512)))
  have hprepared : first.isPrepared = true := by decide +kernel
  have hprepared' : second.isPrepared = true := by decide +kernel
  obtain ⟨bytes, hbytes⟩ := Option.isSome_iff_exists.mp hprepared
  obtain ⟨bytes', hbytes'⟩ := Option.isSome_iff_exists.mp hprepared'
  obtain ⟨hsame, -⟩ := built_by_roles_alone hfirst hsecond
  refine ⟨hfirst, hsecond, hprepared, hprepared', ?_⟩
  rw [hbytes, hbytes', hsame.configuration bytes bytes' hbytes hbytes']

end Device

end UsbComposite
