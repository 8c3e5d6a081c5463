import UsbComposite.Device.Request

/-!
# The life of a device

Whoever owns a device may replace its identity, subscribe listeners, build descriptors and hand on
requests of the host, in any order and as often as they like. Each of these is an **act**, and a
device is where it is by the acts that it lived through.

Two facts about single acts carry everything that holds along a life:

* `continues_act`: what was built or generated once is kept, and the identity is kept once the device
  is prepared;
* `wellBuilt_act`: what is kept is what would be built anew.
-/

namespace UsbComposite

namespace Device

/-- Something that a device lives through. -/
inductive Act
  | replaceIdentity (identity : Identity)
  | subscribe (listener : Listener)
  | buildReports
  | buildConfiguration
  | prepare
  /-- A request, on a board that answers `board` when its identifier is read. -/
  | respond (board : BoardId) (request : Request)
deriving DecidableEq

/-- The device after an act. -/
def act (device : Device) : Act → Device
  | .replaceIdentity identity => (device.replaceIdentity identity).1
  | .subscribe listener => (device.subscribe listener).1
  | .buildReports => device.buildReports.1
  | .buildConfiguration => device.buildConfiguration.1
  | .prepare => device.prepare.1
  | .respond board request => (device.respond board request).device

/-- The device after a list of acts. -/
def live (device : Device) (acts : List Act) : Device :=
  acts.foldl act device

@[simp] theorem live_nil (device : Device) : device.live [] = device := rfl

@[simp] theorem live_cons (device : Device) (first : Act) (rest : List Act) :
    device.live (first :: rest) = (device.act first).live rest := rfl

@[simp] theorem live_append (device : Device) (acts later : List Act) :
    device.live (acts ++ later) = (device.live acts).live later :=
  List.foldl_append

/-! ### What an act can do -/

/-- Building the report descriptors does nothing, or keeps the two results of the builders. -/
theorem buildReports_cases (device : Device) :
    device.buildReports.1 = device ∨
      device.reports = none ∧ ∃ built : ReportDescriptors,
        ReportDescriptor.shared device.roles = .ok built.shared ∧
        ReportDescriptor.raw device.roles = .ok built.raw ∧
        device.buildReports.1 = { device with reports := some built } := by
  unfold buildReports
  split
  · exact .inl rfl
  · rename_i hnone
    split
    · rename_i shared raw hshared hraw
      exact .inr ⟨hnone, ⟨shared, raw⟩, hshared, hraw, rfl⟩
    · exact .inl rfl
    · exact .inl rfl

/-- Building succeeds only with the report descriptors in place. -/
theorem reports_of_buildReports {device built : Device}
    (h : device.buildReports = (built, .ok ())) : built.reports.isSome = true := by
  unfold buildReports at h
  split at h
  · rename_i reports hsome
    cases h
    rw [hsome]
    rfl
  · split at h
    · cases h
      rfl
    · cases h
    · cases h

/-- Building the configuration does nothing, or builds the report descriptors alone, or builds them
and then keeps the bytes of the configuration that names their lengths. -/
theorem buildConfiguration_cases (device : Device) :
    device.buildConfiguration.1 = device ∨
      device.buildConfiguration.1 = device.buildReports.1 ∨
      device.configuration = none ∧ device.buildReports.1.reports.isSome = true ∧
        ∃ bytes, Configuration.encode (.ofRoles device.buildReports.1.roles)
            device.buildReports.1.reportLengths = .ok bytes ∧
          device.buildConfiguration.1 =
            { device.buildReports.1 with configuration := some bytes } := by
  unfold buildConfiguration
  split
  · exact .inl rfl
  · rename_i hnone
    split
    · rename_i built fault hbuilt
      rw [hbuilt]
      exact .inr (.inl rfl)
    · rename_i built hbuilt
      rw [hbuilt]
      split
      · rename_i bytes hbytes
        exact .inr (.inr ⟨hnone, reports_of_buildReports hbuilt, bytes, hbytes, rfl⟩)
      · exact .inr (.inl rfl)

/-- Building touches nothing but the report descriptors. -/
theorem exists_buildReports_eq (device : Device) :
    ∃ reports, device.buildReports.1 = { device with reports := reports } := by
  obtain hsame | ⟨-, built, -, -, hbuilt⟩ := buildReports_cases device
  · exact ⟨device.reports, hsame⟩
  · exact ⟨some built, hbuilt⟩

/-- Building touches nothing but the report descriptors and the configuration. -/
theorem exists_buildConfiguration_eq (device : Device) :
    ∃ reports configuration, device.buildConfiguration.1 =
      { device with reports := reports, configuration := configuration } := by
  obtain ⟨reports, hreports⟩ := exists_buildReports_eq device
  obtain hsame | hsame | ⟨-, -, bytes, -, hbuilt⟩ := buildConfiguration_cases device
  · exact ⟨device.reports, device.configuration, hsame⟩
  · exact ⟨reports, device.configuration, hsame.trans hreports⟩
  · exact ⟨reports, some bytes, by rw [hbuilt, hreports]⟩

/-- Replacing the identity does nothing, or changes an unprepared device in its identity. -/
theorem replaceIdentity_cases (device : Device) (identity : Identity) :
    (device.replaceIdentity identity).1 = device ∨
      device.isPrepared = false ∧ (device.replaceIdentity identity).1 =
        { device with
          identity := identity
          identityReplaced := true
          descriptor := identity.deviceDescriptor device.roles } := by
  unfold replaceIdentity
  split
  · exact .inl rfl
  · rename_i hopen
    rw [Bool.or_eq_true, not_or, Bool.not_eq_true, Bool.not_eq_true] at hopen
    exact .inr ⟨hopen.2, rfl⟩

/-- **A request changes nothing but the generated serial number**, and this only by showing it. -/
theorem respond_cases (device : Device) (board : BoardId) (request : Request) :
    (device.respond board request).device = device ∨
      (device.respond board request).device = { device with serial := device.serial.shown board } := by
  cases request with
  | string index language =>
    simp only [respond]
    cases StringSlot.ofIndex? index with
    | none => exact .inl rfl
    | some slot =>
      cases slot with
      | serial =>
        simp only [afterString]
        split
        · exact .inr rfl
        · exact .inl rfl
      | _ => exact .inl rfl
  | _ => exact .inl rfl

/-! ### What is kept -/

/-- `later` keeps what `earlier` has built or generated, and its identity once it is prepared. -/
structure Continues (earlier later : Device) : Prop where
  roles : later.roles = earlier.roles
  reports : ∀ built, earlier.reports = some built → later.reports = some built
  configuration : ∀ bytes, earlier.configuration = some bytes → later.configuration = some bytes
  identity : earlier.isPrepared = true →
    later.identity = earlier.identity ∧ later.descriptor = earlier.descriptor
  serial : ∀ text, earlier.serial.generated = some text → later.serial.generated = some text

theorem Continues.refl (device : Device) : device.Continues device :=
  ⟨rfl, fun _ h => h, fun _ h => h, fun _ => ⟨rfl, rfl⟩, fun _ h => h⟩

theorem Continues.prepared {earlier later : Device} (h : earlier.Continues later)
    (prepared : earlier.isPrepared = true) : later.isPrepared = true := by
  obtain ⟨bytes, hbytes⟩ := Option.isSome_iff_exists.mp prepared
  rw [isPrepared, h.configuration bytes hbytes]
  rfl

theorem Continues.trans {first second third : Device} (h : first.Continues second)
    (h' : second.Continues third) : first.Continues third := by
  refine ⟨h'.roles.trans h.roles, fun built hbuilt => h'.reports built (h.reports built hbuilt),
    fun bytes hbytes => h'.configuration bytes (h.configuration bytes hbytes), ?_,
    fun text htext => h'.serial text (h.serial text htext)⟩
  intro prepared
  obtain ⟨hidentity, hdescriptor⟩ := h.identity prepared
  obtain ⟨hidentity', hdescriptor'⟩ := h'.identity (h.prepared prepared)
  exact ⟨hidentity'.trans hidentity, hdescriptor'.trans hdescriptor⟩

theorem continues_buildReports (device : Device) : device.Continues device.buildReports.1 := by
  obtain hsame | ⟨hnone, built, -, -, hbuilt⟩ := buildReports_cases device
  · rw [hsame]
    exact .refl device
  · rw [hbuilt]
    refine ⟨rfl, ?_, fun _ h => h, fun _ => ⟨rfl, rfl⟩, fun _ h => h⟩
    intro reports hreports
    rw [hnone] at hreports
    cases hreports

theorem continues_buildConfiguration (device : Device) :
    device.Continues device.buildConfiguration.1 := by
  obtain hsame | hreports | ⟨hnone, -, bytes, -, hbuilt⟩ := buildConfiguration_cases device
  · rw [hsame]
    exact .refl device
  · rw [hreports]
    exact continues_buildReports device
  · rw [hbuilt]
    have hreports := continues_buildReports device
    refine ⟨hreports.roles, hreports.reports, ?_, hreports.identity, hreports.serial⟩
    intro earlier hearlier
    rw [hnone] at hearlier
    cases hearlier

/-- **An act keeps what there is.** -/
theorem continues_act (device : Device) (act : Act) : device.Continues (device.act act) := by
  cases act with
  | replaceIdentity identity =>
    simp only [Device.act]
    obtain hsame | ⟨hopen, hnew⟩ := replaceIdentity_cases device identity
    · rw [hsame]
      exact .refl device
    · rw [hnew]
      refine ⟨rfl, fun _ h => h, fun _ h => h, ?_, fun _ h => h⟩
      intro prepared
      rw [hopen] at prepared
      cases prepared
  | subscribe listener =>
    exact ⟨rfl, fun _ h => h, fun _ h => h, fun _ => ⟨rfl, rfl⟩, fun _ h => h⟩
  | buildReports => exact continues_buildReports device
  | buildConfiguration => exact continues_buildConfiguration device
  | prepare => exact continues_buildConfiguration device
  | respond board request =>
    simp only [Device.act]
    obtain hsame | hshown := respond_cases device board request
    · rw [hsame]
      exact .refl device
    · rw [hshown]
      refine ⟨rfl, fun _ h => h, fun _ h => h, fun _ => ⟨rfl, rfl⟩, ?_⟩
      intro text htext
      simp only [SerialNumber.shown, SerialNumber.text, htext, Option.getD_some]

theorem continues_live (device : Device) (acts : List Act) :
    device.Continues (device.live acts) := by
  induction acts generalizing device with
  | nil => exact .refl device
  | cons act rest ih => exact (continues_act device act).trans (ih _)

/-- Whether an act builds the report descriptors. -/
def Act.builds : Act → Bool
  | .buildReports | .buildConfiguration | .prepare => true
  | .replaceIdentity _ | .subscribe _ | .respond _ _ => false

theorem reports_act {act : Act} (h : act.builds = false) (device : Device) :
    (device.act act).reports = device.reports := by
  cases act with
  | replaceIdentity identity =>
    simp only [Device.act]
    obtain hsame | ⟨-, hnew⟩ := replaceIdentity_cases device identity
    · rw [hsame]
    · rw [hnew]
  | subscribe listener => rfl
  | respond board request =>
    simp only [Device.act]
    obtain hsame | hshown := respond_cases device board request
    · rw [hsame]
    · rw [hshown]
  | buildReports => cases h
  | buildConfiguration => cases h
  | prepare => cases h

/-- A life without building has no report descriptors to show but those at its beginning. -/
theorem reports_live {acts : List Act} (h : ∀ act ∈ acts, act.builds = false) (device : Device) :
    (device.live acts).reports = device.reports := by
  induction acts generalizing device with
  | nil => rfl
  | cons act rest ih =>
    obtain ⟨hact, hrest⟩ := List.forall_mem_cons.mp h
    rw [live_cons, ih hrest, reports_act hact]

/-! ### What is built -/

/-- What a device has built is what would be built anew: the report descriptors are those of its
roles, and a configuration is present only with them and names their lengths. -/
structure WellBuilt (device : Device) : Prop where
  reports : ∀ built, device.reports = some built →
    ReportDescriptor.shared device.roles = .ok built.shared ∧
      ReportDescriptor.raw device.roles = .ok built.raw
  configuration : ∀ bytes, device.configuration = some bytes →
    device.reports.isSome = true ∧
      Configuration.encode (.ofRoles device.roles) device.reportLengths = .ok bytes

theorem wellBuilt_make (roles : RoleSet) (medium : Medium) : (make roles medium).WellBuilt := by
  refine ⟨?_, ?_⟩
  · intro built hbuilt
    cases hbuilt
  · intro bytes hbytes
    cases hbytes

theorem wellBuilt_buildReports {device : Device} (h : device.WellBuilt) :
    device.buildReports.1.WellBuilt := by
  obtain hsame | ⟨hnone, built, hshared, hraw, hbuilt⟩ := buildReports_cases device
  · rwa [hsame]
  · rw [hbuilt]
    refine ⟨?_, ?_⟩
    · intro reports hreports
      cases hreports
      exact ⟨hshared, hraw⟩
    · intro bytes hbytes
      -- a configuration would have been built with report descriptors
      have hsome := (h.configuration bytes hbytes).1
      rw [hnone] at hsome
      cases hsome

theorem wellBuilt_buildConfiguration {device : Device} (h : device.WellBuilt) :
    device.buildConfiguration.1.WellBuilt := by
  obtain hsame | hreports | ⟨-, hsome, bytes, hbytes, hbuilt⟩ := buildConfiguration_cases device
  · rwa [hsame]
  · rw [hreports]
    exact wellBuilt_buildReports h
  · rw [hbuilt]
    refine ⟨(wellBuilt_buildReports h).reports, ?_⟩
    intro later hlater
    cases hlater
    exact ⟨hsome, hbytes⟩

/-- **An act keeps a device well built.** -/
theorem wellBuilt_act {device : Device} (h : device.WellBuilt) (act : Act) :
    (device.act act).WellBuilt := by
  cases act with
  | replaceIdentity identity =>
    simp only [Device.act]
    obtain hsame | ⟨-, hnew⟩ := replaceIdentity_cases device identity
    · rwa [hsame]
    · rw [hnew]
      exact ⟨h.reports, h.configuration⟩
  | subscribe listener => exact ⟨h.reports, h.configuration⟩
  | buildReports => exact wellBuilt_buildReports h
  | buildConfiguration => exact wellBuilt_buildConfiguration h
  | prepare => exact wellBuilt_buildConfiguration h
  | respond board request =>
    simp only [Device.act]
    obtain hsame | hshown := respond_cases device board request
    · rwa [hsame]
    · rw [hshown]
      exact ⟨h.reports, h.configuration⟩

theorem wellBuilt_live {device : Device} (h : device.WellBuilt) (acts : List Act) :
    (device.live acts).WellBuilt := by
  induction acts generalizing device with
  | nil => exact h
  | cons act rest ih => exact ih (wellBuilt_act h act)

end Device

end UsbComposite
