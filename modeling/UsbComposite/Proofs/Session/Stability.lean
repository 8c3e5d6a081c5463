import UsbComposite.Proofs.Device.Life
import UsbComposite.Proofs.Session.Trace

/-!
# The host sees one stable device

Through a session a device lives through acts only, wherever they come from: a step, an action under
a hold, or a request of a task. From the moment it is prepared, whatever it answers to a request for
a descriptor it answers for good.

* `exists_acts_of_moves`: the device after a sequence of moves is the one before after some acts;
* `settled_of_moves`: an answer given by a prepared device is the answer of every later device, on
  any board.

The generated serial number is the one thing that the first request for it decides; it is kept from
then on, and a later change of the board is not seen.
-/

namespace UsbComposite

/-! ### Requests for descriptors -/

/-- Whether two requests ask for the same descriptor. A configuration has no index that matters, and
a string no language that matters. -/
def Request.asksSame : Request → Request → Prop
  | .deviceDescriptor, .deviceDescriptor => True
  | .configuration _, .configuration _ => True
  | .string index _, .string index' _ => index = index'
  | .reportDescriptor number, .reportDescriptor number' => number = number'
  | _, _ => False

namespace Device

/-- A text that was shown is shown again, on any board, as long as the identity and what is generated
are kept. -/
theorem stringText_of_continues {device later : Device} {board board' : BoardId}
    {slot : StringSlot} (identity : later.identity = device.identity)
    (h : (device.afterString board slot).Continues later) :
    later.stringText board' slot = device.stringText board slot := by
  cases slot with
  | serial =>
    simp only [stringText, identity]
    split
    · rename_i hempty
      simp only [afterString, if_pos hempty] at h
      have hkept := h.serial _ rfl
      simp only [SerialNumber.text, hkept, Option.getD_some]
    · rfl
  | _ => simp only [stringText, identity]

/-- **A prepared device answers a request for a descriptor for good**: every device that continues
it gives the same reply, on any board. -/
theorem reply_of_continues {device later : Device} {board board' : BoardId}
    {request request' : Request} (built : device.WellBuilt) (prepared : device.isPrepared = true)
    (same : request.asksSame request')
    (h : (device.respond board request).device.Continues later) :
    (later.respond board' request').reply = (device.respond board request).reply := by
  have hidentity : later.identity = device.identity ∧ later.descriptor = device.descriptor :=
    ((continues_act device (.respond board request)).trans h).identity prepared
  cases request with
  | deviceDescriptor =>
    cases request' with
    | deviceDescriptor => simp only [respond, hidentity.2]
    | _ => cases same
  | configuration index =>
    cases request' with
    | configuration index' =>
      simp only [respond] at h ⊢
      obtain ⟨bytes, hbytes⟩ := Option.isSome_iff_exists.mp prepared
      rw [h.configuration bytes hbytes, hbytes]
    | _ => cases same
  | string index language =>
    cases request' with
    | string index' language' =>
      cases (show index = index' from same)
      simp only [respond] at h ⊢
      cases hslot : StringSlot.ofIndex? index with
      | none => rfl
      | some slot =>
        rw [hslot] at h
        simp only
        rw [stringText_of_continues hidentity.1 h]
    | _ => cases same
  | reportDescriptor number =>
    cases request' with
    | reportDescriptor number' =>
      cases (show number = number' from same)
      simp only [respond] at h ⊢
      obtain ⟨bytes, hbytes⟩ := Option.isSome_iff_exists.mp prepared
      obtain ⟨reports, hreports⟩ :=
        Option.isSome_iff_exists.mp (built.configuration bytes hbytes).1
      have hlater := h.reports reports hreports
      simp only [reportDescriptor, instances, sharedReport, rawReport, h.roles, hreports, hlater]
    | _ => cases same
  | _ => cases request' <;> cases same

end Device

/-! ### The device of a session -/

namespace Session

/-- A task puts its requests to the device, and nothing else. -/
theorem answerAll_fst (board : BoardId) (requests : List Request) (device : Device) :
    (answerAll board requests device).1 = device.live (requests.map (.respond board)) := by
  induction requests generalizing device with
  | nil => rfl
  | cons request rest ih => exact ih _

/-- The device after a start has lived through its preparation, or through nothing. -/
theorem start_device (session : Session) :
    ∃ acts, session.start.session.device = session.device.live acts := by
  obtain hsame | hprepared := start_device_cases session
  · exact ⟨[], hsame⟩
  · exact ⟨[.prepare], hprepared⟩

theorem performSetup_device (session : Session) (setup : Setup) :
    ∃ acts, (session.performSetup setup).session.device = session.device.live acts := by
  cases setup with
  | replaceIdentity identity => exact ⟨[.replaceIdentity identity], rfl⟩
  | buildReports => exact ⟨[.buildReports], rfl⟩
  | buildConfiguration => exact ⟨[.buildConfiguration], rfl⟩
  | prepare => exact ⟨[.prepare], rfl⟩
  | start => exact start_device session

theorem operate_device (session : Session) (operation : Operation) :
    ∃ acts, (session.operate operation).session.device = session.device.live acts := by
  cases hdrives : session.drives operation with
  | true =>
    rw [operate_of_drives hdrives]
    exact ⟨_, answerAll_fst _ _ _⟩
  | false =>
    cases operation with
    | request request => exact ⟨[.respond session.board request], rfl⟩
    | subscribe listener => exact ⟨[.subscribe listener], rfl⟩
    | interrupt => exact ⟨[], by rw [operate_interrupt_of_not_drives hdrives]; rfl⟩
    | inspectEngine =>
      simp only [operate]
      split <;> exact ⟨[], rfl⟩
    | adjustEngine initialized initResult script =>
      simp only [operate]
      split <;> exact ⟨[], rfl⟩
    | runInline => exact ⟨[], by rw [operate_runInline_of_not_drives hdrives]; rfl⟩
    | _ => exact ⟨[], rfl⟩

/-- **Through moves a device lives through acts.** -/
theorem exists_acts_of_move {first second : Session} {log : List Occurrence}
    (h : Move first log second) : ∃ acts, second.device = first.device.live acts := by
  cases h with
  | setup setup free => exact performSetup_device first setup
  | operation operation => exact operate_device first operation
  | take free => exact ⟨[], rfl⟩
  | refuse mode held => exact ⟨[], rfl⟩
  | release held => exact ⟨[], rfl⟩
  | task free => exact ⟨_, answerAll_fst _ _ _⟩

theorem exists_acts_of_moves {first second : Session} {log : List Occurrence}
    (h : Moves first log second) : ∃ acts, second.device = first.device.live acts := by
  induction h with
  | nil => exact ⟨[], rfl⟩
  | cons hmove _ ih =>
    obtain ⟨acts, hacts⟩ := exists_acts_of_move hmove
    obtain ⟨later, hlater⟩ := ih
    exact ⟨acts ++ later, by rw [Device.live_append, ← hacts, hlater]⟩

/-! ### Settled answers -/

end Session

/-- The request and the reply that an occurrence tells of. -/
def Occurrence.exchange? : Occurrence → Option (Request × Reply)
  | .answer (.reply request reply) => some (request, reply)
  | .event (.answered request reply) => some (request, reply)
  | _ => none

theorem Entry.exchanges_eq (entries : List Entry) :
    exchanges entries = (logAll entries).filterMap Occurrence.exchange? := rfl

namespace Session

open Occurrence (exchange?)

/-- The replies of a log to requests for descriptors are those of every device that continues the
given one, on any board. -/
def Settled (log : List Occurrence) (device : Device) : Prop :=
  ∀ exchange ∈ log.filterMap exchange?, ∀ request board later,
    exchange.1.asksSame request → device.Continues later →
      (later.respond board request).reply = exchange.2

theorem settled_of_silent {log : List Occurrence} (device : Device)
    (silent : log.filterMap exchange? = []) : Settled log device := by
  intro exchange hexchange
  rw [silent] at hexchange
  cases hexchange

theorem Settled.continues {log : List Occurrence} {device later : Device} (h : Settled log device)
    (hlater : device.Continues later) : Settled log later :=
  fun exchange hexchange request board last same hlast =>
    h exchange hexchange request board last same (hlater.trans hlast)

theorem Settled.append {log rest : List Occurrence} {device : Device} (h : Settled log device)
    (h' : Settled rest device) : Settled (log ++ rest) device := by
  intro exchange hexchange
  rw [List.filterMap_append, List.mem_append] at hexchange
  rcases hexchange with hexchange | hexchange
  · exact h exchange hexchange
  · exact h' exchange hexchange

theorem exchanges_effects (effects : List Effect) :
    ((effects.map Event.effect).map Occurrence.event).filterMap exchange? = [] := by
  rw [List.filterMap_eq_nil_iff]
  intro occurrence hoccurrence
  simp only [List.map_map, List.mem_map, Function.comp_apply] at hoccurrence
  obtain ⟨effect, -, rfl⟩ := hoccurrence
  rfl

/-- The reply of a prepared device settles the exchange that an occurrence tells of. -/
theorem settled_respond {device : Device} {board : BoardId} {request : Request}
    {occurrence : Occurrence} (built : device.WellBuilt) (prepared : device.isPrepared = true)
    (hoccurrence : occurrence.exchange? = some (request, (device.respond board request).reply)) :
    Settled [occurrence] (device.respond board request).device := by
  intro exchange hexchange request' board' later same hlater
  simp only [List.filterMap_cons, hoccurrence, List.filterMap_nil, List.mem_singleton] at hexchange
  subst hexchange
  exact Device.reply_of_continues built prepared same hlater

theorem settled_answerAll {device : Device} (built : device.WellBuilt)
    (prepared : device.isPrepared = true) (board : BoardId) (requests : List Request) :
    Settled ((answerAll board requests device).2.map .event)
      (answerAll board requests device).1 := by
  induction requests generalizing device with
  | nil => exact settled_of_silent _ rfl
  | cons request rest ih =>
    have hact := Device.continues_act device (.respond board request)
    have hrest := ih (Device.wellBuilt_act built (.respond board request))
      (hact.prepared prepared)
    have hlater : (device.respond board request).device.Continues
        (answerAll board (request :: rest) device).1 := by
      simp only [answerAll]
      rw [answerAll_fst]
      exact Device.continues_live _ _
    have hfirst : Settled
        [.event (.answered request (device.respond board request).reply)]
        (device.respond board request).device := settled_respond built prepared rfl
    simp only [answerAll, List.map_append, List.map_cons] at hlater ⊢
    exact (settled_of_silent _ (exchanges_effects _)).append
      ((hfirst.continues hlater).append hrest)

theorem settled_runTask {session : Session} (built : session.device.WellBuilt)
    (prepared : session.device.isPrepared = true) :
    Settled (session.runTask.2.map .event) session.runTask.1.device := by
  have hanswers := settled_answerAll built prepared session.board session.engine.script
  simp only [runTask, List.map_append, List.map_cons, List.cons_append, List.map_nil]
  exact (settled_of_silent _ (show [Occurrence.event (.taskBegan _)].filterMap exchange? = [] from
    rfl)).append (hanswers.append (settled_of_silent _ rfl))

theorem exchanges_performSetup (session : Session) (setup : Setup) :
    (session.performSetup setup).log.filterMap exchange? = [] := by
  cases setup with
  | start =>
    simp only [performSetup]
    obtain ⟨-, h⟩ | ⟨-, fault, -, h⟩ | ⟨-, -, -, h⟩ | ⟨-, -, line, -, h⟩ := start_cases session <;>
      rw [h] <;> rfl
  | _ => rfl

/-- What an operation answers and what a task that it runs is answered is settled. -/
theorem settled_operate {session : Session} (built : session.device.WellBuilt)
    (prepared : session.device.isPrepared = true) (operation : Operation) :
    Settled (session.operate operation).log (session.operate operation).session.device := by
  cases hdrives : session.drives operation with
  | true =>
    rw [operate_of_drives hdrives]
    have hanswer : [Occurrence.answer
        (if operation = .interrupt then .cycle .ran else .ran)].filterMap exchange? = [] := by
      split <;> rfl
    exact (settled_runTask built prepared).append (settled_of_silent _ hanswer)
  | false =>
    cases operation with
    | request request =>
      exact (settled_of_silent _ (exchanges_effects _)).append
        (settled_respond built prepared rfl)
    | mediumReady lun =>
      exact (settled_of_silent _ (exchanges_effects _)).append (settled_of_silent _ rfl)
    | alarm =>
      apply settled_of_silent
      simp only [operate, Result.log, Entry.log]
      cases session.line <;> rfl
    | interrupt =>
      rw [operate_interrupt_of_not_drives hdrives]
      exact settled_of_silent _ rfl
    | inspectEngine =>
      apply settled_of_silent
      simp only [operate]
      split <;> rfl
    | adjustEngine initialized initResult script =>
      apply settled_of_silent
      simp only [operate]
      split <;> rfl
    | runInline =>
      rw [operate_runInline_of_not_drives hdrives]
      exact settled_of_silent _ rfl
    | _ => exact settled_of_silent _ rfl

/-- **A move settles what it answers**, once the device is prepared. -/
theorem settled_of_move {first second : Session} {log : List Occurrence}
    (h : Move first log second) (built : first.device.WellBuilt)
    (prepared : first.device.isPrepared = true) : Settled log second.device := by
  cases h with
  | setup setup free => exact settled_of_silent _ (exchanges_performSetup first setup)
  | operation operation => exact settled_operate built prepared operation
  | take free => exact settled_of_silent _ rfl
  | refuse mode held =>
    apply settled_of_silent
    cases mode <;> rfl
  | release held => exact settled_of_silent _ rfl
  | task free => exact settled_runTask built prepared

/-- **A sequence of moves settles what is answered in it**, once the device is prepared. -/
theorem settled_of_moves {first second : Session} {log : List Occurrence}
    (h : Moves first log second) (built : first.device.WellBuilt)
    (prepared : first.device.isPrepared = true) : Settled log second.device := by
  induction h with
  | nil => exact settled_of_silent _ rfl
  | @cons _ middle last _ _ hmove hmoves ih =>
    obtain ⟨acts, hacts⟩ := exists_acts_of_move hmove
    obtain ⟨later, hlater⟩ := exists_acts_of_moves hmoves
    have hbuilt := Device.wellBuilt_live built acts
    have hprepared := (Device.continues_live _ acts).prepared prepared
    rw [← hacts] at hbuilt hprepared
    have hcontinues : middle.device.Continues last.device := by
      rw [hlater]
      exact Device.continues_live middle.device later
    exact ((settled_of_move hmove built prepared).continues hcontinues).append
      (ih hbuilt hprepared)

/-- **The host sees one stable device.** Behind steps that have prepared the device, any two requests
for the same descriptor, from a step, under a hold or from a task, have the same reply. -/
theorem descriptors_stable (scenario : Scenario) (before after : List Step)
    (prepared : (scenario.session.run before).1.device.isPrepared = true)
    (first second : Request × Reply)
    (hfirst : first ∈ Entry.exchanges ((scenario.session.run before).1.run after).2)
    (hsecond : second ∈ Entry.exchanges ((scenario.session.run before).1.run after).2)
    (same : first.1.asksSame second.1) : first.2 = second.2 := by
  obtain ⟨hbefore, hfree⟩ := moves_run scenario.session_token before
  obtain ⟨acts, hacts⟩ := exists_acts_of_moves hbefore
  have hbuilt : (scenario.session.run before).1.device.WellBuilt := by
    rw [hacts]
    exact Device.wellBuilt_live (Device.wellBuilt_make scenario.roles scenario.medium) acts
  have hsettled := settled_of_moves (moves_run hfree after).1 hbuilt prepared
  have hself : second.1.asksSame second.1 := by
    revert same
    cases first.1 <;> cases second.1 <;> simp [Request.asksSame]
  -- both replies are that of the last device, on whatever board
  rw [Entry.exchanges_eq] at hfirst hsecond
  have hlast := hsettled first hfirst second.1 scenario.board _ same (.refl _)
  have hlast' := hsettled second hsecond second.1 scenario.board _ hself (.refl _)
  exact hlast.symm.trans hlast'

/-- A started keyboard's task reads the serial number from the board; under a hold behind a change of
the board the host, in another language, is shown the same. -/
theorem descriptors_stable_keyboard :
    let before := [Step.setup .start]
    let after := [Step.action (.single .interrupt),
      .action (.single (.changeBoard (.replicate 8 0x1D))),
      .action (.hold .trying [.single (.request (.string 3 0x0407))])]
    let started := (Scenario.keyboard.session.run before).1
    let first := (Request.string 3 0x0409,
      (started.device.respond started.board (.string 3 0x0409)).reply)
    let second := (Request.string 3 0x0407, Reply.string (some (.ofText "E6E6E6E6E6E6E6E6")))
    started.device.isPrepared = true ∧
      Entry.exchanges (started.run after).2 = [first, second] ∧ first.2 = second.2 := by
  intro before after started first second
  have prepared : started.device.isPrepared = true := by decide +kernel
  have hexchanges : Entry.exchanges (started.run after).2 = [first, second] := by decide +kernel
  refine ⟨prepared, hexchanges, ?_⟩
  exact descriptors_stable Scenario.keyboard before after prepared first second
    (by rw [hexchanges]; simp) (by rw [hexchanges]; simp) rfl

end Session

end UsbComposite
