import UsbComposite.Proofs.Session.Builds
import UsbComposite.Proofs.Session.Instants
import UsbComposite.Proofs.Session.Serial

/-!
# Alarms and interrupts follow the started line

An alarm and an interrupt look at the line that the session keeps. They look neither at the engine's
flag, which can be lost behind a start, nor at the device. So all three have to be related: a line is
kept exactly if a start was answered that it brought the engine up, it is the line of the last such
start, and a session that keeps one has a prepared device.

* `line_of_move`: a move keeps the line, or is a start that brings the engine up on a new one;
* `Follows.moves`: so what a log says of the line stays true along every sequence of moves;
* `shows_of_answerAll`: a task on a prepared device is shown its descriptors.
-/

namespace UsbComposite

/-- Whether some role of the set is one of HID. -/
def RoleSet.hasHid (roles : RoleSet) : Bool :=
  roles.hasShared || roles.contains .rawHid

/-! ### The last start in a log -/

/-- The answer of a start that brought the engine up. -/
def Occurrence.started : Occurrence :=
  .answer (.startup (.ok .started))

/-- All that a start leaves in the log when it brings the engine up on a line. -/
def bringUpLog (line : Line) : List Occurrence :=
  [.event (.granted (some line)), .event .initialized, .event (.enabled line),
    .event (.armed 1000), .started]

/-- The line on which the last start in a log brought the engine up, none if no start did. -/
inductive LastLine : List Occurrence → Option Line → Prop
  | never {log : List Occurrence} (none_started : .started ∉ log) : LastLine log none
  | last (front : List Occurrence) (line : Line) {back : List Occurrence}
      (none_started : .started ∉ back) : LastLine (front ++ bringUpLog line ++ back) (some line)

namespace LastLine

variable {log rest : List Occurrence} {line? : Option Line}

theorem append (h : LastLine log line?) (quiet : .started ∉ rest) :
    LastLine (log ++ rest) line? := by
  cases h with
  | never hlog =>
    refine .never fun hmem => ?_
    rcases List.mem_append.mp hmem with hmem | hmem
    · exact hlog hmem
    · exact quiet hmem
  | last front line hback =>
    rw [List.append_assoc _ _ rest]
    refine .last front line fun hmem => ?_
    rcases List.mem_append.mp hmem with hmem | hmem
    · exact hback hmem
    · exact quiet hmem

theorem isSome_iff (h : LastLine log line?) : line?.isSome = true ↔ .started ∈ log := by
  cases h with
  | never hlog => simp [hlog]
  | last front line hback => simp [bringUpLog]

/-- What a start leaves ends with its answer, so without that answer nothing is cut off its end. -/
theorem eq_nil_of_append_eq {prior cut front : List Occurrence} {line : Line}
    (h : prior ++ cut = front ++ bringUpLog line) (quiet : .started ∉ cut) : cut = [] := by
  obtain rfl | ⟨init, o, rfl⟩ := List.eq_nil_or_concat cut
  · rfl
  · have hlast := congrArg List.getLast? h
    simp only [bringUpLog, List.concat_eq_append, List.getLast?_append, List.getLast?_cons_cons,
      List.getLast?_singleton, Option.some_or, Option.some.injEq] at hlast
    exact absurd (by simp [hlast]) quiet

/-- Behind what a start leaves, and with no start that brings the engine up behind it, the last line
is the line of that start. -/
theorem eq_some {front back : List Occurrence} {line : Line}
    (h : LastLine (front ++ bringUpLog line ++ back) line?) (quiet : .started ∉ back) :
    line? = some line := by
  generalize hlog : front ++ bringUpLog line ++ back = log at h
  cases h with
  | never hnone =>
    refine absurd ?_ hnone
    rw [← hlog]
    simp [bringUpLog]
  | @last front' line' back' hback =>
    -- of the two ends one is a part of the other, and what is left over holds no answer of a start
    have hsame : front ++ bringUpLog line = front' ++ bringUpLog line' := by
      obtain ⟨cut, hfront, hcut⟩ | ⟨cut, hfront, hcut⟩ := List.append_eq_append_iff.mp hlog
      · have hnil := eq_nil_of_append_eq hfront.symm fun hmem => quiet (by simp [hcut, hmem])
        rw [hfront, hnil, List.append_nil]
      · have hnil := eq_nil_of_append_eq hfront.symm fun hmem => hback (by simp [hcut, hmem])
        rw [hfront, hnil, List.append_nil]
    have hbring := (List.append_inj' hsame rfl).2
    simp only [bringUpLog, List.cons.injEq, Occurrence.event.injEq, Event.enabled.injEq] at hbring
    rw [hbring.2.2.1]

end LastLine

namespace Session

/-! ### What moves do to the line -/

/-- A start keeps the line, or brings the engine up on a new one behind the preparation of the
device. -/
theorem line_of_start (session : Session) :
    (.started ∉ session.start.log ∧ session.start.session.line = session.line) ∨
      ∃ line, session.start.log = bringUpLog line ∧ session.start.session.line = some line ∧
        session.start.session.device.isPrepared = true := by
  cases hflag : session.engine.initialized with
  | true =>
    rw [start_of_initialized hflag]
    exact .inl ⟨by simp [Result.log, Entry.log, Occurrence.started], rfl⟩
  | false =>
    rw [start_of_next hflag]
    cases session.platform.next with
    | none => exact .inl ⟨by simp [Result.log, Entry.log, Occurrence.started], rfl⟩
    | some line => exact .inr ⟨line, rfl, rfl, (startsInOrder session).prepared⟩

/-- **A move keeps the line, or is a start that brings the engine up on a new one.** -/
theorem line_of_move {first second : Session} {log : List Occurrence} (h : Move first log second) :
    (.started ∉ log ∧ second.line = first.line) ∨
      ∃ line, log = bringUpLog line ∧ second.line = some line ∧
        second.device.isPrepared = true := by
  have hkept {log : List Occurrence} {second : Session} (h : NoStart first log second) :
      .started ∉ log ∧ second.line = first.line :=
    ⟨fun hmem => Bool.noConfusion (h.quiet _ hmem), h.line⟩
  cases h with
  | setup setup free =>
    cases setup with
    | start => exact line_of_start first
    | _ => exact .inl (hkept (noStart_single rfl rfl rfl rfl))
  | operation operation => exact .inl (hkept (noStart_operate first operation))
  | take free => exact .inl (hkept (noStart_single rfl rfl rfl rfl))
  | refuse mode held => exact .inl (hkept (noStart_refuse first mode))
  | release held => exact .inl (hkept (noStart_single rfl rfl rfl rfl))
  | task free => exact .inl (hkept (noStart_runTask first))

/-- **A controller that is started stays started.** -/
theorem isStarted_of_moves {first second : Session} {log : List Occurrence}
    (h : Moves first log second) (started : first.isStarted = true) : second.isStarted = true := by
  induction h with
  | nil => exact started
  | @cons _ middle _ _ _ hmove _ ih =>
    refine ih ?_
    obtain ⟨-, hline⟩ | ⟨line, -, hline, -⟩ := line_of_move hmove
    · rw [isStarted, hline]
      exact started
    · rw [isStarted, hline]
      rfl

/-- A session follows a log: it keeps the line of the last start, and is prepared if there was one. -/
structure Follows (log : List Occurrence) (session : Session) : Prop where
  line : LastLine log session.line
  prepared : session.isStarted = true → session.device.isPrepared = true
  built : session.device.WellBuilt

theorem follows_session (scenario : Scenario) : Follows [] scenario.session :=
  ⟨.never (by simp), by simp [isStarted, Scenario.session, make],
    Device.wellBuilt_make scenario.roles scenario.medium⟩

theorem Follows.move {before log : List Occurrence} {first second : Session}
    (h : Follows before first) (hmove : Move first log second) :
    Follows (before ++ log) second := by
  obtain ⟨acts, hacts⟩ := exists_acts_of_move hmove
  have hbuilt : second.device.WellBuilt := by
    rw [hacts]
    exact Device.wellBuilt_live h.built acts
  obtain ⟨hquiet, hline⟩ | ⟨line, rfl, hline, hprepared⟩ := line_of_move hmove
  · refine ⟨?_, ?_, hbuilt⟩
    · rw [hline]
      exact h.line.append hquiet
    · intro hstarted
      rw [isStarted, hline] at hstarted
      rw [hacts]
      exact (Device.continues_live first.device acts).prepared (h.prepared hstarted)
  · refine ⟨?_, fun _ => hprepared, hbuilt⟩
    rw [hline, ← List.append_nil (before ++ bringUpLog line)]
    exact .last before line (by simp)

/-- **Along moves a session follows its log.** -/
theorem Follows.moves {before log : List Occurrence} {first second : Session}
    (h : Follows before first) (hmoves : Moves first log second) :
    Follows (before ++ log) second := by
  induction hmoves generalizing before with
  | nil =>
    rw [List.append_nil]
    exact h
  | cons hmove _ ih =>
    rw [← List.append_assoc]
    exact ih (h.move hmove)

end Session

/-! ### What a task is answered -/

namespace Device

/-- A device can be shown to a host: it has a configuration, and with any HID role there is a report
descriptor for instance 0. -/
structure Composed (device : Device) : Prop where
  configuration : device.configuration.isSome = true
  reportDescriptor : device.roles.hasHid = true → (device.reportDescriptor 0).isSome = true

theorem exists_hid_of_hasHid {roles : RoleSet} (h : roles.hasHid = true) :
    ∃ kind, (FunctionKind.hidOfRoles roles)[0]? = some kind := by
  have hmem : ∃ kind, kind ∈ FunctionKind.hidOfRoles roles := by
    rw [RoleSet.hasHid, Bool.or_eq_true] at h
    rcases h with hshared | hraw
    · exact ⟨.sharedHid, List.mem_filter.mpr ⟨by decide, hshared⟩⟩
    · exact ⟨.rawHid, List.mem_filter.mpr ⟨by decide, hraw⟩⟩
  obtain ⟨kind, hkind⟩ := hmem
  exact ⟨_, List.getElem?_eq_getElem (List.length_pos_of_mem hkind)⟩

/-- **A prepared device can be shown.** -/
theorem composed_of_isPrepared {device : Device} (built : device.WellBuilt)
    (prepared : device.isPrepared = true) : device.Composed := by
  refine ⟨prepared, fun hhid => ?_⟩
  obtain ⟨kind, hkind⟩ := exists_hid_of_hasHid hhid
  have hnumber : device.instances.get? kind = some 0 :=
    (HidInstances.get?_ofRoles_iff device.roles kind 0).mpr hkind
  obtain ⟨report, hreport, -⟩ := exists_reportOf built prepared (List.mem_of_getElem? hkind)
  rw [reportDescriptor_of_get? hnumber, hreport]
  rfl

end Device

/-- A reply shows what a composed device of some roles has to show: a configuration, and with any HID
role a report descriptor for instance 0. -/
structure ShowsComposed (roles : RoleSet) (request : Request) (reply : Reply) : Prop where
  configuration : ∀ index, request = .configuration index →
    ∃ bytes, reply = .optionalBytes (some bytes)
  reportDescriptor : roles.hasHid = true → request = .reportDescriptor 0 →
    ∃ bytes, reply = .optionalBytes (some bytes)

theorem Device.Composed.shows {device : Device} (h : device.Composed) (board : BoardId)
    (request : Request) :
    ShowsComposed device.roles request (device.respond board request).reply := by
  constructor
  case configuration =>
    rintro index rfl
    obtain ⟨bytes, hbytes⟩ := Option.isSome_iff_exists.mp h.configuration
    exact ⟨bytes, congrArg Reply.optionalBytes hbytes⟩
  case reportDescriptor =>
    rintro hhid rfl
    obtain ⟨bytes, hbytes⟩ := Option.isSome_iff_exists.mp (h.reportDescriptor hhid)
    exact ⟨bytes, congrArg Reply.optionalBytes hbytes⟩

namespace Session

/-- **A task on a prepared device is shown what is composed**, whatever it asked before. -/
theorem shows_of_answerAll {device : Device} (built : device.WellBuilt)
    (prepared : device.isPrepared = true) {board : BoardId} {requests : List Request}
    {request : Request} {reply : Reply}
    (h : .answered request reply ∈ (answerAll board requests device).2) :
    ShowsComposed device.roles request reply := by
  induction requests generalizing device with
  | nil => cases h
  | cons first rest ih =>
    simp only [answerAll, List.mem_append, List.mem_map, List.mem_cons, reduceCtorEq, and_false,
      exists_false, false_or, Event.answered.injEq] at h
    rcases h with ⟨rfl, rfl⟩ | h
    · exact (Device.composed_of_isPrepared built prepared).shows board request
    · have hact := Device.continues_act device (.respond board first)
      rw [← hact.roles]
      exact ih (Device.wellBuilt_act built (.respond board first)) (hact.prepared prepared) h

/-! ### All of it together -/

/-- What an interrupt answers by the line and by the token. -/
theorem interrupt_cases (session : Session) :
    (session.isStarted = false ∧
      session.operate .interrupt = ⟨session, .cycle .idle, []⟩) ∨
    (session.isStarted = true ∧ session.token.held = true ∧
      session.operate .interrupt = ⟨session, .cycle .skipped, []⟩) ∨
    (session.isStarted = true ∧ session.token.held = false ∧
      session.operate .interrupt = ⟨session.runTask.1, .cycle .ran, session.runTask.2⟩) := by
  simp only [operate, interrupt]
  cases session.isStarted <;> cases session.token.held <;> simp

/-- Only a started session runs its task on an interrupt. -/
theorem interrupt_of_ran {session : Session}
    (h : (session.operate .interrupt).answer = .cycle .ran) :
    session.isStarted = true ∧
      session.operate .interrupt = ⟨session.runTask.1, .cycle .ran, session.runTask.2⟩ := by
  obtain ⟨-, hint⟩ | ⟨-, -, hint⟩ | ⟨hstarted, -, hint⟩ := interrupt_cases session
  · rw [hint] at h
    cases h
  · rw [hint] at h
    cases h
  · exact ⟨hstarted, hint⟩

/-- Any other interrupt leaves everything as it is. -/
theorem interrupt_of_not_ran {session : Session}
    (h : (session.operate .interrupt).answer ≠ .cycle .ran) :
    (session.operate .interrupt).session = session ∧ (session.operate .interrupt).events = [] := by
  obtain ⟨-, hint⟩ | ⟨-, -, hint⟩ | ⟨-, -, hint⟩ := interrupt_cases session
  · rw [hint]
    exact ⟨rfl, rfl⟩
  · rw [hint]
    exact ⟨rfl, rfl⟩
  · exact absurd (by rw [hint]) h

/-- An alarm pends the line if there is one, and the next alarm is due after the task interval. -/
theorem operate_alarm (session : Session) :
    session.operate .alarm =
      ⟨session, .interval 1000, (session.line.map Event.pended).toList⟩ := rfl

/-- What alarms and interrupts do in a session behind a log. -/
structure FollowsStart (log : List Occurrence) (now : Session) : Prop where
  /-- It is started if a start was answered that it brought the engine up. -/
  started : now.isStarted = true ↔ .started ∈ log
  /-- Then it is started for good. -/
  lasting : now.isStarted = true → ∀ (later : List Occurrence) (last : Session),
    Moves now later last → last.isStarted = true
  /-- Before, an alarm pends nothing. -/
  alarm_before : .started ∉ log → now.operate .alarm = ⟨now, .interval 1000, []⟩
  /-- There is a last start that brought the engine up, -/
  last_start : .started ∈ log → ∃ front line back,
    log = front ++ bringUpLog line ++ back ∧ .started ∉ back
  /-- and behind it an alarm pends its line, once, and changes nothing. -/
  alarm_behind : ∀ front line back, log = front ++ bringUpLog line ++ back → .started ∉ back →
    now.operate .alarm = ⟨now, .interval 1000, [.pended line]⟩
  idle : (now.operate .interrupt).answer = .cycle .idle ↔ .started ∉ log
  skipped : (now.operate .interrupt).answer = .cycle .skipped ↔
    .started ∈ log ∧ now.token.held = true
  ran : (now.operate .interrupt).answer = .cycle .ran ↔
    .started ∈ log ∧ now.token.held = false
  /-- An interrupt that does not run changes nothing, and nothing happens. -/
  untouched : (now.operate .interrupt).answer ≠ .cycle .ran →
    (now.operate .interrupt).session = now ∧ (now.operate .interrupt).events = []
  /-- One that does runs one task. -/
  task : (now.operate .interrupt).answer = .cycle .ran →
    (now.operate .interrupt).session.engine =
        { now.engine with tasks := now.engine.tasks + 1 } ∧
      ∃ inside, (now.operate .interrupt).events =
          .taskBegan (now.engine.tasks + 1) :: inside ++ [.taskEnded] ∧
        ∀ event ∈ inside, (Occurrence.event event).isMark = false
  /-- And its task finds a composed device. -/
  composed : (now.operate .interrupt).answer = .cycle .ran →
    now.device.Composed ∧ ∀ request reply,
      .answered request reply ∈ (now.operate .interrupt).events →
        ShowsComposed now.device.roles request reply

/-- **A session that follows a log has its alarms and interrupts follow the starts in it.** -/
theorem Follows.followsStart {log : List Occurrence} {now : Session} (h : Follows log now) :
    FollowsStart log now := by
  have hstarted : now.isStarted = true ↔ .started ∈ log := h.line.isSome_iff
  have hunstarted : now.isStarted = false ↔ .started ∉ log := by
    rw [← hstarted, Bool.not_eq_true]
  constructor
  case started => exact hstarted
  case lasting => exact fun hnow _ _ hmoves => isStarted_of_moves hmoves hnow
  case alarm_before =>
    intro hnone
    have hline : now.line = none :=
      Option.isNone_iff_eq_none.mp (Option.isSome_eq_false_iff.mp (hunstarted.mpr hnone))
    rw [operate_alarm, hline, Option.map_none, Option.toList_none]
  case last_start =>
    intro hmem
    have hline := h.line
    generalize now.line = line? at hline
    cases hline with
    | never hnone => exact absurd hmem hnone
    | last front line hback => exact ⟨front, line, _, rfl, hback⟩
  case alarm_behind =>
    rintro front line back rfl hback
    have hline : now.line = some line := h.line.eq_some hback
    rw [operate_alarm, hline, Option.map_some, Option.toList_some]
  case idle =>
    rw [← hunstarted]
    obtain ⟨hnow, hint⟩ | ⟨hnow, -, hint⟩ | ⟨hnow, -, hint⟩ := interrupt_cases now <;>
      simp [hnow, hint]
  case skipped =>
    rw [← hstarted]
    obtain ⟨hnow, hint⟩ | ⟨hnow, hheld, hint⟩ | ⟨hnow, hheld, hint⟩ := interrupt_cases now <;>
      simp [*]
  case ran =>
    rw [← hstarted]
    obtain ⟨hnow, hint⟩ | ⟨hnow, hheld, hint⟩ | ⟨hnow, hheld, hint⟩ := interrupt_cases now <;>
      simp [*]
  case untouched => exact interrupt_of_not_ran
  case task =>
    intro hanswer
    rw [(interrupt_of_ran hanswer).2]
    refine ⟨rfl, _, rfl, fun event hevent => ?_⟩
    exact isMark_answerAll _ _ _ _ (List.mem_map_of_mem hevent)
  case composed =>
    intro hanswer
    obtain ⟨hnow, hint⟩ := interrupt_of_ran hanswer
    have hprepared := h.prepared hnow
    refine ⟨Device.composed_of_isPrepared h.built hprepared, fun request reply hreply => ?_⟩
    rw [hint] at hreply
    simp only [runTask, List.cons_append, List.mem_cons, List.mem_append, List.not_mem_nil,
      reduceCtorEq, or_false, false_or] at hreply
    exact shows_of_answerAll h.built hprepared hreply

/-- **Alarms and interrupts follow the started line**, at every instant of every session. -/
theorem interrupts_follow_start (scenario : Scenario) (instant : Instant) :
    FollowsStart (scenario.session.logAt instant) (scenario.session.atInstant instant) := by
  have hmoves := moves_instant scenario.session_token instant
  exact ((follows_session scenario).moves hmoves).followsStart

/-- An engine that loses its flag is brought up on another line, with a start in between that finds
none: each alarm pends the last line that was found. -/
example :
    let scenario : Scenario :=
      { Scenario.keyboard with initResult := false, lines := [some 26, none, some 27] }
    let steps := [Step.setup .start, .action (.single .alarm), .setup .start,
      .action (.single .alarm), .setup .start, .action (.single .alarm)]
    Entry.events (scenario.session.run steps).2 =
      [.granted (some 26), .initialized, .enabled 26, .armed 1000, .pended 26, .granted none,
        .pended 26, .granted (some 27), .initialized, .enabled 27, .armed 1000, .pended 27] := by
  decide +kernel

end Session

end UsbComposite
