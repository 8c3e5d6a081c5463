import UsbComposite.Proofs.Session.Hold
import UsbComposite.Proofs.Session.Instants
import UsbComposite.Proofs.Session.Marks
import UsbComposite.Proofs.Session.Start

/-!
# What only looks can be left out

A session with marks is compared with what remains of it without the omitted items. Step by step the
two differ in the script of the engine at most, and there by the omitted requests. So nothing that is
kept is any different, and the entries of the one are those of the other, spared what the omitted
items left.

* `spareEvents_runTask`: the events of a task, spared, are those of the task without the omitted
  requests;
* `omits_kept`, `omits_omitted`, `omits_adjust`, `omits_hold`: what the two sessions have in common
  behind an action of each kind;
* `omits_step`, `omits_run`: and behind steps.
-/

namespace UsbComposite

open MarkedRequest (whole remaining omitsNext)

namespace Session

/-- **Omitted requests of a script are not noticed by the others**: the device afterwards is the same,
and the events, spared what the omitted requests left, are those of the others alone. -/
theorem spareEvents_answerAll (board : BoardId) (script marks : List MarkedRequest) (device : Device)
    (rest : List Event) :
    (answerAll board (remaining marks) device).1 = (answerAll board (whole marks) device).1 ∧
      spareEvents script marks ((answerAll board (whole marks) device).2 ++ rest) =
        (answerAll board (remaining marks) device).2 ++ spareEvents script [] rest := by
  induction marks generalizing device with
  | nil => exact ⟨rfl, rfl⟩
  | cons mark marks ih =>
    cases mark with
    | kept request =>
      obtain ⟨hdevice, hevents⟩ := ih (device.respond board request).device
      refine ⟨hdevice, ?_⟩
      simp only [whole, remaining, List.map_cons, List.filterMap_cons, MarkedRequest.request,
        MarkedRequest.kept?, answerAll, List.append_assoc, List.cons_append,
        spareEvents_effects_kept] at hevents ⊢
      rw [spareEvents_cons_of_not_omitsNext rfl]
      exact congrArg _ (congrArg _ hevents)
    | omitted request passive =>
      obtain ⟨hsame, hunread⟩ := Device.respond_of_isPassive passive device board
      obtain ⟨hdevice, hevents⟩ := ih device
      refine ⟨?_, ?_⟩
      · show _ = (answerAll board (whole marks) (device.respond board request).device).1
        rw [hsame]
        exact hdevice
      · simp only [whole, remaining, List.map_cons, List.filterMap_cons, MarkedRequest.request,
          MarkedRequest.kept?, answerAll, List.append_assoc, List.cons_append,
          spareEvents_effects_omitted script _ passive hunread, hsame] at hevents ⊢
        rw [spareEvents_cons_of_omitsNext rfl rfl]
        exact hevents

/-! ### The whole session and the remaining one -/

/-- The session with another script in its engine. -/
def withScript (session : Session) (script : List Request) : Session :=
  { session with engine := { session.engine with script := script } }

/-- The second session is the first one, but that it leaves out what is omitted from the script. -/
structure Omits (script : List MarkedRequest) (first second : Session) : Prop where
  whole : first.engine.script = MarkedRequest.whole script
  remaining : second = first.withScript (MarkedRequest.remaining script)

/-- Sessions that differ by omissions, with the same answer, and with events that differ by what the
omitted requests left. -/
structure OmitsResults (script : List MarkedRequest) (first second : Result) : Prop where
  session : Omits script first.session second.session
  answer : second.answer = first.answer
  events : second.events = spareEvents script [] first.events

variable {script : List MarkedRequest} {first second : Session}

theorem Omits.token_eq (h : Omits script first second) : second.token = first.token := by
  rw [h.remaining]
  rfl

theorem Omits.withToken (h : Omits script first second) (token : Token) :
    Omits script (first.withToken token) (second.withToken token) := by
  obtain ⟨hwhole, rfl⟩ := h
  exact ⟨hwhole, rfl⟩

/-- **A task without the omitted requests** leaves the session alike, and its events are those of the
whole task, spared. -/
theorem spareEvents_runTask (h : Omits script first second) (rest : List Event) :
    Omits script first.runTask.1 second.runTask.1 ∧
      spareEvents script [] (first.runTask.2 ++ rest) =
        second.runTask.2 ++ spareEvents script [] rest := by
  obtain ⟨hwhole, rfl⟩ := h
  obtain ⟨hdevice, hevents⟩ := spareEvents_answerAll first.board script script first.device
    (.taskEnded :: rest)
  constructor
  · refine ⟨hwhole, ?_⟩
    simp only [runTask, withScript, hwhole, hdevice]
  · simp only [runTask, withScript, hwhole, List.cons_append, List.append_assoc,
      List.nil_append] at hevents ⊢
    -- neither the beginning of a task nor its end is spared
    have hended : spareEvents script [] (.taskEnded :: rest) =
        .taskEnded :: spareEvents script [] rest :=
      spareEvents_cons_of_not_omitsNext rfl script .taskEnded rest
    rw [hended] at hevents
    rw [spareEvents_cons_of_not_omitsNext rfl]
    exact congrArg _ hevents

theorem spareEvents_runTasks (h : Omits script first second) (count : Nat) :
    Omits script (runTasks count first).1 (runTasks count second).1 ∧
      (runTasks count second).2 = spareEvents script [] (runTasks count first).2 := by
  induction count generalizing first second with
  | zero => exact ⟨h, rfl⟩
  | succ count ih =>
    obtain ⟨hsession, hevents⟩ := spareEvents_runTask h (runTasks count first.runTask.1).2
    obtain ⟨hlater, hrest⟩ := ih hsession
    exact ⟨hlater, by simp only [runTasks, hevents, hrest]⟩

theorem drives_withScript (session : Session) (requests : List Request) (operation : Operation) :
    (session.withScript requests).drives operation = session.drives operation := by
  cases operation <;> rfl

/-- An operation that neither runs a task nor changes the script does not look at the script. -/
theorem operate_withScript {session : Session} {operation : Operation}
    (hdrives : session.drives operation = false) (plain : operation.script? = none)
    (requests : List Request) :
    (session.operate operation).session.engine.script = session.engine.script ∧
      (session.withScript requests).operate operation =
        ⟨(session.operate operation).session.withScript requests,
          (session.operate operation).answer, (session.operate operation).events⟩ := by
  cases operation with
  | interrupt =>
    rw [operate_interrupt_of_not_drives hdrives, operate_interrupt_of_not_drives
      ((drives_withScript session requests .interrupt).trans hdrives)]
    exact ⟨rfl, rfl⟩
  | inspectEngine =>
    simp only [operate]
    show _ ∧ (if session.token.held then _ else _) = _
    split <;> exact ⟨rfl, rfl⟩
  | adjustEngine initialized initResult script =>
    cases (show script = none from plain)
    simp only [operate]
    show _ ∧ (if session.token.held then _ else _) = _
    split <;> exact ⟨rfl, rfl⟩
  | runInline =>
    rw [operate_runInline_of_not_drives hdrives, operate_runInline_of_not_drives
      ((drives_withScript session requests .runInline).trans hdrives)]
    exact ⟨rfl, rfl⟩
  | _ => exact ⟨rfl, rfl⟩

/-- **A kept operation** has the same answer in both sessions. -/
theorem omits_operate (h : Omits script first second) {operation : Operation}
    (plain : operation.script? = none) :
    OmitsResults script (first.operate operation) (second.operate operation) := by
  have hsame : second.drives operation = first.drives operation := by
    rw [h.remaining, drives_withScript]
  cases hdrives : first.drives operation with
  | true =>
    obtain ⟨hsession, hevents⟩ := spareEvents_runTask h []
    rw [operate_of_drives hdrives, operate_of_drives (hsame.trans hdrives)]
    simp only [List.append_nil, spareEvents] at hevents
    exact ⟨hsession, rfl, hevents.symm⟩
  | false =>
    obtain ⟨hscript, hoperate⟩ := operate_withScript hdrives plain (remaining script)
    have hquiet : ∀ event ∈ (first.operate operation).events,
        (Occurrence.event event).isMark = false := by
      intro event hevent
      exact isMark_operate hdrives _
        (List.mem_append_left _ (List.mem_map_of_mem hevent))
    rw [h.remaining, hoperate]
    exact ⟨⟨hscript.trans h.whole, rfl⟩, rfl, (spareEvents_of_quiet hquiet script).symm⟩

/-! ### Entries -/

/-- The second session, with its entries, is the first one with omissions: its entries are those of the
first, spared, and what was spared are passive events. -/
structure OmitsRuns (script : List MarkedRequest) (first second : Session × List Entry)
    (spared : List Entry) : Prop where
  session : Omits script first.1 second.1
  entries : second.2 = spared
  lasting : Event.lasting (Entry.events second.2) = Event.lasting (Entry.events first.2)

theorem OmitsRuns.append {script later : List MarkedRequest}
    {first second first' second' : Session × List Entry} {spared spared' : List Entry}
    (h : OmitsRuns script first second spared) (h' : OmitsRuns later first' second' spared') :
    OmitsRuns later (first'.1, first.2 ++ first'.2) (second'.1, second.2 ++ second'.2)
      (spared ++ spared') := by
  refine ⟨h'.session, by rw [h.entries, h'.entries], ?_⟩
  simp only [Entry.events_append, Event.lasting_append, h.lasting, h'.lasting]

/-- What an action does in the first session it does in the second one, without what is omitted. -/
def OmitsAction (script : List MarkedRequest) (first second : Session) (action : MarkedAction) :
    Prop :=
  let done := perform action.whole first
  OmitsRuns (action.scriptAfter script done.2) (done.1, [done.2])
    (performAll action.remaining?.toList second) (action.spare? script done.2).toList

/-- **A kept operation has the same entry**, spared. -/
theorem omits_kept (h : Omits script first second) {operation : Operation}
    (plain : operation.script? = none) : OmitsAction script first second (.kept operation plain) := by
  obtain ⟨hsession, hanswer, hevents⟩ := omits_operate h plain
  refine ⟨hsession, ?_, ?_⟩
  · show [Entry.answered _ _] = [Entry.answered _ _]
    rw [hanswer, hevents]
  · show Event.lasting (Entry.events [.answered _ _]) = Event.lasting (Entry.events [.answered _ _])
    simp only [Entry.events_answered, Entry.events_nil, List.append_nil, hevents,
      lasting_spareEvents]

/-- **An omitted operation has no entry**, and its events are passive. -/
theorem omits_omitted (h : Omits script first second) {operation : Operation}
    (passive : operation.isPassive = true) :
    OmitsAction script first second (.omitted operation passive) := by
  obtain ⟨hsession, hpassive⟩ := operate_of_isPassive passive first
  refine ⟨?_, rfl, ?_⟩
  · show Omits script (first.operate operation).session second
    rw [hsession]
    exact h
  · show Event.lasting [] = Event.lasting (Entry.events [.answered _ _])
    simp only [Entry.events_answered, Entry.events_nil, List.append_nil, hpassive]
    rfl

/-- **A script with omissions is taken as the whole one is**: if nobody holds the token. -/
theorem omits_adjust (h : Omits script first second) (initialized initResult : Option Bool)
    (later : List MarkedRequest) :
    OmitsAction script first second (.adjust initialized initResult later) := by
  have hoperate (session : Session) (requests : List Request) :
      session.operate (.adjustEngine initialized initResult (some requests)) =
        if session.token.held then ⟨session, .outcome (.error .tokenHeld), []⟩
        else ⟨{ session with
          engine := session.engine.adjust initialized initResult (some requests) },
          .outcome (.ok ()), []⟩ := rfl
  simp only [OmitsAction, MarkedAction.whole, MarkedAction.remaining?, Option.toList_some,
    performAll, perform, hoperate, h.token_eq]
  obtain ⟨hwhole, rfl⟩ := h
  split
  · exact ⟨⟨hwhole, rfl⟩, rfl, rfl⟩
  · exact ⟨⟨rfl, rfl⟩, rfl, rfl⟩

/-- A hold is refused in both sessions, whatever it is around. -/
theorem omits_hold_of_held (h : Omits script first second) (held : first.token.held = true)
    (mode : HoldMode) (body : List MarkedAction) :
    OmitsAction script first second (.hold mode body) := by
  have hheld : second.token.held = true := by rw [h.token_eq, held]
  simp only [OmitsAction, MarkedAction.whole, MarkedAction.remaining?, Option.toList_some,
    performAll, perform_hold_of_held held, perform_hold_of_held hheld]
  exact ⟨h, rfl, rfl⟩

/-- Only for a hold does it matter whether the token is held. -/
theorem omits_action (h : Omits script first second)
    (hold : ∀ mode body, OmitsAction script first second (.hold mode body))
    (action : MarkedAction) : OmitsAction script first second action := by
  cases action with
  | kept operation plain => exact omits_kept h plain
  | omitted operation passive => exact omits_omitted h passive
  | adjust initialized initResult later => exact omits_adjust h initialized initResult later
  | hold mode body => exact hold mode body

/-- Under a hold the engine takes no script. -/
theorem scriptAfter_of_held (script : List MarkedRequest) (held : first.token.held = true)
    (action : MarkedAction) :
    action.scriptAfter script (perform action.whole first).2 = script := by
  cases action with
  | adjust initialized initResult later =>
    simp only [MarkedAction.whole, perform, operate, if_pos held]
    rfl
  | _ => rfl

theorem performAll_append (actions later : List Action) (session : Session) :
    performAll (actions ++ later) session =
      ((performAll later (performAll actions session).1).1,
        (performAll actions session).2 ++ (performAll later (performAll actions session).1).2) := by
  induction actions generalizing session with
  | nil => rfl
  | cons action actions ih => simp only [List.cons_append, performAll, ih]

/-- **Under a hold actions do in one session what they do in the other**, with one script in force all
along. -/
theorem omits_performAll (h : Omits script first second) (held : first.token.held = true)
    (body : List MarkedAction) :
    OmitsRuns script (performAll (MarkedAction.wholeAll body) first)
      (performAll (MarkedAction.remainingAll body) second)
      (MarkedAction.spareAll script body (performAll (MarkedAction.wholeAll body) first).2) := by
  induction body generalizing first second with
  | nil => exact ⟨h, rfl, rfl⟩
  | cons action rest ih =>
    have hscript := scriptAfter_of_held script held action
    have hone := omits_action h (omits_hold_of_held h held) action
    simp only [OmitsAction, hscript] at hone
    have hboth := hone.append (ih hone.session (moves_performAll held [action.whole]).2)
    simp only [MarkedAction.wholeAll, MarkedAction.remainingAll, MarkedAction.spareAll,
      performAll_append, performAll, hscript]
    exact hboth

/-- The waiting runs of both sessions have their turn. -/
theorem omits_release (h : Omits script first second) :
    Omits script first.release.1 second.release.1 ∧
      second.release.2 = spareEvents script [] first.release.2 := by
  rw [release, release, h.token_eq]
  exact spareEvents_runTasks (h.withToken .free) _

/-- **A hold in the open does in one session what it does in the other**, the runs in turn behind its
release included. -/
theorem omits_hold (h : Omits script first second) (free : first.token = .free) (mode : HoldMode)
    (body : List MarkedAction) : OmitsAction script first second (.hold mode body) := by
  have hopen := held_of_free free
  have hopen' : second.token.held = false := by rw [h.token_eq, hopen]
  have htaken : Omits script first.take second.take := h.withToken ⟨true, 0⟩
  have hinside := omits_performAll htaken first.take_held body
  obtain ⟨hreleased, hevents⟩ := omits_release hinside.session
  simp only [OmitsAction, MarkedAction.whole, MarkedAction.remaining?, Option.toList_some,
    performAll, perform_hold_of_free hopen, perform_hold_of_free hopen']
  refine ⟨hreleased, ?_, ?_⟩
  · rw [hinside.entries, hevents]
    rfl
  · simp only [Entry.events_held, Entry.events_nil, List.append_nil, Event.lasting_append,
      hinside.lasting, hevents, lasting_spareEvents]

/-! ### Steps -/

/-- No setup looks at the script. -/
theorem performSetup_withScript (session : Session) (requests : List Request) (setup : Setup) :
    (session.performSetup setup).session.engine.script = session.engine.script ∧
      (session.withScript requests).performSetup setup =
        ⟨(session.performSetup setup).session.withScript requests,
          (session.performSetup setup).answer, (session.performSetup setup).events⟩ := by
  cases setup with
  | start =>
    simp only [performSetup]
    cases hflag : session.engine.initialized with
    | true =>
      rw [start_of_initialized hflag, start_of_initialized
        (show (session.withScript requests).engine.initialized = true from hflag)]
      exact ⟨rfl, rfl⟩
    | false =>
      have hnext : (session.withScript requests).platform.next = session.platform.next := rfl
      rw [start_of_next hflag, start_of_next
        (show (session.withScript requests).engine.initialized = false from hflag), hnext]
      cases session.platform.next <;> exact ⟨rfl, rfl⟩
  | _ => exact ⟨rfl, rfl⟩

/-- Steps that are actions are performed in turn. -/
theorem run_map_action (session : Session) (actions : List Action) :
    session.run (actions.map .action) = performAll actions session := by
  induction actions generalizing session with
  | nil => rfl
  | cons action actions ih => simp only [List.map_cons, run, performAll, step, ih]

/-- **A step does in one session what it does in the other**, without what is omitted. -/
theorem omits_step (h : Omits script first second) (free : first.token = .free)
    (step : MarkedStep) :
    let done := first.step step.whole
    OmitsRuns (step.scriptAfter script done.2) (done.1, [done.2])
      (second.run step.remaining?.toList) (step.spare? script done.2).toList := by
  cases step with
  | setup change =>
    obtain ⟨hscript, hsetup⟩ := performSetup_withScript first (remaining script) change
    have hsecond : second.performSetup change = _ := h.remaining ▸ hsetup
    simp only [MarkedStep.whole, MarkedStep.remaining?, Option.toList_some, run, Session.step,
      hsecond]
    exact ⟨⟨hscript.trans h.whole, rfl⟩, rfl, rfl⟩
  | action marked =>
    have hremaining : (MarkedStep.action marked).remaining?.toList =
        marked.remaining?.toList.map .action := by
      show (marked.remaining?.map Step.action).toList = _
      cases marked.remaining? <;> rfl
    rw [hremaining, run_map_action]
    exact omits_action h (omits_hold h free) marked

/-- **Steps do in one session what they do in the other**, without what is omitted. -/
theorem omits_run (h : Omits script first second) (free : first.token = .free)
    (steps : List MarkedStep) :
    ∃ later, OmitsRuns later (first.run (MarkedStep.wholeAll steps))
      (second.run (MarkedStep.remainingAll steps))
      (MarkedStep.spareAll script steps (first.run (MarkedStep.wholeAll steps)).2) := by
  induction steps generalizing script first second with
  | nil => exact ⟨script, h, rfl, rfl⟩
  | cons step rest ih =>
    have hone := omits_step h free step
    obtain ⟨later, hrest⟩ := ih hone.session (moves_step free step.whole).2
    refine ⟨later, ?_⟩
    have hboth := hone.append hrest
    simp only [MarkedStep.wholeAll, MarkedStep.remainingAll, List.map_cons, List.flatMap_cons,
      run_append, run, MarkedStep.spareAll]
    exact hboth

/-- **Requests do not interfere.** Take any session, and mark for omission any choice of its passive
items: requests other than those for the serial number, frames, and looks at the controller and the
medium, at the top level, under holds, and requests in the scripts of tasks. Without these the session
has the same entries but for what they left: their own entries are missing, and from the events of
tasks the effects and replies of omitted requests. All events that are missing are calls of listeners,
questions to the medium and replies to a task. -/
theorem omissions_unnoticed (scenario : Scenario) (script : List MarkedRequest)
    (steps : List MarkedStep) :
    let full := { scenario with script := whole script }.session.run (MarkedStep.wholeAll steps)
    let less := { scenario with script := remaining script }.session.run
      (MarkedStep.remainingAll steps)
    less.2 = MarkedStep.spareAll script steps full.2 ∧
      Event.lasting (Entry.events less.2) = Event.lasting (Entry.events full.2) := by
  intro full less
  have hstart : Omits script { scenario with script := whole script }.session
      { scenario with script := remaining script }.session := ⟨rfl, rfl⟩
  obtain ⟨later, -, hentries, hlasting⟩ := omits_run hstart rfl steps
  exact ⟨hentries, hlasting⟩

end Session

end UsbComposite
