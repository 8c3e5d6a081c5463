import UsbComposite.Proofs.Device.Asks
import UsbComposite.Proofs.Session.Trace

/-!
# The asks of a session

Requests reach a device from steps, from actions under a hold and from the scripts of tasks. The
**asks** of a session are all of them, in order, each with the device and the board as they are when
it is put. A log tells less, since it keeps neither the identity nor the board that were in force.

* `sightings_log`: the replies in a log, and the readings of the board, are those of the asks, in
  the same order;
* `accounted_perform`: through an action a device does nothing but attend to its asks.
-/

namespace UsbComposite

/-- What a log tells of an ask. -/
inductive Sighting
  | boardRead
  | exchanged (request : Request) (reply : Reply)
deriving DecidableEq

/-- What an ask leaves in the log: the board is read before the reply is given. -/
def Ask.sightings (ask : Ask) : List Sighting :=
  (if ask.reads then [.boardRead] else []) ++ [.exchanged ask.request ask.reply]

/-- What an occurrence tells of an ask. -/
def Occurrence.sighting? : Occurrence → Option Sighting
  | .event (.effect .boardRead) => some .boardRead
  | .event (.answered request reply) | .answer (.reply request reply) =>
    some (.exchanged request reply)
  | _ => none

namespace Session

open Occurrence (sighting?)

/-! ### Where asks come from -/

/-- The asks of requests that are put one after the other. -/
def answerAsks (board : BoardId) : List Request → Device → List Ask
  | [], _ => []
  | request :: rest, device =>
    ⟨device, board, request⟩ :: answerAsks board rest (device.respond board request).device

/-- The asks of a task: the requests of its script. -/
def taskAsks (session : Session) : List Ask :=
  answerAsks session.board session.engine.script session.device

/-- The asks of a number of tasks in turn. -/
def tasksAsks : Nat → Session → List Ask
  | 0, _ => []
  | count + 1, session => session.taskAsks ++ tasksAsks count session.runTask.1

/-- The asks of an operation: a request itself, or those of a task that it runs. -/
def operateAsks (session : Session) : Operation → List Ask
  | .request request => [⟨session.device, session.board, request⟩]
  | operation => if session.drives operation then session.taskAsks else []

/-- The asks of actions under a hold, where another hold does not happen. -/
def heldAsks : List Action → Session → List Ask
  | [], _ => []
  | .single operation :: rest, session =>
    session.operateAsks operation ++ heldAsks rest (session.operate operation).session
  | .hold _ _ :: rest, session => heldAsks rest session

/-- The asks of tasks that have waited for the token, when it is released. -/
def releaseAsks (session : Session) : List Ask :=
  tasksAsks session.token.waiting { session with token := .free }

/-- The asks of an action. -/
def performAsks (session : Session) : Action → List Ask
  | .single operation => session.operateAsks operation
  | .hold _ body =>
    if session.token.held then []
    else heldAsks body session.take ++ (performAll body session.take).1.releaseAsks

/-- The asks of steps: setup puts no request. -/
def asks (session : Session) : List Step → List Ask
  | [] => []
  | .setup setup :: rest => (session.performSetup setup).session.asks rest
  | .action action :: rest => session.performAsks action ++ (perform action session).1.asks rest

/-! ### Asks account for the log -/

/-- Between two sessions a device attends to asks, and the log tells of these and of no others. -/
structure Accounted (first : Session) (asks : List Ask) (log : List Occurrence) (last : Session) :
    Prop where
  sightings : log.filterMap sighting? = asks.flatMap Ask.sightings
  attends : first.device.Attends asks last.device

theorem Accounted.append {first second third : Session} {asks later : List Ask}
    {log rest : List Occurrence} (h : Accounted first asks log second)
    (h' : Accounted second later rest third) :
    Accounted first (asks ++ later) (log ++ rest) third := by
  refine ⟨?_, h.attends.append h'.attends⟩
  rw [List.filterMap_append, List.flatMap_append, h.sightings, h'.sightings]

/-- A log that tells of no ask, with the device kept. -/
theorem accounted_of_silent {first last : Session} {log : List Occurrence}
    (silent : log.filterMap sighting? = []) (device : last.device = first.device) :
    Accounted first [] log last :=
  ⟨silent, device ▸ .nil first.device⟩

theorem sightings_of_not_boardRead {effects : List Effect} (h : .boardRead ∉ effects) :
    ((effects.map Event.effect).map Occurrence.event).filterMap sighting? = [] := by
  rw [List.filterMap_eq_nil_iff]
  intro occurrence hoccurrence
  simp only [List.map_map, List.mem_map, Function.comp_apply] at hoccurrence
  obtain ⟨effect, heffect, rfl⟩ := hoccurrence
  cases effect with
  | boardRead => exact absurd heffect h
  | notice notice => rfl
  | medium request => rfl

theorem boardRead_notMem_mediumEffects (device : Device) (request : MediumRequest) :
    .boardRead ∉ device.mediumEffects request := by
  simp [Device.mediumEffects]

/-- An answer reads the board once and does nothing else besides, or does not read it. -/
theorem effects_cases (device : Device) (board : BoardId) (request : Request) :
    (device.respond board request).effects = [.boardRead] ∨
      .boardRead ∉ (device.respond board request).effects := by
  cases request with
  | string index language =>
    simp only [Device.respond]
    cases StringSlot.ofIndex? index with
    | none => exact .inr (by simp)
    | some slot =>
      simp only
      split
      · exact .inl rfl
      · exact .inr (by simp)
  | setReport delivery => exact .inr (by simp [Device.respond])
  | unitReady lun => exact .inr (boardRead_notMem_mediumEffects _ _)
  | geometry lun => exact .inr (boardRead_notMem_mediumEffects _ _)
  | inquiry lun => exact .inr (boardRead_notMem_mediumEffects _ _)
  | read start buffer => exact .inr (boardRead_notMem_mediumEffects _ _)
  | write start data => exact .inr (boardRead_notMem_mediumEffects _ _)
  | command lun bytes buffer => exact .inr (boardRead_notMem_mediumEffects _ _)
  | _ => exact .inr (by simp [Device.respond])

/-- **An answer and its effects tell of the ask**, whether the answer is a step's or a task's. -/
theorem sightings_respond (device : Device) (board : BoardId) (request : Request)
    {occurrence : Occurrence}
    (h : occurrence.sighting? =
      some (.exchanged request (device.respond board request).reply)) :
    (((device.respond board request).effects.map Event.effect).map Occurrence.event ++
        [occurrence]).filterMap sighting? =
      Ask.sightings ⟨device, board, request⟩ := by
  rw [List.filterMap_append, Ask.sightings, Ask.reads, Ask.response, Ask.reply, Ask.response]
  congr 1
  · obtain hread | hother := effects_cases device board request
    · rw [hread]
      rfl
    · rw [sightings_of_not_boardRead hother, if_neg (by simpa using hother)]
  · rw [List.filterMap_cons, h]
    rfl

theorem accounted_answerAll (session : Session) (requests : List Request) :
    Accounted session (answerAsks session.board requests session.device)
      ((answerAll session.board requests session.device).2.map .event)
      { session with device := (answerAll session.board requests session.device).1 } := by
  induction requests generalizing session with
  | nil => exact accounted_of_silent rfl rfl
  | cons request rest ih =>
    have hrest := ih { session with
      device := (session.device.respond session.board request).device }
    refine ⟨?_, .ask session.board request hrest.attends⟩
    have hfirst := sightings_respond session.device session.board request
      (show (Occurrence.event (.answered request _)).sighting? = _ from rfl)
    simp only [answerAll, answerAsks, List.map_append, List.map_cons, List.flatMap_cons]
    rw [List.append_cons, List.filterMap_append, hfirst]
    exact congrArg _ hrest.sightings

theorem accounted_runTask (session : Session) :
    Accounted session session.taskAsks (session.runTask.2.map .event) session.runTask.1 := by
  obtain ⟨hsightings, hattends⟩ := accounted_answerAll session session.engine.script
  refine ⟨?_, hattends⟩
  simp only [runTask, List.map_append, List.map_cons, List.map_nil, List.cons_append,
    List.filterMap_cons, List.filterMap_append, hsightings, sighting?]
  exact List.append_nil _

theorem accounted_runTasks (count : Nat) (session : Session) :
    Accounted session (tasksAsks count session) ((runTasks count session).2.map .event)
      (runTasks count session).1 := by
  induction count generalizing session with
  | zero => exact accounted_of_silent rfl rfl
  | succ count ih =>
    simp only [runTasks, List.map_append]
    exact (accounted_runTask session).append (ih _)

/-- An operation that is neither a request nor runs a task has no asks. -/
theorem operateAsks_of_not_drives {session : Session} {operation : Operation}
    (h : session.drives operation = false) (hother : ∀ request, operation ≠ .request request) :
    session.operateAsks operation = [] := by
  cases operation with
  | request request => exact absurd rfl (hother request)
  | _ => simp only [operateAsks, h, Bool.false_eq_true, if_false]

/-- **An operation is accounted for**. -/
theorem accounted_operate (session : Session) (operation : Operation) :
    Accounted session (session.operateAsks operation) (session.operate operation).log
      (session.operate operation).session := by
  cases hdrives : session.drives operation with
  | true =>
    have hasks : session.operateAsks operation = session.taskAsks := by
      cases operation with
      | request request => cases hdrives
      | _ => exact if_pos hdrives
    rw [operate_of_drives hdrives, hasks, ← List.append_nil session.taskAsks]
    refine (accounted_runTask session).append (accounted_of_silent ?_ rfl)
    split <;> rfl
  | false =>
    have hasks := operateAsks_of_not_drives hdrives
    cases operation with
    | request request =>
      have hanswer := sightings_respond session.device session.board request
        (show (Occurrence.answer (.reply request _)).sighting? = _ from rfl)
      exact ⟨hanswer.trans (List.append_nil _).symm, .ask session.board request (.nil _)⟩
    | subscribe listener =>
      rw [hasks (by simp)]
      exact ⟨rfl, .subscribe listener (.nil _)⟩
    | mediumReady lun =>
      rw [hasks (by simp)]
      refine accounted_of_silent ?_ rfl
      simp only [operate, Result.log, Entry.log, List.filterMap_append,
        sightings_of_not_boardRead (boardRead_notMem_mediumEffects _ _)]
      rfl
    | alarm =>
      rw [hasks (by simp)]
      refine accounted_of_silent ?_ rfl
      simp only [operate, Result.log, Entry.log]
      cases session.line <;> rfl
    | interrupt =>
      rw [hasks (by simp), operate_interrupt_of_not_drives hdrives]
      exact accounted_of_silent rfl rfl
    | inspectEngine =>
      rw [hasks (by simp)]
      simp only [operate]
      split <;> exact accounted_of_silent rfl rfl
    | adjustEngine initialized initResult script =>
      rw [hasks (by simp)]
      simp only [operate]
      split <;> exact accounted_of_silent rfl rfl
    | runInline =>
      rw [hasks (by simp), operate_runInline_of_not_drives hdrives]
      exact accounted_of_silent rfl rfl
    | _ =>
      rw [hasks (by simp)]
      exact accounted_of_silent rfl rfl

/-- A hold that is refused tells of no ask. -/
theorem accounted_refuse (session : Session) (mode : HoldMode) :
    Accounted session [] [.answer (refusal mode)] session := by
  cases mode <;> exact accounted_of_silent rfl rfl

/-- Under a hold all actions are accounted for. -/
theorem accounted_performAll {session : Session} (held : session.token.held = true)
    (body : List Action) :
    Accounted session (heldAsks body session) (Entry.logAll (performAll body session).2)
      (performAll body session).1 := by
  induction body generalizing session with
  | nil => exact accounted_of_silent rfl rfl
  | cons action rest ih =>
    cases action with
    | single operation =>
      have hheld : (session.operate operation).session.token.held = true := by
        rw [operate_held, held]
      exact (accounted_operate session operation).append (ih hheld)
    | hold mode inner =>
      simp only [performAll, perform_hold_of_held held, Entry.logAll]
      exact (accounted_refuse session mode).append (ih held)

/-- **An action is accounted for**, and through it a device does nothing but attend to its asks. -/
theorem accounted_perform (session : Session) (action : Action) :
    Accounted session (session.performAsks action) (perform action session).2.log
      (perform action session).1 := by
  cases action with
  | single operation => exact accounted_operate session operation
  | hold mode body =>
    rw [performAsks]
    cases hheld : session.token.held with
    | true =>
      rw [perform_hold_of_held hheld]
      exact accounted_refuse session mode
    | false =>
      rw [perform_hold_of_free hheld, if_neg (by decide)]
      have htaken : Accounted session [] [.taken] session.take := accounted_of_silent rfl rfl
      have hinside := accounted_performAll session.take_held body
      have hreleased : Accounted (performAll body session.take).1 [] [.released]
          { (performAll body session.take).1 with token := .free } :=
        accounted_of_silent rfl rfl
      exact (htaken.append hinside).append (hreleased.append (accounted_runTasks _ _))

theorem sightings_performSetup (session : Session) (setup : Setup) :
    (session.performSetup setup).log.filterMap sighting? = [] := by
  cases setup with
  | start =>
    simp only [performSetup]
    obtain ⟨-, h⟩ | ⟨-, fault, -, h⟩ | ⟨-, -, -, h⟩ | ⟨-, -, line, -, h⟩ := start_cases session <;>
      rw [h] <;> rfl
  | _ => rfl

/-- **The asks of a session account for its log**: what the log tells of requests and of the board is
what its asks leave, in the same order. -/
theorem sightings_log (session : Session) (steps : List Step) :
    (session.log steps).filterMap sighting? = (session.asks steps).flatMap Ask.sightings := by
  induction steps generalizing session with
  | nil => rfl
  | cons step rest ih =>
    have hlog : session.log (step :: rest) =
        (session.step step).2.log ++ (session.step step).1.log rest := rfl
    rw [hlog, List.filterMap_append, ih]
    cases step with
    | setup setup =>
      have hsetup : (session.step (.setup setup)).2.log.filterMap sighting? = [] :=
        sightings_performSetup session setup
      rw [hsetup]
      rfl
    | action action =>
      have haction : (session.step (.action action)).2.log.filterMap sighting? = _ :=
        (accounted_perform session action).sightings
      rw [haction, asks, List.flatMap_append]
      rfl

end Session

end UsbComposite
