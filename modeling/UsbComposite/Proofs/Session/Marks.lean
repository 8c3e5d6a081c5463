import UsbComposite.Proofs.Session.BoardRead
import UsbComposite.Proofs.Session.Serial

/-!
# What only looks, and what of it is left out

All requests of a host only look, but for the one for the serial number, which may read the board and
keep what it read. So do framing a report and looking at the controller or the medium. Whatever only
looks is **passive**.

Passive items of a session can be chosen for omission: they are **marked** in advance, one by one, at
the top level, under holds and in the scripts of tasks. A marked session stands for two, the whole one
and the one that remains without what is omitted.

* `operate_of_isPassive`: a passive operation leaves the session as it is, and its events are passive;
* `spare?`, `spareEvents`: entries and events without what omitted items left in them;
* `lasting_spareEvents`: sparing takes passive events only.
-/

namespace UsbComposite

/-! ### What only looks -/

/-- Whether a request only looks. -/
def Request.isPassive : Request → Bool
  | .string index _ => index != 3
  | _ => true

/-- Whether an operation only looks. -/
def Operation.isPassive : Operation → Bool
  | .request asked => asked.isPassive
  | .inspect | .frame _ _ | .mediumReady _ => true
  | _ => false

/-- Whether an event is one that a passive request brings about: a listener is called, the medium is
asked, or a task gets its reply. -/
def Event.isPassive : Event → Bool
  | .effect (.notice _) | .effect (.medium _) | .answered _ _ => true
  | _ => false

/-- The events that no passive request brings about. -/
def Event.lasting (events : List Event) : List Event :=
  events.filter (!·.isPassive)

theorem Event.lasting_append (events later : List Event) :
    lasting (events ++ later) = lasting events ++ lasting later :=
  List.filter_append _ _

/-- A passive request leaves the device as it is, and the board unread. -/
theorem Device.respond_of_isPassive {request : Request} (h : request.isPassive = true)
    (device : Device) (board : BoardId) :
    (device.respond board request).device = device ∧
      .boardRead ∉ (device.respond board request).effects := by
  cases request with
  | string index language =>
    have hslot : StringSlot.ofIndex? index ≠ some .serial := by
      rw [Ne, Ask.ofIndex?_eq_serial_iff]
      exact bne_iff_ne.mp h
    simp only [respond]
    cases hfound : StringSlot.ofIndex? index with
    | none => exact ⟨rfl, List.not_mem_nil⟩
    | some slot =>
      rw [hfound] at hslot
      cases slot with
      | serial => exact absurd rfl hslot
      | _ => exact ⟨rfl, by simp⟩
  | _ => exact ⟨rfl, by simp [respond, mediumEffects]⟩

/-- The effects of a request that does not read the board are passive. -/
theorem lasting_effects {effects : List Effect} (h : .boardRead ∉ effects) :
    Event.lasting (effects.map .effect) = [] := by
  rw [Event.lasting, List.filter_eq_nil_iff]
  intro event hevent
  obtain ⟨effect, heffect, rfl⟩ := List.mem_map.mp hevent
  cases effect with
  | boardRead => exact absurd heffect h
  | notice notice => exact Bool.false_ne_true
  | medium request => exact Bool.false_ne_true

/-- **A passive operation leaves the session as it is**, and its events are passive. -/
theorem Session.operate_of_isPassive {operation : Operation} (h : operation.isPassive = true)
    (session : Session) :
    (session.operate operation).session = session ∧
      Event.lasting (session.operate operation).events = [] := by
  cases operation with
  | request request =>
    obtain ⟨hdevice, hunread⟩ := Device.respond_of_isPassive
      (show request.isPassive = true from h) session.device session.board
    refine ⟨?_, lasting_effects hunread⟩
    simp only [operate, hdevice]
  | inspect => exact ⟨rfl, rfl⟩
  | frame report buffer => exact ⟨rfl, rfl⟩
  | mediumReady lun =>
    exact ⟨rfl, lasting_effects (Session.boardRead_notMem_mediumEffects session.device _)⟩
  | _ => cases h

/-! ### Marks -/

/-- A request of a script, with the choice whether it is kept or omitted. -/
inductive MarkedRequest
  | kept (request : Request)
  | omitted (request : Request) (passive : request.isPassive = true)

namespace MarkedRequest

/-- The request, whether kept or omitted. -/
def request : MarkedRequest → Request
  | kept request | omitted request _ => request

/-- The request, if it is kept. -/
def kept? : MarkedRequest → Option Request
  | kept request => some request
  | omitted _ _ => none

/-- The script with all that is marked. -/
def whole (script : List MarkedRequest) : List Request :=
  script.map request

/-- The script without what is omitted. -/
def remaining (script : List MarkedRequest) : List Request :=
  script.filterMap kept?

/-- Whether the first of the requests that lie ahead is omitted. -/
def omitsNext : List MarkedRequest → Bool
  | omitted _ _ :: _ => true
  | _ => false

end MarkedRequest

open MarkedRequest (omitsNext)

/-- The script that an operation gives to the engine. -/
def Operation.script? : Operation → Option (List Request)
  | .adjustEngine _ _ script => script
  | _ => none

/-- An action, with the choice what of it is kept or omitted: an operation, each request of a script
that the engine is given, and each action of a hold. -/
inductive MarkedAction
  | kept (operation : Operation) (plain : operation.script? = none)
  | omitted (operation : Operation) (passive : operation.isPassive = true)
  | adjust (initialized initResult : Option Bool) (script : List MarkedRequest)
  | hold (mode : HoldMode) (body : List MarkedAction)

/-- A step, with the choice what of it is kept or omitted. -/
inductive MarkedStep
  | setup (setup : Setup)
  | action (action : MarkedAction)

namespace MarkedAction

mutual

/-- The action with all that is marked. -/
def whole : MarkedAction → Action
  | kept operation _ | omitted operation _ => .single operation
  | adjust initialized initResult script =>
    .single (.adjustEngine initialized initResult (some (MarkedRequest.whole script)))
  | hold mode body => .hold mode (wholeAll body)

/-- The actions with all that is marked. -/
def wholeAll : List MarkedAction → List Action
  | [] => []
  | action :: rest => whole action :: wholeAll rest

end

mutual

/-- The action without what is omitted, none if it is omitted itself. -/
def remaining? : MarkedAction → Option Action
  | kept operation _ => some (.single operation)
  | omitted _ _ => none
  | adjust initialized initResult script =>
    some (.single (.adjustEngine initialized initResult (some (MarkedRequest.remaining script))))
  | hold mode body => some (.hold mode (remainingAll body))

/-- The actions without what is omitted. -/
def remainingAll : List MarkedAction → List Action
  | [] => []
  | action :: rest => (remaining? action).toList ++ remainingAll rest

end

end MarkedAction

namespace MarkedStep

/-- The step with all that is marked. -/
def whole : MarkedStep → Step
  | .setup change => .setup change
  | .action marked => .action marked.whole

/-- The step without what is omitted, none if it is omitted itself. -/
def remaining? : MarkedStep → Option Step
  | .setup change => some (.setup change)
  | .action marked => marked.remaining?.map .action

/-- The steps with all that is marked. -/
def wholeAll (steps : List MarkedStep) : List Step :=
  steps.map whole

/-- The steps without what is omitted. -/
def remainingAll (steps : List MarkedStep) : List Step :=
  steps.flatMap fun step => step.remaining?.toList

end MarkedStep

/-! ### Sparing entries what omitted items left -/

/-- The requests of the running task that lie ahead behind an event: a task begins with the whole
script, and goes on to the next request with each reply. -/
def Event.ahead (script ahead : List MarkedRequest) : Event → List MarkedRequest
  | .taskBegan _ => script
  | .answered _ _ => ahead.tail
  | _ => ahead

/-- Events without what omitted requests of a script left in them: the passive events that come while
such a request is the next one. -/
def spareEvents (script : List MarkedRequest) : List MarkedRequest → List Event → List Event
  | _, [] => []
  | ahead, event :: rest =>
    let later := spareEvents script (event.ahead script ahead) rest
    if omitsNext ahead && event.isPassive then later else event :: later

namespace MarkedAction

/-- The script in force behind an action with a given entry: a new one is in force once the engine has
taken it. -/
def scriptAfter (script : List MarkedRequest) : MarkedAction → Entry → List MarkedRequest
  | adjust _ _ later, .answered (.outcome (.ok ())) _ => later
  | _, _ => script

mutual

/-- The entry of an action without what omitted items left in it, none if the action is omitted
itself. The answer stays as it is, also that of a hold that was refused. -/
def spare? (script : List MarkedRequest) : MarkedAction → Entry → Option Entry
  | omitted _ _, _ => none
  | hold _ body, .held inside events =>
    some (.held (spareAll script body inside) (spareEvents script [] events))
  | _, .answered answer events => some (.answered answer (spareEvents script [] events))
  | _, entry => some entry

/-- The entries of actions without what omitted items left in them. -/
def spareAll (script : List MarkedRequest) : List MarkedAction → List Entry → List Entry
  | action :: rest, entry :: entries =>
    (spare? script action entry).toList ++
      spareAll (scriptAfter script action entry) rest entries
  | _, _ => []

end

end MarkedAction

namespace MarkedStep

/-- The script in force behind a step with a given entry. -/
def scriptAfter (script : List MarkedRequest) : MarkedStep → Entry → List MarkedRequest
  | .setup _, _ => script
  | .action marked, entry => marked.scriptAfter script entry

/-- The entry of a step without what omitted items left in it, none if the step is omitted itself. -/
def spare? (script : List MarkedRequest) : MarkedStep → Entry → Option Entry
  | .setup _, entry => some entry
  | .action marked, entry => marked.spare? script entry

/-- The entries of steps without what omitted items left in them. -/
def spareAll (script : List MarkedRequest) : List MarkedStep → List Entry → List Entry
  | step :: rest, entry :: entries =>
    (step.spare? script entry).toList ++ spareAll (step.scriptAfter script entry) rest entries
  | _, _ => []

end MarkedStep

/-! ### Sparing events -/

/-- An event stays unless an omitted request is the next one. -/
theorem spareEvents_cons_of_not_omitsNext {ahead : List MarkedRequest}
    (h : omitsNext ahead = false) (script : List MarkedRequest) (event : Event)
    (rest : List Event) :
    spareEvents script ahead (event :: rest) =
      event :: spareEvents script (event.ahead script ahead) rest := by
  rw [spareEvents, h, Bool.false_and, if_neg Bool.false_ne_true]

/-- A passive event goes while an omitted request is the next one. -/
theorem spareEvents_cons_of_omitsNext {ahead : List MarkedRequest} {event : Event}
    (h : omitsNext ahead = true) (passive : event.isPassive = true)
    (script : List MarkedRequest) (rest : List Event) :
    spareEvents script ahead (event :: rest) =
      spareEvents script (event.ahead script ahead) rest := by
  rw [spareEvents, h, passive, Bool.and_self, if_pos rfl]

/-- Sparing takes passive events only. -/
theorem lasting_spareEvents (script ahead : List MarkedRequest) (events : List Event) :
    Event.lasting (spareEvents script ahead events) = Event.lasting events := by
  induction events generalizing ahead with
  | nil => rfl
  | cons event rest ih =>
    simp only [Event.lasting] at ih
    simp only [spareEvents, Event.lasting]
    split
    · rename_i hspared
      rw [Bool.and_eq_true] at hspared
      rw [ih, List.filter_cons_of_neg (by rw [hspared.2]; decide)]
    · rw [List.filter_cons, List.filter_cons, ih]

/-- Behind the last request of a task nothing is spared until the next task begins. -/
theorem spareEvents_of_quiet {events : List Event}
    (quiet : ∀ event ∈ events, (Occurrence.event event).isMark = false)
    (script : List MarkedRequest) : spareEvents script [] events = events := by
  induction events with
  | nil => rfl
  | cons event rest ih =>
    obtain ⟨hevent, hrest⟩ := List.forall_mem_cons.mp quiet
    have hahead : event.ahead script [] = [] := by
      cases event <;> first | rfl | cases hevent
    rw [spareEvents_cons_of_not_omitsNext rfl, hahead, ih hrest]

/-- A kept request keeps its effects. -/
theorem spareEvents_effects_kept (script ahead : List MarkedRequest) (request : Request)
    (effects : List Effect) (rest : List Event) :
    spareEvents script (.kept request :: ahead) (effects.map .effect ++ rest) =
      effects.map .effect ++ spareEvents script (.kept request :: ahead) rest := by
  induction effects with
  | nil => rfl
  | cons effect effects ih =>
    rw [List.map_cons, List.cons_append, spareEvents_cons_of_not_omitsNext rfl]
    exact congrArg _ ih

/-- An omitted request is spared its effects. -/
theorem spareEvents_effects_omitted (script ahead : List MarkedRequest) {request : Request}
    (passive : request.isPassive = true) {effects : List Effect} (unread : .boardRead ∉ effects)
    (rest : List Event) :
    spareEvents script (.omitted request passive :: ahead) (effects.map .effect ++ rest) =
      spareEvents script (.omitted request passive :: ahead) rest := by
  induction effects with
  | nil => rfl
  | cons effect effects ih =>
    rw [List.mem_cons, not_or] at unread
    have hpassive : (Event.effect effect).isPassive = true := by
      cases effect with
      | boardRead => exact absurd rfl unread.1
      | notice notice => rfl
      | medium request => rfl
    rw [List.map_cons, List.cons_append, spareEvents_cons_of_omitsNext rfl hpassive]
    exact ih unread.2

end UsbComposite
