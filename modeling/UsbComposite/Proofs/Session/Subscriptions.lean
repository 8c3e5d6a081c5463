import UsbComposite.Proofs.Device.Life
import UsbComposite.Proofs.Session.Instants
import UsbComposite.Proofs.SetReport.FirstTwo

/-!
# The listeners of a session

In a session listeners are subscribed by operations, in the open or under a hold, and by nothing else.
So at every instant the listeners that are registered are the first two of the subscriptions that the
operations before it attempted, as they are for a table by itself.

* `registered_operate`: an operation changes the listeners by the subscription that it attempts;
* `subscribes`: what attempting one comes to, in every session;
* `registered_atInstant`: so at every instant the first two attempted are registered.
-/

namespace UsbComposite

/-! ### Attempts in a session -/

/-- The listener that an operation is to subscribe. -/
def Operation.subscription? : Operation → Option Listener
  | .subscribe listener => some listener
  | _ => none

/-- The listener that an action under a hold is to subscribe. Another hold does not happen there. -/
def Action.subscription? : Action → Option Listener
  | .single operation => operation.subscription?
  | .hold _ _ => none

/-- The listeners that a step in the open is to subscribe, in order. -/
def Step.subscriptions : Step → List Listener
  | .setup _ => []
  | .action (.single operation) => operation.subscription?.toList
  | .action (.hold _ body) => body.filterMap Action.subscription?

/-- The listeners that were to be subscribed before an instant, in order. -/
def Instant.subscriptions : Instant → List Listener
  | .between before => before.flatMap Step.subscriptions
  | .inside before body | .behind before body _ =>
    before.flatMap Step.subscriptions ++ body.filterMap Action.subscription?

/-! ### The device -/

namespace Device

theorem listeners_buildReports (device : Device) :
    device.buildReports.1.listeners = device.listeners := by
  obtain ⟨reports, hbuilt⟩ := exists_buildReports_eq device
  rw [hbuilt]

theorem listeners_buildConfiguration (device : Device) :
    device.buildConfiguration.1.listeners = device.listeners := by
  obtain ⟨reports, configuration, hbuilt⟩ := exists_buildConfiguration_eq device
  rw [hbuilt]

theorem listeners_replaceIdentity (device : Device) (identity : Identity) :
    (device.replaceIdentity identity).1.listeners = device.listeners := by
  obtain hsame | ⟨-, hnew⟩ := replaceIdentity_cases device identity
  · rw [hsame]
  · rw [hnew]

theorem listeners_respond (device : Device) (board : BoardId) (request : Request) :
    (device.respond board request).device.listeners = device.listeners := by
  obtain hsame | hshown := respond_cases device board request
  · rw [hsame]
  · rw [hshown]

end Device

/-! ### The session -/

namespace Session

open Dispatch (subscribed subscribed_eq_take take_take_append)

/-- The listeners that are registered. -/
def registered (session : Session) : List Listener :=
  session.device.listeners.listeners

theorem registered_le (session : Session) :
    session.registered.length ≤ ListenerTable.capacity :=
  session.device.listeners.length_le

theorem listeners_answerAll (board : BoardId) (requests : List Request) (device : Device) :
    (answerAll board requests device).1.listeners = device.listeners := by
  induction requests generalizing device with
  | nil => rfl
  | cons request rest ih => exact (ih _).trans (Device.listeners_respond device board request)

theorem registered_runTask (session : Session) :
    session.runTask.1.registered = session.registered :=
  congrArg ListenerTable.listeners (listeners_answerAll _ _ session.device)

theorem registered_runTasks (count : Nat) (session : Session) :
    (runTasks count session).1.registered = session.registered := by
  induction count generalizing session with
  | zero => rfl
  | succ count ih => exact (ih _).trans (registered_runTask session)

/-- No setup subscribes anybody. -/
theorem registered_performSetup (session : Session) (setup : Setup) :
    (session.performSetup setup).session.registered = session.registered := by
  have hsetup : (session.performSetup setup).session.device.listeners =
      session.device.listeners := by
    cases setup with
    | replaceIdentity identity => exact Device.listeners_replaceIdentity session.device identity
    | buildReports => exact Device.listeners_buildReports session.device
    | buildConfiguration => exact Device.listeners_buildConfiguration session.device
    | prepare => exact Device.listeners_buildConfiguration session.device
    | start =>
      obtain hsame | hprepared := start_device_cases session
      · rw [performSetup, hsame]
      · rw [performSetup, hprepared]
        exact Device.listeners_buildConfiguration session.device
  rw [registered, hsetup, registered]

/-- Subscribing is a subscription to the table that is registered. -/
theorem operate_subscribe (session : Session) (listener : Listener) :
    (session.operate (.subscribe listener)).session.registered =
        (subscribed session.registered listener).1 ∧
      (session.operate (.subscribe listener)).answer =
        .outcome (subscribed session.registered listener).2 := by
  obtain ⟨htable, houtcome⟩ := ListenerTable.listeners_attempt session.device.listeners listener
  exact ⟨htable, congrArg Answer.outcome houtcome⟩

/-- **No operation but a subscription changes the listeners.** -/
theorem registered_operate_of_none (session : Session) {operation : Operation}
    (h : operation.subscription? = none) :
    (session.operate operation).session.registered = session.registered := by
  cases hdrives : session.drives operation with
  | true =>
    rw [operate_of_drives hdrives]
    exact registered_runTask session
  | false =>
    cases operation with
    | request request =>
      exact congrArg ListenerTable.listeners
        (Device.listeners_respond session.device session.board request)
    | subscribe listener => cases h
    | interrupt => rw [operate_interrupt_of_not_drives hdrives]
    | inspectEngine =>
      simp only [operate]
      split <;> rfl
    | adjustEngine initialized initResult script =>
      simp only [operate]
      split <;> rfl
    | runInline =>
      rw [operate_runInline_of_not_drives hdrives]
      rfl
    | _ => rfl

/-- **An operation changes the listeners by the subscription that it attempts**, if any. -/
theorem registered_operate (session : Session) (operation : Operation) :
    (session.operate operation).session.registered =
      (session.registered ++ operation.subscription?.toList).take ListenerTable.capacity := by
  cases hsubscription : operation.subscription? with
  | none =>
    rw [registered_operate_of_none session hsubscription, Option.toList_none, List.append_nil,
      List.take_of_length_le session.registered_le]
  | some listener =>
    cases operation with
    | subscribe other =>
      cases hsubscription
      rw [(operate_subscribe session listener).1]
      exact subscribed_eq_take session.registered_le listener
    | _ => cases hsubscription

/-- Under a hold the listeners change by what the actions attempt. -/
theorem registered_performAll {session : Session} (held : session.token.held = true)
    (body : List Action) :
    (performAll body session).1.registered =
      (session.registered ++ body.filterMap Action.subscription?).take
        ListenerTable.capacity := by
  induction body generalizing session with
  | nil =>
    rw [List.filterMap_nil, List.append_nil, List.take_of_length_le session.registered_le]
    rfl
  | cons action rest ih =>
    cases action with
    | single operation =>
      have hheld : (session.operate operation).session.token.held = true := by
        rw [operate_held, held]
      have hsubscriptions : (Action.single operation :: rest).filterMap Action.subscription? =
          operation.subscription?.toList ++ rest.filterMap Action.subscription? := by
        rw [List.filterMap_cons, Action.subscription?]
        cases operation.subscription? <;> rfl
      have hrest := ih hheld
      rw [registered_operate, take_take_append, List.append_assoc] at hrest
      rw [hsubscriptions]
      exact hrest
    | hold mode inner =>
      have hrest := ih held
      simp only [performAll, perform_hold_of_held held]
      exact hrest

/-- **A step in the open changes the listeners by what it attempts.** -/
theorem registered_step {session : Session} (free : session.token = .free) (step : Step) :
    (session.step step).1.registered =
      (session.registered ++ step.subscriptions).take ListenerTable.capacity := by
  cases step with
  | setup setup =>
    rw [Step.subscriptions, List.append_nil, List.take_of_length_le session.registered_le]
    exact registered_performSetup session setup
  | action action =>
    cases action with
    | single operation => exact registered_operate session operation
    | hold mode body =>
      have hopen := held_of_free free
      have hbody := registered_performAll session.take_held body
      simp only [Session.step, perform_hold_of_free hopen]
      exact (registered_runTasks _ _).trans hbody

/-- **Steps change the listeners by what they attempt**, all in all. -/
theorem registered_run {session : Session} (free : session.token = .free) (steps : List Step) :
    (session.run steps).1.registered =
      (session.registered ++ steps.flatMap Step.subscriptions).take ListenerTable.capacity := by
  induction steps generalizing session with
  | nil =>
    rw [List.flatMap_nil, List.append_nil, List.take_of_length_le session.registered_le]
    rfl
  | cons step rest ih =>
    have hrest := ih (moves_step free step).2
    rw [registered_step free, take_take_append, List.append_assoc] at hrest
    rw [List.flatMap_cons]
    exact hrest

/-- **At every instant the first two subscriptions that were attempted are registered**, behind those
that there were at first. -/
theorem registered_atInstant {session : Session} (free : session.token = .free)
    (instant : Instant) :
    (session.atInstant instant).registered =
      (session.registered ++ instant.subscriptions).take ListenerTable.capacity := by
  have hinside (before : List Step) (body : List Action) :
      (session.underHold before body).1.registered =
        (session.registered ++ (before.flatMap Step.subscriptions ++
          body.filterMap Action.subscription?)).take ListenerTable.capacity := by
    have hbody := registered_performAll (session.run before).1.take_held body
    have htaken : (session.run before).1.take.registered = (session.run before).1.registered := rfl
    rw [htaken, registered_run free, take_take_append, List.append_assoc] at hbody
    exact hbody
  cases instant with
  | between before => exact registered_run free before
  | inside before body => exact hinside before body
  | behind before body turns => exact (registered_runTasks _ _).trans (hinside before body)

/-! ### What subscribing comes to -/

/-- What attempting a subscription comes to, and that nothing else touches the listeners. -/
structure Subscribes (session : Session) : Prop where
  ok_iff : ∀ listener, (session.operate (.subscribe listener)).answer = .outcome (.ok ()) ↔
    session.registered.length < ListenerTable.capacity
  taken : ∀ listener, session.registered.length < ListenerTable.capacity →
    (session.operate (.subscribe listener)).session.registered = session.registered ++ [listener]
  /-- A subscription that is refused changes nothing at all. -/
  refused : ∀ listener, ¬ session.registered.length < ListenerTable.capacity →
    session.operate (.subscribe listener) =
      ⟨session, .outcome (.error .listenerTableFull), []⟩
  operation : ∀ operation, (∀ listener, operation ≠ .subscribe listener) →
    (session.operate operation).session.registered = session.registered
  setup : ∀ setup, (session.performSetup setup).session.registered = session.registered
  task : session.runTask.1.registered = session.registered

/-- A subscription to a full table leaves the session as it is. -/
theorem operate_subscribe_of_full {session : Session}
    (h : ¬ session.registered.length < ListenerTable.capacity) (listener : Listener) :
    session.operate (.subscribe listener) =
      ⟨session, .outcome (.error .listenerTableFull), []⟩ := by
  have hfull : session.device.listeners.attempt listener =
      (session.device.listeners, .error .listenerTableFull) := by
    have hsubscribe : session.device.listeners.subscribe listener = .error .listenerTableFull :=
      dif_neg h
    rw [ListenerTable.attempt, hsubscribe]
  simp only [operate, onDevice, Device.subscribe, hfull]

/-- **In every session a subscription is taken exactly while a place is free.** -/
theorem subscribes (session : Session) : session.Subscribes := by
  constructor
  case ok_iff =>
    intro listener
    rw [(operate_subscribe session listener).2, subscribed]
    split
    · rename_i hfree
      exact iff_of_true rfl hfree
    · rename_i hfull
      exact iff_of_false (by simp) hfull
  case taken =>
    intro listener hfree
    rw [(operate_subscribe session listener).1, subscribed, if_pos hfree]
  case refused => exact fun listener hfull => operate_subscribe_of_full hfull listener
  case operation =>
    intro operation hother
    apply registered_operate_of_none
    cases operation with
    | subscribe listener => exact absurd rfl (hother listener)
    | _ => rfl
  case setup => exact registered_performSetup session
  case task => exact registered_runTask session

end Session

/-- **The first two subscriptions ever attempted are registered.** Whatever listeners of any kind do to
a table during their calls, from whatever steps on an empty table on, it holds at all times the first
two of the subscriptions attempted so far, in their order; each of these is taken exactly while a place
is free and otherwise refused, with the table unchanged, and nothing else changes the table. The steps
of a listener table go in this way and come to their end.

In the same way, at every instant of every session the listeners registered with its device are the
first two of those that the operations before were to subscribe. -/
theorem Dispatch.first_two_subscribed :
    (∀ (L : Type) (may : L → Delivery → List (Deed L) → Prop) (steps : List (Deed L))
      (log : List (Moment L)) (now : Scene L), Beats may (.ofSteps steps []) log now →
        now.table = (attempts log).take 2 ∧
        ∀ (moments : List (Moment L)) (next : Scene L), Beat may now moments next →
          Keeps now.table moments next.table) ∧
    (∀ steps : List (Deed Listener), ∃ log,
      Beats Listener.Does (.ofSteps steps []) log
        ⟨[], (ListenerTable.empty.performDeeds steps).1.listeners⟩ ∧
      log.map Moment.happening = (ListenerTable.empty.performDeeds steps).2 ∧
      (ListenerTable.empty.performDeeds steps).1.length = min 2 (attempts log).length) ∧
    ∀ (scenario : Scenario) (instant : Instant),
      (scenario.session.atInstant instant).registered = instant.subscriptions.take 2 ∧
        (scenario.session.atInstant instant).Subscribes := by
  refine ⟨?_, ?_, ?_⟩
  · intro L may steps log now hbeats
    exact ⟨hbeats.table_eq (Nat.zero_le _), fun moments next hbeat => hbeat.keeps⟩
  · intro steps
    obtain ⟨log, hbeats, hlog⟩ := ListenerTable.empty.exists_beats_performDeeds steps
    refine ⟨log, hbeats, hlog, ?_⟩
    have htable : (ListenerTable.empty.performDeeds steps).1.listeners = (attempts log).take 2 :=
      hbeats.table_eq (Nat.zero_le _)
    rw [ListenerTable.length, htable, List.length_take]
  · intro scenario instant
    exact ⟨Session.registered_atInstant scenario.session_token instant, Session.subscribes _⟩

/-- A growing listener fills the table when it is called, and a later subscription is refused. -/
example :
    let steps : List (Dispatch.Deed Listener) :=
      [.subscribe .growing, .dispatch ⟨0, 1, .output, []⟩, .subscribe .lamps]
    (ListenerTable.empty.performDeeds steps).1.listeners = [.growing, .second] ∧
      (ListenerTable.empty.performDeeds steps).2 =
        [.subscribed (.ok ()), .called .growing ⟨0, 1, .output, []⟩, .subscribed (.ok ()),
          .subscribed (.error .listenerTableFull)] := by
  decide

end UsbComposite
