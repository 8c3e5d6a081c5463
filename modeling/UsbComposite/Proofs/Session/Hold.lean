import UsbComposite.Proofs.Session.Trace

/-!
# Holds are transparent except for the token

A hold over a list of actions is compared with the same actions performed in the open. `aside` is the
comparison: it goes through the list in the open, but passes over the actions that would need the
token, each with the answer that it gets from a holder.

* `performAll_held`: under a hold the actions do what `aside` does, and the runs in turn are counted;
* `runTasks_eq_performAll`: letting the counted runs go is calling them in the open;
* `hold_transparent`: so a hold is `aside` followed by its runs in turn in the open, and it is no
  different from a hold without them with the runs called behind it.

What carries the comparison is that an action which does not need the token does not look at it.
-/

namespace UsbComposite

/-- Whether an action is a run in turn. -/
def Action.isTurn : Action → Bool
  | .single .runInline => true
  | .single _ | .hold _ _ => false

/-- What an action answers while somebody else holds the token, none if it does not need the token.
An interrupt is idle before the start and skips its task behind it, looking at the engine or changing
it fails, a run in turn waits, and a second hold waits or fails by its mode. -/
def Action.heldAnswer? (session : Session) : Action → Option Answer
  | .single .interrupt => some (.cycle (if session.isStarted then .skipped else .idle))
  | .single .inspectEngine => some (.engine (.error .tokenHeld))
  | .single (.adjustEngine _ _ _) => some (.outcome (.error .tokenHeld))
  | .single .runInline => some .pending
  | .hold .waiting _ => some .pending
  | .hold .trying _ => some (.outcome (.error .tokenHeld))
  | .single _ => none

namespace Session

/-- Perform actions in the open, one at a time, and pass over those that need the token: they get the
answer of a held token, come without events and change nothing. -/
def aside (session : Session) : List Action → Session × List Entry
  | [] => (session, [])
  | action :: rest =>
    match action.heldAnswer? session with
    | some answer => ((session.aside rest).1, .answered answer [] :: (session.aside rest).2)
    | none =>
      let done := perform action session
      ((done.1.aside rest).1, done.2 :: (done.1.aside rest).2)

/-- The session with another token. -/
def withToken (session : Session) (token : Token) : Session :=
  { session with token := token }

theorem withToken_self (session : Session) : session.withToken session.token = session := rfl

theorem take_eq_withToken (session : Session) : session.take = session.withToken ⟨true, 0⟩ := rfl

/-! ### Actions that do not need the token -/

/-- **An operation that does not need the token does not look at it**: with any token it gives the
same answer and events and changes the same things. -/
theorem operate_withToken {session : Session} {operation : Operation}
    (h : (Action.single operation).heldAnswer? session = none) (token : Token) :
    (session.withToken token).operate operation =
      ⟨(session.operate operation).session.withToken token, (session.operate operation).answer,
        (session.operate operation).events⟩ := by
  cases operation with
  | interrupt => cases h
  | inspectEngine => cases h
  | adjustEngine initialized initResult script => cases h
  | runInline => cases h
  | _ => rfl

theorem operate_token_of_none {session : Session} {operation : Operation}
    (h : (Action.single operation).heldAnswer? session = none) :
    (session.operate operation).session.token = session.token := by
  rw [operate_token, if_neg]
  rintro ⟨-, rfl⟩
  cases h

/-! ### Actions that need the token -/

/-- While the token is held, an action that needs it gets the answer of a held token, comes without
events and changes nothing but the count of waiting runs. -/
theorem perform_withToken_of_some {session : Session} {action : Action} {answer : Answer}
    (h : action.heldAnswer? session = some answer) (waiting : Nat) :
    perform action (session.withToken ⟨true, waiting⟩) =
      (session.withToken ⟨true, waiting + action.isTurn.toNat⟩, .answered answer []) := by
  cases action with
  | single operation =>
    cases operation with
    | interrupt =>
      cases h
      simp only [perform, operate, interrupt]
      show _ = (_, Entry.answered (.cycle (if session.isStarted then .skipped else .idle)) [])
      have hstarted : (session.withToken ⟨true, waiting⟩).isStarted = session.isStarted := rfl
      rw [hstarted]
      cases session.isStarted <;> rfl
    | inspectEngine =>
      cases h
      rfl
    | adjustEngine initialized initResult script =>
      cases h
      rfl
    | runInline =>
      cases h
      rfl
    | _ => cases h
  | hold mode body =>
    rw [perform_hold_of_held rfl]
    cases mode <;> (cases h; rfl)

/-! ### The actions of a hold -/

theorem aside_of_some {session : Session} {action : Action} {answer : Answer}
    (h : action.heldAnswer? session = some answer) (rest : List Action) :
    session.aside (action :: rest) =
      ((session.aside rest).1, .answered answer [] :: (session.aside rest).2) := by
  simp only [aside, h]

theorem aside_of_none {session : Session} {action : Action}
    (h : action.heldAnswer? session = none) (rest : List Action) :
    session.aside (action :: rest) =
      (((perform action session).1.aside rest).1,
        (perform action session).2 :: ((perform action session).1.aside rest).2) := by
  simp only [aside, h]

/-- An action that does not need the token is a single operation. -/
theorem exists_single_of_none {session : Session} {action : Action}
    (h : action.heldAnswer? session = none) : ∃ operation, action = .single operation := by
  cases action with
  | single operation => exact ⟨operation, rfl⟩
  | hold mode body => cases mode <;> cases h

theorem isTurn_of_none {session : Session} {action : Action}
    (h : action.heldAnswer? session = none) : action.isTurn = false := by
  obtain ⟨operation, rfl⟩ := exists_single_of_none h
  unfold Action.isTurn
  split
  · rename_i heq
    cases heq
    cases h
  · rfl
  · rfl

/-- What happens in the open stays in the open: `aside` never changes the token. -/
theorem aside_token (session : Session) (body : List Action) :
    (session.aside body).1.token = session.token := by
  induction body generalizing session with
  | nil => rfl
  | cons action rest ih =>
    cases hanswer : action.heldAnswer? session with
    | some answer =>
      rw [aside_of_some hanswer]
      exact ih session
    | none =>
      obtain ⟨operation, rfl⟩ := exists_single_of_none hanswer
      rw [aside_of_none hanswer]
      exact (ih _).trans (operate_token_of_none hanswer)

/-- **Under a hold the actions do what they do in the open**, but for those that need the token; the
runs in turn among these are counted. -/
theorem performAll_held (session : Session) (waiting : Nat) (body : List Action) :
    performAll body (session.withToken ⟨true, waiting⟩) =
      ((session.aside body).1.withToken ⟨true, waiting + body.countP Action.isTurn⟩,
        (session.aside body).2) := by
  induction body generalizing session waiting with
  | nil => rfl
  | cons action rest ih =>
    cases hanswer : action.heldAnswer? session with
    | some answer =>
      rw [performAll, perform_withToken_of_some hanswer, aside_of_some hanswer, ih,
        List.countP_cons, Nat.add_assoc, Nat.add_comm action.isTurn.toNat]
      cases action.isTurn <;> rfl
    | none =>
      obtain ⟨operation, rfl⟩ := exists_single_of_none hanswer
      have hone : perform (.single operation) (session.withToken ⟨true, waiting⟩) =
          ((perform (.single operation) session).1.withToken ⟨true, waiting⟩,
            (perform (.single operation) session).2) := by
        simp only [perform, operate_withToken hanswer]
      rw [performAll, hone, aside_of_none hanswer, ih, List.countP_cons, isTurn_of_none hanswer]
      rfl

/-- **Letting waiting runs go is calling them in the open**, in final state and in events. -/
theorem runTasks_eq_performAll {session : Session} (free : session.token.held = false)
    (count : Nat) :
    (performAll (List.replicate count (.single .runInline)) session).1 =
        (runTasks count session).1 ∧
      Entry.events (performAll (List.replicate count (.single .runInline)) session).2 =
        (runTasks count session).2 := by
  induction count generalizing session with
  | zero => exact ⟨rfl, rfl⟩
  | succ count ih =>
    have hdrives : session.drives .runInline = true := by rw [drives, free]; rfl
    obtain ⟨hsession, hevents⟩ := ih (show session.runTask.1.token.held = false from free)
    simp only [List.replicate_succ, performAll, perform, operate_of_drives hdrives, runTasks,
      Entry.events_answered]
    exact ⟨hsession, by rw [hevents]⟩

/-- **A hold in the open** is `aside`, followed by its runs in turn. -/
theorem perform_hold {session : Session} (free : session.token = .free) (mode : HoldMode)
    (body : List Action) :
    perform (.hold mode body) session =
      ((runTasks (body.countP Action.isTurn) (session.aside body).1).1,
        .held (session.aside body).2
          (runTasks (body.countP Action.isTurn) (session.aside body).1).2) := by
  have hopen := held_of_free free
  have hself : (session.aside body).1.withToken .free = (session.aside body).1 := by
    rw [← free, ← aside_token session body, withToken_self]
  rw [perform_hold_of_free hopen, take_eq_withToken, performAll_held, Nat.zero_add]
  simp only [release]
  show ((runTasks _ ((session.aside body).1.withToken .free)).1, _) = _
  rw [hself]
  show (_, Entry.held _ (runTasks _ ((session.aside body).1.withToken .free)).2) = _
  rw [hself]
  rfl

/-! ### Runs in turn moved behind the hold -/

/-- Without its runs in turn `aside` ends in the same state with the same events. -/
theorem aside_filter_isTurn (session : Session) (body : List Action) :
    (session.aside (body.filter (!·.isTurn))).1 = (session.aside body).1 ∧
      Entry.events (session.aside (body.filter (!·.isTurn))).2 =
        Entry.events (session.aside body).2 := by
  induction body generalizing session with
  | nil => exact ⟨rfl, rfl⟩
  | cons action rest ih =>
    cases hanswer : action.heldAnswer? session with
    | some answer =>
      obtain ⟨hsession, hevents⟩ := ih session
      rw [aside_of_some hanswer, List.filter_cons]
      split
      · rw [aside_of_some hanswer, Entry.events_answered, Entry.events_answered, hevents]
        exact ⟨hsession, rfl⟩
      · rw [Entry.events_answered, hevents]
        exact ⟨hsession, rfl⟩
    | none =>
      obtain ⟨operation, rfl⟩ := exists_single_of_none hanswer
      obtain ⟨hsession, hevents⟩ := ih (perform (.single operation) session).1
      rw [List.filter_cons_of_pos (by rw [isTurn_of_none hanswer]; rfl), aside_of_none hanswer,
        aside_of_none hanswer]
      refine ⟨hsession, ?_⟩
      simp only [perform, Entry.events_answered] at hevents ⊢
      rw [hevents]

theorem countP_filter_isTurn (body : List Action) :
    (body.filter (!·.isTurn)).countP Action.isTurn = 0 := by
  rw [List.countP_eq_zero]
  intro action haction
  simpa using (List.mem_filter.mp haction).2

/-- **A hold is transparent except for the token.** In the open, and by either mode, a hold over a
list of actions has the entries inside and the final state of the same actions in the open, where
those that need the token get the answer of a held token and change nothing, followed by its runs in
turn in the open. So it is no different, in final state and in the events of all of it, from a hold
without its runs in turn, with these called behind it. -/
theorem hold_transparent {session : Session} (free : session.token = .free) (mode : HoldMode)
    (body : List Action) :
    let outside := session.aside body
    let turns := List.replicate (body.countP Action.isTurn) (Action.single .runInline)
    let later := performAll turns outside.1
    let behind := performAll (.hold mode (body.filter (!·.isTurn)) :: turns) session
    outside.1.token = .free ∧
      perform (.hold mode body) session =
        (later.1, .held outside.2 (Entry.events later.2)) ∧
      (perform (.hold mode body) session).1 = behind.1 ∧
      Entry.events [(perform (.hold mode body) session).2] = Entry.events behind.2 := by
  intro outside turns later behind
  have hfree : outside.1.token = .free := (aside_token session body).trans free
  obtain ⟨hsession, hevents⟩ := runTasks_eq_performAll
    (show outside.1.token.held = false by rw [hfree]; rfl) (body.countP Action.isTurn)
  have hhold : perform (.hold mode body) session =
      (later.1, .held outside.2 (Entry.events later.2)) := by
    rw [perform_hold free, hsession, hevents]
  have hfilter := aside_filter_isTurn session body
  have hwithout : perform (.hold mode (body.filter (!·.isTurn))) session =
      (outside.1, .held (session.aside (body.filter (!·.isTurn))).2 []) := by
    rw [perform_hold free, countP_filter_isTurn, runTasks, hfilter.1]
  have hbehind : behind =
      (later.1, .held (session.aside (body.filter (!·.isTurn))).2 [] :: later.2) := by
    show performAll (_ :: turns) session = _
    rw [performAll, hwithout]
  refine ⟨hfree, hhold, ?_, ?_⟩
  · rw [hhold, hbehind]
  · rw [hhold, hbehind, Entry.events_held, Entry.events_held, hfilter.2, List.append_nil,
      Entry.events_nil, List.append_nil]

/-- On a started keyboard, a hold in which the task is called before the board changes reads the
changed board, as it does when the task is called behind the hold. -/
theorem hold_transparent_keyboard :
    let started := (Scenario.keyboard.session.run [.setup .start]).1
    let change := Action.single (.changeBoard (.replicate 8 0x1D))
    let turn := Action.single .runInline
    let held := perform (.hold .waiting [turn, .single .interrupt, .hold .trying [turn], change])
      started
    let behind := performAll [.hold .waiting [.single .interrupt, .hold .trying [turn], change], turn]
      started
    started.token = .free ∧ held.1 = behind.1 ∧
      Entry.events [held.2] = Entry.events behind.2 ∧
      held.1.device.serial.generated = some "1D1D1D1D1D1D1D1D" := by
  intro started change turn held behind
  have htransparent := hold_transparent (show started.token = .free from rfl) .waiting
    [turn, .single .interrupt, .hold .trying [turn], change]
  exact ⟨rfl, htransparent.2.2.1, htransparent.2.2.2, by decide⟩

end Session

end UsbComposite
