import UsbComposite.Proofs.Session.Trace

/-!
# Instants of a session

What holds at all times of a session holds between its steps, under a hold between two of its actions,
and behind the release of a hold between two of the runs that waited for it. An **instant** is one of
these times, told by what was done before. The instants of all sessions are those of all lists of
steps, of actions of a hold behind them, and so on; what comes later does not matter to an instant.

* `moves_instant`: an instant is reached by moves, so what moves keep holds at every instant.
-/

namespace UsbComposite

/-- A time of a session. -/
inductive Instant
  /-- Behind steps, in the open. -/
  | between (before : List Step)
  /-- Under a hold, behind some of its actions. -/
  | inside (before : List Step) (body : List Action)
  /-- Behind the release of a hold, when so many of the runs that waited had their turn, or all. -/
  | behind (before : List Step) (body : List Action) (turns : Nat)

/-- The steps that came to their end before an instant. -/
def Instant.steps : Instant → List Step
  | between before | inside before _ | behind before _ _ => before

namespace Session

/-- The session under a hold behind steps, behind some actions of the hold, with their entries. -/
def underHold (session : Session) (before : List Step) (body : List Action) :
    Session × List Entry :=
  performAll body (session.run before).1.take

/-- The session when some of the runs that waited for a hold had their turn, with their events. -/
def behindHold (session : Session) (before : List Step) (body : List Action) (turns : Nat) :
    Session × List Event :=
  let held := (session.underHold before body).1
  runTasks (min turns held.token.waiting) { held with token := .free }

/-- The session at an instant. -/
def atInstant (session : Session) : Instant → Session
  | .between before => (session.run before).1
  | .inside before body => (session.underHold before body).1
  | .behind before body turns => (session.behindHold before body turns).1

/-- The log of all that happened before an instant. -/
def logAt (session : Session) : Instant → List Occurrence
  | .between before => session.log before
  | .inside before body =>
    session.log before ++ .taken :: Entry.logAll (session.underHold before body).2
  | .behind before body turns =>
    session.log before ++ .taken :: Entry.logAll (session.underHold before body).2 ++
      .released :: (session.behindHold before body turns).2.map .event

theorem run_append (session : Session) (before after : List Step) :
    session.run (before ++ after) =
      (((session.run before).1.run after).1,
        (session.run before).2 ++ ((session.run before).1.run after).2) := by
  induction before generalizing session with
  | nil => rfl
  | cons step before ih => simp only [List.cons_append, run, ih]

theorem log_append (session : Session) (before after : List Step) :
    session.log (before ++ after) =
      session.log before ++ (session.run before).1.log after := by
  rw [log, run_append, Entry.logAll_append, log, log]

/-- Under a hold behind steps the token is held. -/
theorem underHold_held (session : Session) (before : List Step) (body : List Action) :
    (session.underHold before body).1.token.held = true :=
  (moves_performAll (session.run before).1.take_held body).2

/-- **An instant is reached by moves.** -/
theorem moves_instant {session : Session} (free : session.token = .free) (instant : Instant) :
    Moves session (session.logAt instant) (session.atInstant instant) := by
  have hinside (before : List Step) (body : List Action) :
      Moves session (session.logAt (.inside before body))
        (session.atInstant (.inside before body)) := by
    obtain ⟨hbefore, hfree⟩ := moves_run free before
    have hbody := (moves_performAll (session.run before).1.take_held body).1
    exact hbefore.append (.cons (.take _ (held_of_free hfree)) hbody)
  cases instant with
  | between before => exact (moves_run free before).1
  | inside before body => exact hinside before body
  | behind before body turns =>
    exact (hinside before body).append
      (.cons (.release _ (underHold_held session before body)) (moves_runTasks rfl _))

end Session

end UsbComposite
