import UsbComposite.Session.Run

/-!
# The log of a session

The entries of a session are nested like its holds. Its **log** is the one list of everything that
happened, in the order in which it happened: the events of each step and its answer, with marks where
a hold takes the token and where it releases it. The events of the runs that waited for a hold come
behind the mark of its release.

Forgetting the marks and answers leaves the events alone (`events`), and the answers of all steps,
also those inside holds, can be read off as well (`answers`).
-/

namespace UsbComposite

/-- An item of a session's log. -/
inductive Occurrence
  | event (event : Event)
  | answer (answer : Answer)
  /-- A hold has taken the token. -/
  | taken
  /-- A hold has released the token. -/
  | released
deriving DecidableEq

namespace Entry

mutual

/-- Everything that an entry records, in order. -/
def log : Entry → List Occurrence
  | .answered answer events => events.map .event ++ [.answer answer]
  | .held inside events => .taken :: logAll inside ++ .released :: events.map .event

/-- Everything that entries record, in order. -/
def logAll : List Entry → List Occurrence
  | [] => []
  | entry :: rest => log entry ++ logAll rest

end

/-- The events of entries, in order. -/
def events (entries : List Entry) : List Event :=
  (logAll entries).filterMap fun occurrence =>
    match occurrence with
    | .event event => some event
    | _ => none

/-- The answers of entries, also inside holds, in order. -/
def answers (entries : List Entry) : List Answer :=
  (logAll entries).filterMap fun occurrence =>
    match occurrence with
    | .answer answer => some answer
    | _ => none

/-- The requests that entries tell of, each with its reply: those put to the device directly and
those of tasks. -/
def exchanges (entries : List Entry) : List (Request × Reply) :=
  (logAll entries).filterMap fun occurrence =>
    match occurrence with
    | .answer (.reply request reply) => some (request, reply)
    | .event (.answered request reply) => some (request, reply)
    | _ => none

@[simp] theorem logAll_append (first second : List Entry) :
    logAll (first ++ second) = logAll first ++ logAll second := by
  induction first with
  | nil => rfl
  | cons entry rest ih => simp only [List.cons_append, logAll, ih, List.append_assoc]

@[simp] theorem events_nil : events [] = [] := rfl

/-- The events of a list of entries are those of its first part, then those of its second. -/
@[simp] theorem events_append (first second : List Entry) :
    events (first ++ second) = events first ++ events second := by
  simp only [events, logAll_append, List.filterMap_append]

@[simp] theorem events_answered (answer : Answer) (events' : List Event) (rest : List Entry) :
    events (.answered answer events' :: rest) = events' ++ events rest := by
  simp only [events, logAll, log, List.filterMap_append, List.filterMap_map, List.filterMap_cons,
    List.filterMap_nil, List.append_nil]
  congr 1
  exact List.filterMap_some

/-- The events of a hold are those inside, then those behind its release. -/
@[simp] theorem events_held (inside : List Entry) (events' : List Event) (rest : List Entry) :
    events (.held inside events' :: rest) = events inside ++ events' ++ events rest := by
  simp only [events, logAll, log, List.filterMap_append, List.filterMap_map, List.filterMap_cons]
  congr 2
  exact List.filterMap_some

end Entry

/-- The log of a session's steps. -/
def Session.log (session : Session) (steps : List Step) : List Occurrence :=
  Entry.logAll (session.run steps).2

end UsbComposite
