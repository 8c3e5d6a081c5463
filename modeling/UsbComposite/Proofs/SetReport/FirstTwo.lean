import UsbComposite.Proofs.SetReport.Snapshot

/-!
# The table holds the first two subscriptions

A course tells where a dispatch begins and ends. What holds at all times in between is told by going
through it beat by beat: a **scene** is a table in use, with the stages that are still to be gone
through, and a **beat** leads from one scene to the next. Beats can also go on for ever, as they do if
a listener keeps dispatching the data that it got.

* `Beat.table_eq`: a beat changes the table by the subscription that it attempts, if any;
* `Beats.table_eq`: so at all times the table holds the first two subscriptions ever attempted;
* `Course.beats`: every course goes beat by beat, so all this holds in the midst of one;
* `exists_beats_performDeeds`: so do the steps of a listener table.
-/

namespace UsbComposite

namespace Dispatch

variable {L : Type}

/-! ### Attempts -/

/-- The listener that is to be subscribed, taken or not. -/
def Moment.attempt? : Moment L → Option L
  | called _ _ _ _ => none
  | subscribed listener _ => some listener

/-- The subscriptions that were attempted, oldest first. -/
def attempts (log : List (Moment L)) : List L :=
  log.filterMap Moment.attempt?

@[simp] theorem attempts_append (log rest : List (Moment L)) :
    attempts (log ++ rest) = attempts log ++ attempts rest :=
  List.filterMap_append

/-- A subscription keeps the first two of the table and the new listener behind it. -/
theorem subscribed_eq_take {table : List L} (h : table.length ≤ ListenerTable.capacity)
    (listener : L) :
    (subscribed table listener).1 = (table ++ [listener]).take ListenerTable.capacity := by
  unfold subscribed
  split
  · rw [List.take_of_length_le]
    rw [List.length_append, List.length_singleton]
    omega
  · rw [List.take_append_of_le_length (by omega), List.take_of_length_le h]

theorem take_take_append (capacity : Nat) (front back : List L) :
    (front.take capacity ++ back).take capacity = (front ++ back).take capacity := by
  rw [List.take_append, List.take_take, Nat.min_self, List.take_append, List.length_take]
  rcases Nat.le_total capacity front.length with h | h
  · rw [Nat.min_eq_left h, Nat.sub_self, Nat.sub_eq_zero_of_le h]
  · rw [Nat.min_eq_right h]

/-! ### Beats -/

/-- A table in use: the stages that are still to be gone through, innermost first, each with the depth
of its dispatch, and the listeners that are registered. -/
structure Scene (L : Type) where
  stages : List (Nat × Stage L)
  table : List L

/-- One beat: what happens in it, and the scene afterwards. `may` tells which deeds a listener may do
when it is called with a delivery. -/
inductive Beat (may : L → Delivery → List (Deed L) → Prop) :
    Scene L → List (Moment L) → Scene L → Prop
  | idle (depth : Nat) (outer : List (Nat × Stage L)) (table : List L) :
      Beat may ⟨(depth, .acting []) :: outer, table⟩ [] ⟨outer, table⟩
  | subscribe (depth : Nat) (listener : L) (deeds : List (Deed L)) (outer : List (Nat × Stage L))
      (table : List L) :
      Beat may ⟨(depth, .acting (.subscribe listener :: deeds)) :: outer, table⟩
        [.subscribed listener (subscribed table listener).2]
        ⟨(depth, .acting deeds) :: outer, (subscribed table listener).1⟩
  /-- A dispatch begins with a copy of the table. -/
  | dispatch (depth : Nat) (delivery : Delivery) (deeds : List (Deed L))
      (outer : List (Nat × Stage L)) (table : List L) :
      Beat may ⟨(depth, .acting (.dispatch delivery :: deeds)) :: outer, table⟩ []
        ⟨(depth + 1, .calling delivery 0 table) :: (depth, .acting deeds) :: outer, table⟩
  | done (depth place : Nat) (delivery : Delivery) (outer : List (Nat × Stage L))
      (table : List L) :
      Beat may ⟨(depth, .calling delivery place []) :: outer, table⟩ [] ⟨outer, table⟩
  | call {depth place : Nat} {delivery : Delivery} {listener : L} {deeds : List (Deed L)}
      (rest : List L) (outer : List (Nat × Stage L)) (table : List L) :
      may listener delivery deeds →
      Beat may ⟨(depth, .calling delivery place (listener :: rest)) :: outer, table⟩
        [.called depth place listener delivery]
        ⟨(depth, .acting deeds) :: (depth, .calling delivery (place + 1) rest) :: outer, table⟩

/-- Beats one after the other, with the log of all of them. -/
inductive Beats (may : L → Delivery → List (Deed L) → Prop) :
    Scene L → List (Moment L) → Scene L → Prop
  | nil (scene : Scene L) : Beats may scene [] scene
  | cons {first second third : Scene L} {moments log : List (Moment L)} :
      Beat may first moments second → Beats may second log third →
      Beats may first (moments ++ log) third

/-- Steps that somebody takes on a table from outside. -/
def Scene.ofSteps (steps : List (Deed L)) (table : List L) : Scene L :=
  ⟨[(0, .acting steps)], table⟩

variable {may : L → Delivery → List (Deed L) → Prop}

theorem Beats.append {first second third : Scene L} {log rest : List (Moment L)}
    (h : Beats may first log second) (h' : Beats may second rest third) :
    Beats may first (log ++ rest) third := by
  induction h with
  | nil => exact h'
  | cons hbeat _ ih =>
    rw [List.append_assoc]
    exact .cons hbeat (ih h')

/-! ### The table along beats -/

/-- **A beat changes the table by the subscription that it attempts**, if any. -/
theorem Beat.table_eq {first last : Scene L} {moments : List (Moment L)}
    (h : Beat may first moments last) (hle : first.table.length ≤ ListenerTable.capacity) :
    last.table = (first.table ++ attempts moments).take ListenerTable.capacity := by
  have hkept : ∀ {table : List L}, table.length ≤ ListenerTable.capacity →
      table = (table ++ []).take ListenerTable.capacity := by
    intro table htable
    rw [List.append_nil, List.take_of_length_le htable]
  cases h with
  | idle => exact hkept hle
  | subscribe depth listener => exact subscribed_eq_take hle listener
  | dispatch => exact hkept hle
  | done => exact hkept hle
  | call => exact hkept hle

/-- **At all times the table holds the first two subscriptions**: those that it had, and those that
were attempted since. -/
theorem Beats.table_eq {first last : Scene L} {log : List (Moment L)}
    (h : Beats may first log last) (hle : first.table.length ≤ ListenerTable.capacity) :
    last.table = (first.table ++ attempts log).take ListenerTable.capacity := by
  induction h with
  | nil scene =>
    show scene.table = (scene.table ++ []).take _
    rw [List.append_nil, List.take_of_length_le hle]
  | cons hbeat _ ih =>
    have hmiddle := hbeat.table_eq hle
    rw [ih (by rw [hmiddle]; exact List.length_take_le _ _), hmiddle, take_take_append,
      attempts_append, List.append_assoc]

/-- What is done to a table in one go: a subscription is taken exactly while a place is free, one that
is refused leaves the table as it is, and so does everything that is not a subscription. -/
structure Keeps (table : List L) (moments : List (Moment L)) (later : List L) : Prop where
  ok_iff : ∀ listener outcome, .subscribed listener outcome ∈ moments →
    (outcome = .ok () ↔ table.length < ListenerTable.capacity)
  refused : ∀ listener outcome, .subscribed listener outcome ∈ moments → outcome ≠ .ok () →
    outcome = .error .listenerTableFull ∧ later = table
  kept : attempts moments = [] → later = table

theorem keeps_of_silent (table : List L) {moments : List (Moment L)}
    (h : attempts moments = []) : Keeps table moments table := by
  have hnone : ∀ listener outcome, .subscribed listener outcome ∉ moments := by
    intro listener outcome hmem
    have hattempt := List.filterMap_eq_nil_iff.mp h _ hmem
    cases hattempt
  exact ⟨fun listener outcome hmem => absurd hmem (hnone listener outcome),
    fun listener outcome hmem => absurd hmem (hnone listener outcome), fun _ => rfl⟩

theorem keeps_subscribed (table : List L) (listener : L) :
    Keeps table [.subscribed listener (subscribed table listener).2]
      (subscribed table listener).1 := by
  unfold subscribed
  by_cases hfree : table.length < ListenerTable.capacity
  · rw [if_pos hfree]
    constructor
    case ok_iff =>
      intro other outcome hmem
      cases List.mem_singleton.mp hmem
      exact iff_of_true rfl hfree
    case refused =>
      intro other outcome hmem hnot
      cases List.mem_singleton.mp hmem
      exact absurd rfl hnot
    case kept =>
      intro hnone
      cases hnone
  · rw [if_neg hfree]
    constructor
    case ok_iff =>
      intro other outcome hmem
      cases List.mem_singleton.mp hmem
      exact iff_of_false (by simp) hfree
    case refused =>
      intro other outcome hmem _
      cases List.mem_singleton.mp hmem
      exact ⟨rfl, rfl⟩
    case kept => exact fun _ => rfl

/-- **A beat keeps the table, or attempts one subscription.** -/
theorem Beat.keeps {first last : Scene L} {moments : List (Moment L)}
    (h : Beat may first moments last) : Keeps first.table moments last.table := by
  cases h with
  | idle => exact keeps_of_silent _ rfl
  | subscribe => exact keeps_subscribed _ _
  | dispatch => exact keeps_of_silent _ rfl
  | done => exact keeps_of_silent _ rfl
  | call => exact keeps_of_silent _ rfl

/-! ### Courses go beat by beat -/

/-- **Every course goes beat by beat**, whatever is to be gone through behind it. -/
theorem Course.beats {depth : Nat} {stage : Stage L} {table later : List L}
    {log : List (Moment L)} (h : Course may depth stage table log later)
    (outer : List (Nat × Stage L)) :
    Beats may ⟨(depth, stage) :: outer, table⟩ log ⟨outer, later⟩ := by
  induction h generalizing outer with
  | idle depth table => exact .cons (.idle depth outer table) (.nil _)
  | subscribe listener _ ih => exact .cons (.subscribe _ listener _ outer _) (ih outer)
  | dispatch delivery _ _ ihinside ihlater =>
    have hbeats := Beats.cons (.dispatch _ delivery _ outer _) ((ihinside _).append (ihlater outer))
    exact hbeats
  | done depth place delivery table => exact .cons (.done depth place delivery outer table) (.nil _)
  | call hdeeds _ _ ihinside ihlater =>
    have hbeats := Beats.cons (.call _ outer _ hdeeds) ((ihinside _).append (ihlater outer))
    exact hbeats

end Dispatch

/-! ### Listener tables -/

namespace ListenerTable

open Dispatch

/-- Take a step on a table from outside: the table afterwards, and what happens. -/
def performDeed (table : ListenerTable) : Deed Listener → ListenerTable × List Happening
  | .subscribe listener => ((table.attempt listener).1, [.subscribed (table.attempt listener).2])
  | .dispatch delivery => table.deliver delivery

/-- Take steps in turn. -/
def performDeeds (table : ListenerTable) : List (Deed Listener) → ListenerTable × List Happening
  | [] => (table, [])
  | deed :: rest =>
    let first := table.performDeed deed
    let later := first.1.performDeeds rest
    (later.1, first.2 ++ later.2)

/-- Steps on a table are a course of those who take them. -/
theorem exists_course_performDeeds (table : ListenerTable) (steps : List (Deed Listener)) :
    ∃ log,
      Course Listener.Does 0 (.acting steps) table.listeners log
        (table.performDeeds steps).1.listeners ∧
      log.map Moment.happening = (table.performDeeds steps).2 := by
  induction steps generalizing table with
  | nil => exact ⟨[], .idle 0 table.listeners, rfl⟩
  | cons deed rest ih =>
    cases deed with
    | subscribe listener =>
      obtain ⟨log, hcourse, hlog⟩ := ih (table.attempt listener).1
      obtain ⟨htable, houtcome⟩ := listeners_attempt table listener
      rw [htable] at hcourse
      refine ⟨_, .subscribe listener hcourse, ?_⟩
      rw [List.map_cons, hlog, Moment.happening, ← houtcome]
      rfl
    | dispatch delivery =>
      obtain ⟨inside, hinside, hhappened⟩ := exists_course_dispatch delivery.instanceNumber
        delivery.kind delivery.data delivery.reportId 1 table
      obtain ⟨log, hcourse, hlog⟩ := ih (table.deliver delivery).1
      refine ⟨_, .dispatch delivery hinside hcourse, ?_⟩
      rw [List.map_append, hlog, hhappened]
      rfl

/-- **Steps on a table go beat by beat.** -/
theorem exists_beats_performDeeds (table : ListenerTable) (steps : List (Deed Listener)) :
    ∃ log,
      Beats Listener.Does (.ofSteps steps table.listeners) log
        ⟨[], (table.performDeeds steps).1.listeners⟩ ∧
      log.map Moment.happening = (table.performDeeds steps).2 := by
  obtain ⟨log, hcourse, hlog⟩ := exists_course_performDeeds table steps
  exact ⟨log, hcourse.beats [], hlog⟩

end ListenerTable

end UsbComposite
