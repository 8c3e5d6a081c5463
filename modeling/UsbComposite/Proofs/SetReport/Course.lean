import Mathlib.Data.List.Basic
import UsbComposite.SetReport.Table

/-!
# Courses of dispatches

What a dispatch does to the listener table depends on the listeners that it calls: each may subscribe
others during its call and may dispatch again, and those it reaches in this way may do the same. A
**course** is one way in which a dispatch can go, for listeners of any kind. Its log marks each call
with the **depth** of the dispatch that it belongs to, zero for the outermost one, and with the place
of the listener in the table.

* `Course.directCalls_eq`: whatever listeners do, a dispatch calls those that it found in the table,
  in their order, once each and with its own delivery;
* `Course.prefix_later`: what is subscribed on the way stands behind them;
* `exists_course`: listeners that dispatch less data than they got always come to an end.
-/

namespace UsbComposite.Dispatch

/-- Something that a listener does to the table during its call. -/
inductive Deed (L : Type)
  | subscribe (listener : L)
  | dispatch (delivery : Delivery)

/-- Something that happens in the course of a dispatch. -/
inductive Moment (L : Type)
  | called (depth place : Nat) (listener : L) (delivery : Delivery)
  | subscribed (listener : L) (outcome : Except Fault Unit)

/-- How far a dispatch has come. -/
inductive Stage (L : Type)
  /-- A listener that is called has some deeds left to do. -/
  | acting (deeds : List (Deed L))
  /-- The dispatch has some listeners left to call, the first of them from the given place. -/
  | calling (delivery : Delivery) (place : Nat) (rest : List L)

variable {L : Type}

/-- A table of any listeners after one more subscription, and the outcome of that. -/
def subscribed (table : List L) (listener : L) : List L × Except Fault Unit :=
  if table.length < ListenerTable.capacity then (table ++ [listener], .ok ())
  else (table, .error .listenerTableFull)

theorem prefix_subscribed (table : List L) (listener : L) :
    table <+: (subscribed table listener).1 := by
  unfold subscribed
  split
  · exact List.prefix_append _ _
  · exact List.prefix_refl _

/-- The ways in which a dispatch at a depth can go on from a stage: the table at first, the log, and
the table afterwards. `may` tells which deeds a listener may do when it is called with a delivery. A
dispatch starts by copying the table and then calls the listeners of the copy. -/
inductive Course (may : L → Delivery → List (Deed L) → Prop) :
    Nat → Stage L → List L → List (Moment L) → List L → Prop
  | idle (depth : Nat) (table : List L) : Course may depth (.acting []) table [] table
  | subscribe {depth : Nat} {deeds : List (Deed L)} {table later : List L} {log : List (Moment L)}
      (listener : L) :
      Course may depth (.acting deeds) (subscribed table listener).1 log later →
      Course may depth (.acting (.subscribe listener :: deeds)) table
        (.subscribed listener (subscribed table listener).2 :: log) later
  | dispatch {depth : Nat} {deeds : List (Deed L)} {table middle later : List L}
      {inside log : List (Moment L)} (delivery : Delivery) :
      Course may (depth + 1) (.calling delivery 0 table) table inside middle →
      Course may depth (.acting deeds) middle log later →
      Course may depth (.acting (.dispatch delivery :: deeds)) table (inside ++ log) later
  | done (depth place : Nat) (delivery : Delivery) (table : List L) :
      Course may depth (.calling delivery place []) table [] table
  | call {depth place : Nat} {delivery : Delivery} {listener : L} {rest : List L}
      {deeds : List (Deed L)} {table middle later : List L} {inside log : List (Moment L)} :
      may listener delivery deeds →
      Course may depth (.acting deeds) table inside middle →
      Course may depth (.calling delivery (place + 1) rest) middle log later →
      Course may depth (.calling delivery place (listener :: rest)) table
        (.called depth place listener delivery :: inside ++ log) later

/-! ### The calls of one dispatch -/

/-- A call that belongs to a dispatch at the given depth: the place, the listener and the delivery. -/
def Moment.call? (depth : Nat) : Moment L → Option (Nat × L × Delivery)
  | called level place listener delivery =>
    if level = depth then some (place, listener, delivery) else none
  | subscribed _ _ => none

/-- The calls of the dispatches at the given depth, in order. -/
def directCalls (depth : Nat) (log : List (Moment L)) : List (Nat × L × Delivery) :=
  log.filterMap (Moment.call? depth)

/-- The calls that a dispatch has left to make at a stage. -/
def Stage.left : Stage L → List (Nat × L × Delivery)
  | acting _ => []
  | calling delivery place rest => (rest.zipIdx place).map fun entry => (entry.2, entry.1, delivery)

/-- The least depth of a call in what follows a stage. -/
def Stage.floor (depth : Nat) : Stage L → Nat
  | acting _ => depth + 1
  | calling _ _ _ => depth

variable {may : L → Delivery → List (Deed L) → Prop}

/-- What a listener does in its call lies deeper than the call. -/
theorem Course.floor_le {depth : Nat} {stage : Stage L} {table later : List L}
    {log : List (Moment L)} (h : Course may depth stage table log later) {level place : Nat}
    {listener : L} {delivery : Delivery} (hcall : .called level place listener delivery ∈ log) :
    stage.floor depth ≤ level := by
  induction h with
  | idle => cases hcall
  | done => cases hcall
  | subscribe _ _ ih =>
    rcases List.mem_cons.mp hcall with hfirst | hcall
    · cases hfirst
    · exact ih hcall
  | dispatch _ _ _ ihinside ihlater =>
    rcases List.mem_append.mp hcall with hcall | hcall
    · exact ihinside hcall
    · exact ihlater hcall
  | call _ _ _ ihinside ihlater =>
    rcases List.mem_append.mp hcall with hcall | hcall
    · rcases List.mem_cons.mp hcall with hfirst | hcall
      · cases hfirst
        exact Nat.le_refl _
      · exact Nat.le_of_succ_le (ihinside hcall)
    · exact ihlater hcall

theorem directCalls_of_deeper {depth : Nat} {log : List (Moment L)}
    (h : ∀ level place listener delivery,
      .called level place listener delivery ∈ log → depth < level) :
    directCalls depth log = [] := by
  rw [directCalls, List.filterMap_eq_nil_iff]
  intro moment hmoment
  cases moment with
  | subscribed _ _ => rfl
  | called level place listener delivery =>
    exact if_neg (Nat.ne_of_gt (h level place listener delivery hmoment))

theorem directCalls_append (depth : Nat) (log rest : List (Moment L)) :
    directCalls depth (log ++ rest) = directCalls depth log ++ directCalls depth rest :=
  List.filterMap_append

/-- **The direct calls that follow a stage are those that are left**, none if a listener is acting. -/
theorem Course.directCalls_eq_left {depth : Nat} {stage : Stage L} {table later : List L}
    {log : List (Moment L)} (h : Course may depth stage table log later) :
    directCalls depth log = stage.left := by
  induction h with
  | idle => rfl
  | done => rfl
  | subscribe _ _ ih => exact ih
  | dispatch _ hinside _ _ ihlater =>
    rw [directCalls_append, ihlater, directCalls_of_deeper fun _ _ _ _ => hinside.floor_le]
    rfl
  | call _ _ _ ihinside ihlater =>
    rw [directCalls_append, ihlater]
    simp only [directCalls, Moment.call?, List.filterMap_cons, if_true]
    rw [← directCalls, ihinside]
    rfl

/-- **A dispatch works on a snapshot.** Whatever the listeners do, it calls those that were in the
table when it began, in their order, once each and with its own delivery. -/
theorem Course.directCalls_eq {depth : Nat} {delivery : Delivery} {table later : List L}
    {log : List (Moment L)} (h : Course may depth (.calling delivery 0 table) table log later) :
    directCalls depth log = table.zipIdx.map fun entry => (entry.2, entry.1, delivery) :=
  h.directCalls_eq_left

/-- **What is subscribed on the way stands behind the listeners that were there.** -/
theorem Course.prefix_later {depth : Nat} {stage : Stage L} {table later : List L}
    {log : List (Moment L)} (h : Course may depth stage table log later) : table <+: later := by
  induction h with
  | idle => exact List.prefix_refl _
  | done => exact List.prefix_refl _
  | subscribe listener _ ih => exact (prefix_subscribed _ listener).trans ih
  | dispatch _ _ _ ihinside ihlater => exact ihinside.trans ihlater
  | call _ _ _ ihinside ihlater => exact ihinside.trans ihlater

/-! ### Coming to an end -/

/-- Deeds whose dispatches all come to an end come to an end. -/
theorem exists_course_acting {deeds : List (Deed L)}
    (h : ∀ delivery, .dispatch delivery ∈ deeds → ∀ (depth : Nat) (table : List L),
      ∃ log later, Course may depth (.calling delivery 0 table) table log later)
    (depth : Nat) (table : List L) :
    ∃ log later, Course may depth (.acting deeds) table log later := by
  induction deeds generalizing table with
  | nil => exact ⟨[], table, .idle depth table⟩
  | cons deed deeds ih =>
    have hdeeds := ih fun delivery hdelivery => h delivery (List.mem_cons_of_mem _ hdelivery)
    cases deed with
    | subscribe listener =>
      obtain ⟨log, later, hlater⟩ := hdeeds (subscribed table listener).1
      exact ⟨_, later, .subscribe listener hlater⟩
    | dispatch delivery =>
      obtain ⟨inside, middle, hinside⟩ := h delivery List.mem_cons_self (depth + 1) table
      obtain ⟨log, later, hlater⟩ := hdeeds middle
      exact ⟨_, later, .dispatch delivery hinside hlater⟩

/-- **Listeners that dispatch less data than they got come to an end**, from every table. -/
theorem exists_course {conduct : L → Delivery → List (Deed L)}
    (shrinks : ∀ listener delivery again, .dispatch again ∈ conduct listener delivery →
      again.data.length < delivery.data.length)
    (depth : Nat) (delivery : Delivery) (table : List L) :
    ∃ log later, Course (fun listener delivery deeds => deeds = conduct listener delivery) depth
      (.calling delivery 0 table) table log later := by
  -- on the length of the data: a call only ever waits for dispatches of less
  induction hlength : delivery.data.length using Nat.strongRecOn
    generalizing depth delivery table with
  | _ length ihlength =>
    have hacting (listener : L) (table : List L) : ∃ log later,
        Course (fun listener delivery deeds => deeds = conduct listener delivery) depth
          (.acting (conduct listener delivery)) table log later :=
      exists_course_acting (fun again hagain depth table =>
        ihlength _ (hlength ▸ shrinks listener delivery again hagain) depth again table rfl)
        depth table
    have hcalling (rest : List L) : ∀ (place : Nat) (table : List L), ∃ log later,
        Course (fun listener delivery deeds => deeds = conduct listener delivery) depth
          (.calling delivery place rest) table log later := by
      induction rest with
      | nil => exact fun place table => ⟨[], table, .done depth place delivery table⟩
      | cons listener rest ih =>
        intro place table
        obtain ⟨inside, middle, hinside⟩ := hacting listener table
        obtain ⟨log, later, hlater⟩ := ih (place + 1) middle
        exact ⟨_, later, .call rfl hinside hlater⟩
    exact hcalling table 0 table

end UsbComposite.Dispatch
