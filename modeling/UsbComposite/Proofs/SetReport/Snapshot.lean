import Mathlib.Algebra.BigOperators.Ring.Finset
import UsbComposite.Proofs.SetReport.Course

/-!
# Dispatches work on a snapshot

The dispatch of a listener table is a course, with the deeds of the listeners that there are: a
growing one subscribes another, a repeating one dispatches the data behind the first byte again. So
all that holds of courses holds of it.

* `exists_course_deliver`: a dispatch that was computed is a course;
* `Course.delivery_eq`: `k` dispatches deep a call has the report number plus `k` and the data behind
  the first `k` bytes;
* `Course.countP_isCallAt`: with `c` repeating listeners in the table, each place of it is called
  `1 + c + ... + c ^ n` times for `n` bytes of data.

For the last, the table has to stay as it is while a repeating listener is in it. It does, since a
table with a growing listener besides is full.
-/

namespace UsbComposite

open Dispatch

/-- The delivery that a repeating listener passes on when its turn comes for the `k`-th time, each
time within the last. -/
def Delivery.deeper (delivery : Delivery) (k : Nat) : Delivery :=
  { delivery with
    reportId := delivery.reportId + UInt8.ofNat k
    data := delivery.data.drop k }

/-- What a listener does to the table when it is called with a delivery. -/
def Listener.deeds (listener : Listener) (delivery : Delivery) : List (Deed Listener) :=
  match listener with
  | growing => [.subscribe .second]
  | repeating =>
    match delivery.data with
    | [] => []
    | _ :: _ => [.dispatch (delivery.deeper 1)]
  | first | second | lamps => []

/-- The deeds of a listener are those that it does. -/
def Listener.Does (listener : Listener) (delivery : Delivery) (deeds : List (Deed Listener)) : Prop :=
  deeds = listener.deeds delivery

namespace Dispatch

/-- What is left of a moment without depth and place. -/
def Moment.happening : Moment Listener → ListenerTable.Happening
  | called _ _ listener delivery => .called listener delivery
  | subscribed _ outcome => .subscribed outcome

end Dispatch

namespace ListenerTable

theorem listeners_attempt (table : ListenerTable) (listener : Listener) :
    (table.attempt listener).1.listeners = (subscribed table.listeners listener).1 ∧
      (table.attempt listener).2 = (subscribed table.listeners listener).2 := by
  unfold attempt subscribe subscribed capacity
  by_cases h : table.listeners.length < 2
  · rw [dif_pos h, if_pos h]
    exact ⟨rfl, rfl⟩
  · rw [dif_neg h, if_neg h]
    exact ⟨rfl, rfl⟩

/-! ### Dispatches are courses -/

/-- Calling listeners in turn is a course, if what repeating ones do is. -/
theorem exists_course_callEach {depth : Nat} {delivery : Delivery}
    {again : ListenerTable → ListenerTable × List Happening}
    (hagain : ∀ table : ListenerTable, ∃ log,
      Course Listener.Does depth (.acting (Listener.repeating.deeds delivery)) table.listeners log
        (again table).1.listeners ∧ log.map Moment.happening = (again table).2)
    (rest : List Listener) (place : Nat) (table : ListenerTable) :
    ∃ log,
      Course Listener.Does depth (.calling delivery place rest) table.listeners log
        (callEach delivery again rest table).1.listeners ∧
      log.map Moment.happening = (callEach delivery again rest table).2 := by
  induction rest generalizing place table with
  | nil => exact ⟨[], .done depth place delivery table.listeners, rfl⟩
  | cons listener rest ih =>
    cases listener with
    | growing =>
      obtain ⟨log, hcourse, hlog⟩ := ih (place + 1) (table.attempt .second).1
      obtain ⟨htable, houtcome⟩ := listeners_attempt table .second
      rw [htable] at hcourse
      refine ⟨_, .call rfl (.subscribe Listener.second (.idle depth _)) hcourse, ?_⟩
      simp only [List.map_append, List.map_cons, List.map_nil, hlog, callEach, Moment.happening,
        ← houtcome]
    | repeating =>
      obtain ⟨inside, hinside, hhappened⟩ := hagain table
      obtain ⟨log, hcourse, hlog⟩ := ih (place + 1) (again table).1
      refine ⟨_, .call rfl hinside hcourse, ?_⟩
      simp only [List.map_append, List.map_cons, hlog, hhappened, callEach, Moment.happening]
    | first | second | lamps =>
      obtain ⟨log, hcourse, hlog⟩ := ih (place + 1) table
      refine ⟨_, .call rfl (.idle depth table.listeners) hcourse, ?_⟩
      simp only [List.map_append, List.map_cons, List.map_nil, hlog, callEach, Moment.happening]

theorem exists_course_dispatch (instanceNumber : UInt8) (kind : ReportKind) (data : List UInt8)
    (reportId : UInt8) (depth : Nat) (table : ListenerTable) :
    ∃ log,
      Course Listener.Does depth (.calling ⟨instanceNumber, reportId, kind, data⟩ 0 table.listeners)
        table.listeners log (dispatch instanceNumber kind data reportId table).1.listeners ∧
      log.map Moment.happening = (dispatch instanceNumber kind data reportId table).2 := by
  induction data generalizing reportId depth table with
  | nil =>
    exact exists_course_callEach (fun table => ⟨[], .idle depth table.listeners, rfl⟩) _ 0 table
  | cons byte rest ih =>
    refine exists_course_callEach (fun table => ?_) _ 0 table
    obtain ⟨log, hcourse, hlog⟩ := ih (reportId + 1) (depth + 1) table
    refine ⟨log ++ [], .dispatch _ hcourse (.idle depth _), ?_⟩
    rw [List.append_nil, hlog]

/-- **A dispatch of a listener table is a course** of what its listeners do, and its happenings are
the log of that course. -/
theorem exists_course_deliver (table : ListenerTable) (delivery : Delivery) :
    ∃ log,
      Course Listener.Does 0 (.calling delivery 0 table.listeners) table.listeners log
        (table.deliver delivery).1.listeners ∧
      log.map Moment.happening = (table.deliver delivery).2 :=
  exists_course_dispatch _ _ _ _ 0 table

end ListenerTable

namespace Dispatch

/-! ### The delivery of a call -/

theorem mem_deeds_iff {listener : Listener} {delivery again : Delivery} :
    Deed.dispatch again ∈ listener.deeds delivery ↔
      listener = .repeating ∧ 0 < delivery.data.length ∧ again = delivery.deeper 1 := by
  obtain ⟨instanceNumber, reportId, kind, data⟩ := delivery
  cases listener <;> cases data <;> simp [Listener.deeds]

theorem deeper_deeper (delivery : Delivery) (k : Nat) :
    (delivery.deeper k).deeper 1 = delivery.deeper (k + 1) := by
  simp only [Delivery.deeper, List.drop_drop, UInt8.ofNat_add, UInt8.add_assoc]

theorem deeper_zero (delivery : Delivery) : delivery.deeper 0 = delivery := by
  simp [Delivery.deeper]

/-- Whether a stage at a depth goes on with the deliveries of a dispatch of `top`. -/
def Stage.Within (top : Delivery) (depth : Nat) : Stage Listener → Prop
  | acting deeds => ∀ again, .dispatch again ∈ deeds →
      depth + 1 ≤ top.data.length ∧ again = top.deeper (depth + 1)
  | calling delivery _ _ => depth ≤ top.data.length ∧ delivery = top.deeper depth

/-- **A call has the delivery of its depth**: the report number is higher by the depth, and the data
begin so many bytes later. -/
theorem Course.delivery_eq {top : Delivery} {depth : Nat} {stage : Stage Listener}
    {table later : List Listener} {log : List (Moment Listener)}
    (h : Course Listener.Does depth stage table log later) (within : stage.Within top depth)
    {level place : Nat} {listener : Listener} {delivery : Delivery}
    (hcall : .called level place listener delivery ∈ log) :
    level ≤ top.data.length ∧ delivery = top.deeper level := by
  induction h with
  | idle => cases hcall
  | done => cases hcall
  | subscribe _ _ ih =>
    rcases List.mem_cons.mp hcall with hfirst | hcall
    · cases hfirst
    · exact ih (fun again hagain => within again (List.mem_cons_of_mem _ hagain)) hcall
  | dispatch again _ _ ihinside ihlater =>
    rcases List.mem_append.mp hcall with hcall | hcall
    · exact ihinside (within again List.mem_cons_self) hcall
    · exact ihlater (fun again hagain => within again (List.mem_cons_of_mem _ hagain)) hcall
  | @call depth _ delivery _ _ _ _ _ _ _ _ hdeeds _ _ ihinside ihlater =>
    obtain ⟨hle, rfl⟩ := within
    rcases List.mem_append.mp hcall with hcall | hcall
    · rcases List.mem_cons.mp hcall with hfirst | hcall
      · cases hfirst
        exact ⟨hle, rfl⟩
      · refine ihinside ?_ hcall
        intro again hagain
        rw [hdeeds, mem_deeds_iff] at hagain
        obtain ⟨-, hdata, rfl⟩ := hagain
        rw [deeper_deeper]
        simp only [Delivery.deeper, List.length_drop] at hdata
        exact ⟨by omega, rfl⟩
    · exact ihlater ⟨hle, rfl⟩ hcall

/-! ### How often a place is called -/

/-- Whether a moment is a call of the listener at a place. -/
def Moment.isCallAt (place : Nat) : Moment Listener → Bool
  | called _ other _ _ => other == place
  | subscribed _ _ => false

/-- How often each listener is called for `n` bytes of data, with `c` repeating listeners. -/
def rounds (c n : Nat) : Nat :=
  ∑ k ∈ Finset.range (n + 1), c ^ k

theorem rounds_succ (c n : Nat) : rounds c (n + 1) = 1 + c * rounds c n := by
  rw [rounds, Finset.sum_range_succ', rounds, Finset.mul_sum, pow_zero, Nat.add_comm]
  simp only [pow_succ']

/-- How often a deed has each place called, in a table with `c` repeating listeners. -/
def Deed.rounds (c : Nat) : Deed Listener → Nat
  | subscribe _ => 0
  | dispatch delivery => Dispatch.rounds c delivery.data.length

/-- How often a list of deeds has each place called. -/
def deedsRounds (c : Nat) (deeds : List (Deed Listener)) : Nat :=
  (deeds.map (Deed.rounds c)).sum

/-- How often a place is called from a stage on. -/
def Stage.rounds (c place : Nat) : Stage Listener → Nat
  | acting deeds => deedsRounds c deeds
  | calling delivery next rest =>
    (if next ≤ place ∧ place < next + rest.length then 1 else 0) +
      (rest.map fun listener => deedsRounds c (listener.deeds delivery)).sum

/-- Only repeating listeners have others called. -/
theorem sum_deedsRounds (c : Nat) (delivery : Delivery) (rest : List Listener) :
    (rest.map fun listener => deedsRounds c (listener.deeds delivery)).sum =
      rest.count .repeating * deedsRounds c (Listener.repeating.deeds delivery) := by
  induction rest with
  | nil => simp
  | cons listener rest ih =>
    rw [List.map_cons, List.sum_cons, ih, List.count_cons, Nat.add_mul, Nat.add_comm]
    congr 1
    cases listener <;> simp [Listener.deeds, deedsRounds, Deed.rounds]

/-- A whole dispatch calls each place of its table so often. -/
theorem rounds_calling {c place : Nat} {delivery : Delivery} {table : List Listener}
    (hcount : table.count .repeating = c) (hplace : place < table.length) :
    Stage.rounds c place (.calling delivery 0 table) = rounds c delivery.data.length := by
  obtain ⟨instanceNumber, reportId, kind, data⟩ := delivery
  rw [Stage.rounds, if_pos ⟨Nat.zero_le _, by omega⟩, sum_deedsRounds, hcount]
  cases data with
  | nil => simp [Listener.deeds, deedsRounds, rounds]
  | cons byte rest =>
    simp [Listener.deeds, deedsRounds, Deed.rounds, Delivery.deeper, rounds_succ]

/-- Whether a stage goes on to subscribe listeners. -/
def Stage.Subscribes : Stage Listener → Prop
  | acting deeds => ∃ listener, .subscribe listener ∈ deeds
  | calling _ _ rest => .growing ∈ rest

/-- Whether a stage goes on to dispatch again. -/
def Stage.Repeats : Stage Listener → Prop
  | acting deeds => ∃ delivery, .dispatch delivery ∈ deeds
  | calling _ _ rest => .repeating ∈ rest

/-- A table to which nobody can add anything during a dispatch: it is full, or it has no growing
listener. -/
def Settled (table : List Listener) : Prop :=
  .growing ∈ table → table.length = ListenerTable.capacity

theorem subscribed_of_full {table : List Listener} (h : table.length = ListenerTable.capacity)
    (listener : Listener) : (subscribed table listener).1 = table := by
  rw [subscribed, if_neg (by omega)]

theorem subscribe_mem_deeds {listener added : Listener} {delivery : Delivery}
    (h : Deed.subscribe added ∈ listener.deeds delivery) : listener = .growing := by
  obtain ⟨instanceNumber, reportId, kind, data⟩ := delivery
  cases listener <;> cases data <;> simp_all [Listener.deeds]

/-- **A settled table stays as it is**, from any stage that does not add to it either. -/
theorem Course.later_eq {depth : Nat} {stage : Stage Listener} {table later : List Listener}
    {log : List (Moment Listener)} (h : Course Listener.Does depth stage table log later)
    (settled : Settled table)
    (hstage : stage.Subscribes → table.length = ListenerTable.capacity) : later = table := by
  induction h with
  | idle => rfl
  | done => rfl
  | @subscribe _ deeds table _ _ listener _ ih =>
    have hfull := hstage ⟨listener, List.mem_cons_self⟩
    have hsame := subscribed_of_full hfull listener
    rw [hsame] at ih
    exact ih settled fun _ => hfull
  | dispatch _ _ _ ihinside ihlater =>
    cases ihinside settled settled
    exact ihlater settled fun ⟨listener, hlistener⟩ =>
      hstage ⟨listener, List.mem_cons_of_mem _ hlistener⟩
  | call hdeeds _ _ ihinside ihlater =>
    have hinside := ihinside settled fun ⟨added, hadded⟩ => by
      rw [hdeeds] at hadded
      exact hstage (subscribe_mem_deeds hadded ▸ List.mem_cons_self)
    subst hinside
    exact ihlater settled fun hgrowing => hstage (List.mem_cons_of_mem _ hgrowing)

/-- A table with a repeating listener is settled: with a growing one besides, it is full. -/
theorem settled_of_repeating {table : List Listener} (h : .repeating ∈ table)
    (hlength : table.length ≤ ListenerTable.capacity) : Settled table := by
  intro hgrowing
  refine Nat.le_antisymm hlength ?_
  have hsub : [Listener.repeating, .growing] ⊆ table := by
    simp [h, hgrowing]
  exact (List.Nodup.subperm (by decide) hsub).length_le

/-- **How often a place is called from a stage on**, if the table has that place and cannot change as
long as somebody dispatches again. -/
theorem Course.countP_isCallAt {start : List Listener} {c place : Nat}
    (hcount : start.count .repeating = c) (hplace : place < start.length) {depth : Nat}
    {stage : Stage Listener} {table later : List Listener} {log : List (Moment Listener)}
    (h : Course Listener.Does depth stage table log later)
    (hstage : stage.Repeats → table = start ∧ Settled start ∧
      (stage.Subscribes → start.length = ListenerTable.capacity)) :
    log.countP (Moment.isCallAt place) = stage.rounds c place := by
  induction h with
  | idle => rfl
  | done => simp [Stage.rounds]
  | @subscribe _ deeds table _ _ listener _ ih =>
    rw [List.countP_cons_of_neg (by simp [Moment.isCallAt]), ih]
    · simp [Stage.rounds, deedsRounds, Deed.rounds]
    · rintro ⟨delivery, hdelivery⟩
      obtain ⟨rfl, hsettled, hfull⟩ := hstage ⟨delivery, List.mem_cons_of_mem _ hdelivery⟩
      have htable := hfull ⟨listener, List.mem_cons_self⟩
      exact ⟨subscribed_of_full htable listener, hsettled, fun _ => htable⟩
  | dispatch delivery hinside _ ihinside ihlater =>
    obtain ⟨rfl, hsettled, hfull⟩ := hstage ⟨delivery, List.mem_cons_self⟩
    cases hinside.later_eq hsettled hsettled
    rw [List.countP_append, ihinside fun _ => ⟨rfl, hsettled, hsettled⟩, ihlater]
    · rw [rounds_calling hcount hplace]
      simp [Stage.rounds, deedsRounds, Deed.rounds]
    · intro _
      exact ⟨rfl, hsettled, fun ⟨listener, hlistener⟩ =>
        hfull ⟨listener, List.mem_cons_of_mem _ hlistener⟩⟩
  | @call _ next delivery listener rest _ _ _ _ inside log hdeeds hinside _ ihinside ihlater =>
    cases hdeeds
    have hacting : (∃ again, Deed.dispatch again ∈ listener.deeds delivery) →
        Stage.Repeats (.calling delivery next (listener :: rest)) := by
      rintro ⟨again, hagain⟩
      rw [mem_deeds_iff] at hagain
      rw [hagain.1]
      exact List.mem_cons_self
    have hsubscribes : (∃ added, Deed.subscribe added ∈ listener.deeds delivery) →
        Stage.Subscribes (.calling delivery next (listener :: rest)) := by
      rintro ⟨added, hadded⟩
      rw [subscribe_mem_deeds hadded]
      exact List.mem_cons_self
    rw [List.countP_append, List.countP_cons, ihinside, ihlater]
    · simp only [Stage.rounds, Moment.isCallAt, List.map_cons, List.sum_cons, List.length_cons,
        beq_iff_eq]
      split_ifs <;> omega
    · intro hrepeats
      obtain ⟨rfl, hsettled, hfull⟩ := hstage (List.mem_cons_of_mem _ hrepeats)
      have hmiddle := hinside.later_eq hsettled fun h => hfull (hsubscribes h)
      exact ⟨hmiddle, hsettled, fun h => hfull (List.mem_cons_of_mem _ h)⟩
    · intro hrepeats
      obtain ⟨htable, hsettled, hfull⟩ := hstage (hacting hrepeats)
      exact ⟨htable, hsettled, fun h => hfull (hsubscribes h)⟩

end Dispatch

namespace ListenerTable

/-- **Dispatches work on a snapshot.** Whatever listeners of any kind do to the table during their
calls, each dispatch calls exactly those that were in the table when it began, in their order, once
each and with its own delivery; who is subscribed meanwhile stands behind them and waits for a later
dispatch. Listeners that dispatch less data than they got come to an end.

The dispatch of a listener table is such a course, from any table and for any delivery. A call at
depth `k` of it gets the report number plus `k` and the data without their first `k` bytes, and each
place of the table is called `1 + c + ... + c ^ n` times, for `c` repeating listeners in the table and
`n` bytes of data. -/
theorem dispatch_on_snapshot :
    (∀ (L : Type) (may : L → Delivery → List (Deed L) → Prop) (depth : Nat) (delivery : Delivery)
      (table later : List L) (log : List (Moment L)),
      Course may depth (.calling delivery 0 table) table log later →
        directCalls depth log = table.zipIdx.map (fun entry => (entry.2, entry.1, delivery)) ∧
          table <+: later) ∧
    (∀ (L : Type) (conduct : L → Delivery → List (Deed L)),
      (∀ listener delivery again, .dispatch again ∈ conduct listener delivery →
        again.data.length < delivery.data.length) →
      ∀ (depth : Nat) (delivery : Delivery) (table : List L), ∃ log later,
        Course (fun listener delivery deeds => deeds = conduct listener delivery) depth
          (.calling delivery 0 table) table log later) ∧
    ∀ (table : ListenerTable) (delivery : Delivery), ∃ log,
      Course Listener.Does 0 (.calling delivery 0 table.listeners) table.listeners log
        (table.deliver delivery).1.listeners ∧
      log.map Moment.happening = (table.deliver delivery).2 ∧
      (∀ depth place listener received, .called depth place listener received ∈ log →
        depth ≤ delivery.data.length ∧
          received = ⟨delivery.instanceNumber, delivery.reportId + UInt8.ofNat depth,
            delivery.kind, delivery.data.drop depth⟩) ∧
      ∀ place, place < table.listeners.length →
        log.countP (Moment.isCallAt place) =
          ∑ k ∈ Finset.range (delivery.data.length + 1), table.listeners.count .repeating ^ k := by
  refine ⟨fun L may depth delivery table later log h => ⟨h.directCalls_eq, h.prefix_later⟩,
    fun L conduct shrinks => exists_course shrinks, ?_⟩
  intro table delivery
  obtain ⟨log, hcourse, hlog⟩ := exists_course_deliver table delivery
  refine ⟨log, hcourse, hlog, ?_, ?_⟩
  · intro depth place listener received hcall
    exact hcourse.delivery_eq ⟨Nat.zero_le _, (deeper_zero delivery).symm⟩ hcall
  · intro place hplace
    rw [hcourse.countP_isCallAt rfl hplace, rounds_calling rfl hplace, rounds]
    intro hrepeating
    have hsettled := settled_of_repeating hrepeating table.length_le
    exact ⟨rfl, hsettled, hsettled⟩

/-- Two repeating listeners answer two bytes with seven calls each, and the report number wraps. -/
example :
    let table : ListenerTable := ⟨[.repeating, .repeating], by decide⟩
    let happenings := (table.deliver ⟨0, 255, .output, [1, 2]⟩).2
    happenings.length = 14 ∧ happenings.count (.called .repeating ⟨0, 0, .output, [2]⟩) = 4 := by
  decide

end ListenerTable

end UsbComposite
