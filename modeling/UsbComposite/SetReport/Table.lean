import UsbComposite.SetReport.Delivery

/-!
# The listener table

A table holds at most two listeners in the order of their subscriptions. A **dispatch** calls the
listeners that were in the table when it began, each once, in that order, with one delivery.

Some listeners act on the table during their own call. A growing one subscribes another listener; a
repeating one starts a new dispatch, with the next report number and the data behind the first byte,
as long as there is data. Each such dispatch has less data than the one around it, which bounds the
nesting. Since a dispatch works on the listeners it found at its beginning, a listener subscribed
during it is called by later dispatches only.

* `deliver_eq_notices`: without acting listeners a dispatch is one round of calls.
-/

namespace UsbComposite

/-- The subscribed listeners, oldest first. -/
structure ListenerTable where
  listeners : List Listener
  length_le : listeners.length ≤ 2

namespace ListenerTable

/-- The number of places in a table. -/
def capacity : Nat := 2

/-- The table without listeners. -/
def empty : ListenerTable :=
  ⟨[], by decide⟩

/-- How many listeners there are. -/
def length (table : ListenerTable) : Nat :=
  table.listeners.length

/-- Whether there is no listener. -/
def isEmpty (table : ListenerTable) : Bool :=
  table.length == 0

/-- The table with one more listener behind the others, a fault if every place is taken. -/
def subscribe (table : ListenerTable) (listener : Listener) : Except Fault ListenerTable :=
  if h : table.listeners.length < 2 then
    .ok ⟨table.listeners ++ [listener], by simp only [List.length_append, List.length_singleton]; omega⟩
  else .error .listenerTableFull

/-- Subscribe a listener: the table afterwards, unchanged on a fault, and the outcome. -/
def attempt (table : ListenerTable) (listener : Listener) : ListenerTable × Except Fault Unit :=
  match table.subscribe listener with
  | .ok longer => (longer, .ok ())
  | .error fault => (table, .error fault)

/-- What every listener makes visible when none of them acts on the table. -/
def notices (table : ListenerTable) (delivery : Delivery) : List Notice :=
  table.listeners.flatMap fun listener => listener.notices delivery

/-! ### Dispatches with acting listeners -/

/-- A thing that happens during a dispatch. -/
inductive Happening
  /-- A listener is called. -/
  | called (listener : Listener) (delivery : Delivery)
  /-- A growing listener has subscribed another one. -/
  | subscribed (outcome : Except Fault Unit)
deriving DecidableEq

/-- What a happening makes visible. -/
def Happening.notices : Happening → List Notice
  | called listener delivery => listener.notices delivery
  | subscribed outcome => [.subscribed outcome]

/-- Call listeners in turn. `again` is what a repeating listener does to the table. -/
def callEach (delivery : Delivery) (again : ListenerTable → ListenerTable × List Happening) :
    List Listener → ListenerTable → ListenerTable × List Happening
  | [], table => (table, [])
  | listener :: rest, table =>
    let acted : ListenerTable × List Happening :=
      match listener with
      | .growing =>
        let (table', outcome) := table.attempt .second
        (table', [.subscribed outcome])
      | .repeating => again table
      | .first | .second | .lamps => (table, [])
    let later := callEach delivery again rest acted.1
    (later.1, .called listener delivery :: acted.2 ++ later.2)

/-- Dispatch data to the listeners of a table: the table afterwards, and what happens in order. -/
def dispatch (instanceNumber : UInt8) (kind : ReportKind) :
    List UInt8 → UInt8 → ListenerTable → ListenerTable × List Happening
  | [], reportId, table =>
    callEach ⟨instanceNumber, reportId, kind, []⟩ (fun table' => (table', []))
      table.listeners table
  | byte :: rest, reportId, table =>
    callEach ⟨instanceNumber, reportId, kind, byte :: rest⟩
      (dispatch instanceNumber kind rest (reportId + 1)) table.listeners table

/-- Dispatch a delivery. -/
def deliver (table : ListenerTable) (delivery : Delivery) : ListenerTable × List Happening :=
  dispatch delivery.instanceNumber delivery.kind delivery.data delivery.reportId table

@[ext] theorem ext {s t : ListenerTable} (h : s.listeners = t.listeners) : s = t := by
  cases s
  cases t
  cases h
  rfl

/-- Tables can be compared by their listeners. -/
instance : DecidableEq ListenerTable := fun s t =>
  decidable_of_iff (s.listeners = t.listeners) ⟨ext, fun h => h ▸ rfl⟩

/-- A listener is taken exactly while a place is free. -/
theorem listeners_of_subscribe {table longer : ListenerTable} {listener : Listener}
    (h : table.subscribe listener = .ok longer) :
    longer.listeners = table.listeners ++ [listener] ∧ table.length < capacity := by
  unfold subscribe at h
  split at h
  next hlt =>
    cases h
    exact ⟨rfl, hlt⟩
  next => cases h

/-! ### Dispatches without acting listeners -/

/-- Listeners that leave the table alone are called one after the other, and nothing else happens. -/
theorem callEach_of_passive (delivery : Delivery)
    (again : ListenerTable → ListenerTable × List Happening) {rest : List Listener}
    (passive : ∀ listener ∈ rest, listener.acts = false) (table : ListenerTable) :
    callEach delivery again rest table =
      (table, rest.map fun listener => .called listener delivery) := by
  induction rest with
  | nil => rfl
  | cons listener rest ih =>
    obtain ⟨hfirst, hrest⟩ := List.forall_mem_cons.mp passive
    cases listener with
    | growing => cases hfirst
    | repeating => cases hfirst
    | first | second | lamps =>
      simp only [callEach, ih hrest, List.map_cons, List.nil_append, List.cons_append]

/-- A dispatch to listeners that leave the table alone is one round of calls. -/
theorem deliver_of_passive {table : ListenerTable}
    (passive : ∀ listener ∈ table.listeners, listener.acts = false) (delivery : Delivery) :
    table.deliver delivery =
      (table, table.listeners.map fun listener => .called listener delivery) := by
  obtain ⟨instanceNumber, reportId, kind, data⟩ := delivery
  cases data with
  | nil => exact callEach_of_passive _ _ passive table
  | cons byte rest => exact callEach_of_passive _ _ passive table

/-- **As long as no listener acts on the table**, a dispatch makes visible what each listener does by
itself, and leaves the table as it is. -/
theorem deliver_eq_notices {table : ListenerTable}
    (passive : ∀ listener ∈ table.listeners, listener.acts = false) (delivery : Delivery) :
    (table.deliver delivery).1 = table ∧
      (table.deliver delivery).2.flatMap Happening.notices = table.notices delivery := by
  rw [deliver_of_passive passive]
  constructor
  · rfl
  · show (table.listeners.map _).flatMap Happening.notices = _
    rw [List.flatMap_map]
    rfl

end ListenerTable

end UsbComposite
