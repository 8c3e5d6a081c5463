import UsbComposite.Proofs.Device.SerialNumber
import UsbComposite.Proofs.Session.Asks

/-!
# The board is read at most once

An identity without a serial number of its own has one generated from the board's identifier. The
board is read for that when the host first asks for the string, and the text is kept for good: neither
a later change of the board nor a serial number that the identity gets meanwhile undoes it.

* `Generates.append`: what holds of two lists of asks holds of both together, as long as the text
  that the first leaves behind is the one that the second finds;
* `generates_run`: so it holds of all asks of a session.
-/

namespace UsbComposite

/-! ### Lists of asks -/

/-- Through asks, a device that has generated `before` comes to have generated `after`. If there was
nothing before, the first ask that needs the text reads the board, and no other does. -/
structure Generates (before : Option String) (asks : List Ask) (after : Option String) : Prop where
  reads : asks.filter Ask.reads =
    if before.isSome then [] else (asks.filter Ask.generates).take 1
  kept : after = before.or ((asks.filter Ask.generates).head?.map Ask.boardText)
  replies : ∀ ask ∈ asks, ask.generates = true →
    ∃ text, after = some text ∧ ask.reply = .string (some (.ofText text))

theorem Generates.nil (generated : Option String) : Generates generated [] generated :=
  ⟨by simp, by simp, by simp⟩

theorem Generates.append {before between after : Option String} {asks later : List Ask}
    (h : Generates before asks between) (h' : Generates between later after) :
    Generates before (asks ++ later) after := by
  have hkept : after = between.or after := by
    rw [h'.kept, ← Option.or_assoc, Option.or_self]
  constructor
  case reads =>
    rw [List.filter_append, List.filter_append, h.reads, h'.reads, h.kept]
    cases before with
    | some text => rfl
    | none => cases asks.filter Ask.generates <;> rfl
  case kept =>
    rw [h'.kept, h.kept, Option.or_assoc, List.filter_append]
    congr 1
    cases asks.filter Ask.generates <;> rfl
  case replies =>
    intro ask hask hgenerates
    rcases List.mem_append.mp hask with hask | hask
    · obtain ⟨text, htext, hreply⟩ := h.replies ask hask hgenerates
      rw [htext] at hkept
      exact ⟨text, hkept, hreply⟩
    · exact h'.replies ask hask hgenerates

/-- A single ask. -/
theorem generates_single (ask : Ask) :
    Generates ask.device.serial.generated [ask] ask.response.device.serial.generated := by
  cases hgenerates : ask.generates with
  | false =>
    obtain ⟨hreads, hserial⟩ := Ask.response_of_not_generates hgenerates
    constructor <;> simp [hgenerates, hreads, hserial]
  | true =>
    obtain ⟨hreply, hreads, hserial⟩ := Ask.response_of_generates hgenerates
    constructor
    · cases hgenerated : ask.device.serial.generated <;> simp [hgenerates, hreads, hgenerated]
    · cases hgenerated : ask.device.serial.generated <;> simp [hgenerates, hserial, hgenerated]
    · intro other hother _
      cases List.mem_singleton.mp hother
      exact ⟨_, hserial, hreply⟩

theorem Device.Attends.generates {first last : Device} {asks : List Ask}
    (h : first.Attends asks last) :
    Generates first.serial.generated asks last.serial.generated := by
  induction h with
  | nil device => exact .nil _
  | @ask device _ asks board request _ ih =>
    exact (generates_single ⟨device, board, request⟩).append ih
  | subscribe listener _ ih => exact ih

/-! ### Setup -/

namespace Session

open Occurrence (sighting?)

/-- Setup generates no serial number. -/
theorem serial_performSetup (session : Session) (setup : Setup) :
    (session.performSetup setup).session.device.serial = session.device.serial := by
  cases setup with
  | replaceIdentity identity => exact Device.serial_replaceIdentity session.device identity
  | buildReports => exact Device.serial_buildReports session.device
  | buildConfiguration => exact Device.serial_buildConfiguration session.device
  | prepare => exact Device.serial_buildConfiguration session.device
  | start =>
    obtain hsame | hprepared := start_device_cases session
    · rw [performSetup, hsame]
    · rw [performSetup, hprepared]
      exact Device.serial_buildConfiguration session.device

/-- **The asks of a session generate at most one text**, for which the first of them that needs it
reads the board. -/
theorem generates_run (session : Session) (steps : List Step) :
    Generates session.device.serial.generated (session.asks steps)
      (session.run steps).1.device.serial.generated := by
  induction steps generalizing session with
  | nil => exact .nil _
  | cons step rest ih =>
    cases step with
    | setup setup =>
      have hrest := ih (session.performSetup setup).session
      rw [serial_performSetup] at hrest
      exact hrest
    | action action =>
      have haction := (accounted_perform session action).attends.generates
      exact haction.append (ih _)

/-! ### The log -/

theorem sighting?_eq_boardRead_iff (occurrence : Occurrence) :
    occurrence.sighting? = some .boardRead ↔ occurrence = .event (.effect .boardRead) := by
  constructor
  · intro h
    unfold sighting? at h
    split at h
    · rfl
    · cases h
    · cases h
    · cases h
  · rintro rfl
    rfl

/-- How often the board is read is how many asks read it. -/
theorem count_boardRead (session : Session) (steps : List Step) :
    (session.log steps).count (.event (.effect .boardRead)) =
      ((session.asks steps).filter Ask.reads).length := by
  have hlog : ∀ log : List Occurrence, log.count (.event (.effect .boardRead)) =
      (log.filterMap sighting?).count .boardRead := by
    intro log
    rw [List.count_filterMap]
    apply List.countP_congr
    intro occurrence _
    rw [beq_iff_eq, beq_iff_eq, sighting?_eq_boardRead_iff]
  have hasks : ∀ asks : List Ask, (asks.flatMap Ask.sightings).count .boardRead =
      (asks.filter Ask.reads).length := by
    intro asks
    induction asks with
    | nil => rfl
    | cons ask rest ih =>
      rw [List.flatMap_cons, List.count_append, ih, List.filter_cons, Ask.sightings]
      cases ask.reads <;> simp [Nat.add_comm]
  rw [hlog, sightings_log, hasks]

/-- **The board is read at most once, and only when needed.** The asks of a session account for all
that its log tells of requests and of readings of the board. Of those that ask for the serial number
while the identity has none, the first reads the board, and nothing else ever does: no other ask, and
no setup. All of them are shown the identifier that the board had then, in sixteen upper-case digits
that read back as its bytes. Whoever asks for the serial number of an identity that has one is shown
it, and nothing is read. -/
theorem board_read_once (scenario : Scenario) (steps : List Step) :
    let asks := scenario.session.asks steps
    let log := scenario.session.log steps
    let generating := asks.filter Ask.generates
    log.filterMap sighting? = asks.flatMap Ask.sightings ∧
    asks.filter Ask.reads = generating.take 1 ∧
    log.count (.event (.effect .boardRead)) ≤ 1 ∧
    (∀ first, generating.head? = some first →
      let digits := Hexadecimal.ofBytes first.board.toList
      digits.length = 16 ∧ (∀ c ∈ digits, c ∈ "0123456789ABCDEF".toList) ∧
        Hexadecimal.toBytes? digits = some first.board.toList ∧
        ∀ ask ∈ generating, ask.reply = .string (some (.ofText (String.ofList digits)))) ∧
    (∀ ask ∈ asks, ask.forSerial = true → ask.device.identity.serial.isEmpty = false →
      ask.reply = .string (some (.ofText ask.device.identity.serial)) ∧
        ask.response.effects = []) ∧
    ∀ (now : Session) (setup : Setup),
      .event (.effect .boardRead) ∉ (now.performSetup setup).log := by
  intro asks log generating
  obtain ⟨hreads, hkept, hreplies⟩ := generates_run scenario.session steps
  have hfirst : asks.filter Ask.reads = generating.take 1 := hreads
  refine ⟨sightings_log _ steps, hfirst, ?_, ?_, ?_, ?_⟩
  · rw [count_boardRead, show scenario.session.asks steps = asks from rfl, hfirst]
    exact List.length_take_le 1 generating
  · intro first hhead digits
    refine ⟨?_, fun c => Hexadecimal.mem_ofBytes, Hexadecimal.toBytes?_ofBytes _,
      fun ask hask => ?_⟩
    · rw [Hexadecimal.length_ofBytes, Vector.length_toList]
    obtain ⟨hmem, hgenerates⟩ := List.mem_filter.mp hask
    obtain ⟨text, htext, hreply⟩ := hreplies ask hmem hgenerates
    -- what is kept in the end is what the first ask was shown
    have hboard : some text = some first.boardText := by
      rw [← htext, hkept]
      exact congrArg (Option.map Ask.boardText) hhead
    cases hboard
    exact hreply
  · intro ask _ hserial hexplicit
    obtain ⟨hreply, heffects, -⟩ := Ask.response_of_explicit hserial hexplicit
    exact ⟨hreply, heffects⟩
  · intro now setup hread
    have hsilent := List.filterMap_eq_nil_iff.mp (sightings_performSetup now setup) _ hread
    cases hsilent

/-- A keyboard is asked for its serial number, and again under a hold behind a change of the board: the
board is read once, and both are shown what it was at first. Then the identity gets a serial number of
its own, which is what the task is shown. -/
theorem board_read_once_keyboard :
    let steps := [Step.action (.single (.request (.string 3 0x0409))),
      .action (.single (.changeBoard (.replicate 8 0x1D))),
      .action (.hold .waiting [.single (.request (.string 3 0x0407))]),
      .setup (.replaceIdentity { serial := "A1" }),
      .setup .start,
      .action (.single .interrupt)]
    let asks := Scenario.keyboard.session.asks steps
    let log := Scenario.keyboard.session.log steps
    let generating := asks.filter Ask.generates
    asks.length = 3 ∧ generating.length = 2 ∧
      log.count (.event (.effect .boardRead)) = 1 ∧
      Hexadecimal.toBytes? "E6E6E6E6E6E6E6E6".toList = some (List.replicate 8 0xE6) ∧
      (∀ ask ∈ generating, ask.reply = .string (some (.ofText "E6E6E6E6E6E6E6E6"))) ∧
      ∃ ask ∈ asks, ask.device.identity.serial = "A1" ∧
        ask.reply = .string (some (.ofText "A1")) ∧ ask.response.effects = [] := by
  intro steps asks log generating
  obtain ⟨-, -, honce, hdigits, hexplicit, -⟩ := board_read_once Scenario.keyboard steps
  have hread : 0 < log.count (.event (.effect .boardRead)) := by decide +kernel
  have hfirst : (generating.head?.map Ask.board) = some (.replicate 8 0xE6) := by decide +kernel
  obtain ⟨first, hhead, hboard⟩ := Option.map_eq_some_iff.mp hfirst
  obtain ⟨-, -, hback, hshown⟩ := hdigits first hhead
  rw [hboard] at hback hshown
  have hlast : ∃ ask ∈ asks, ask.forSerial = true ∧ ask.device.identity.serial = "A1" := by
    decide +kernel
  obtain ⟨ask, hask, hserial, hown⟩ := hlast
  obtain ⟨hreply, heffects⟩ := hexplicit ask hask hserial (by rw [hown]; decide)
  rw [hown] at hreply
  exact ⟨by decide +kernel, by decide +kernel, Nat.le_antisymm honce hread, hback, hshown,
    ask, hask, hown, hreply, heffects⟩

end Session

end UsbComposite
