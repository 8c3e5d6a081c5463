import UsbComposite.Proofs.Device.Asks
import UsbComposite.Proofs.Text.Truncation

/-!
# Serial numbers identify boards

The sixteen digits of a board's identifier are few enough for a string descriptor, so nothing is cut
and the identifier can be read off what the host is shown. A device that was not asked before shows
the digits of its own board, whatever else was done to it. So two such devices show the same serial
number only on boards with the same identifier.

* `BoardId.ofText_text_injective`: the descriptor of the digits tells the identifier;
* `Ask.response_of_generates`, `Ask.response_of_explicit`: what an ask for the serial number does;
* `serial_act_cases`: an act leaves the generated text as it is, or shows it;
* `ofBoard_live`: a text that was generated is that of a board;
* `serials_identify_boards`: all of it together.
-/

namespace UsbComposite

/-! ### The digits of a board -/

theorem Hexadecimal.digit_mem {value : Nat} (h : value < 16) :
    digit value ∈ "0123456789ABCDEF".toList := by
  have all : ∀ n, n < 16 → digit n ∈ "0123456789ABCDEF".toList := by decide
  exact all value h

theorem Hexadecimal.mem_ofBytes {bytes : List UInt8} {c : Char} (h : c ∈ ofBytes bytes) :
    c ∈ "0123456789ABCDEF".toList := by
  obtain ⟨byte, -, hc⟩ := List.mem_flatMap.mp h
  have hlt := byte.toNat_lt
  rcases List.mem_cons.mp hc with rfl | hc
  · exact digit_mem (by omega)
  · cases List.mem_singleton.mp hc
    exact digit_mem (by omega)

theorem Hexadecimal.length_ofBytes (bytes : List UInt8) :
    (ofBytes bytes).length = 2 * bytes.length := by
  induction bytes with
  | nil => rfl
  | cons byte rest ih =>
    rw [ofBytes, List.flatMap_cons, List.length_append, ← ofBytes, ih, List.length_cons, ofByte,
      List.length_cons, List.length_singleton]
    omega

namespace BoardId

theorem toList_text (board : BoardId) : (text board).toList = Hexadecimal.ofBytes board.toList :=
  String.toList_ofList

theorem length_text (board : BoardId) : (text board).toList.length = 16 := by
  rw [toList_text, Hexadecimal.length_ofBytes, Vector.length_toList]

theorem mem_text {board : BoardId} {c : Char} (h : c ∈ (text board).toList) :
    c ∈ "0123456789ABCDEF".toList := by
  rw [toList_text] at h
  exact Hexadecimal.mem_ofBytes h

/-- The digits of a board are read as its identifier. -/
theorem toBytes?_text (board : BoardId) :
    Hexadecimal.toBytes? (text board).toList = some board.toList := by
  rw [toList_text, Hexadecimal.toBytes?_ofBytes]

theorem text_injective : Function.Injective text := by
  intro board other h
  have hbytes := toBytes?_text board
  rw [h, toBytes?_text] at hbytes
  exact Vector.toList_inj.mp (Option.some.inj hbytes).symm

theorem length_encode_text (board : BoardId) :
    (Utf16.encode (text board).toList).length = 16 := by
  have hdigits : "0123456789ABCDEF".toList.all (·.toNat < 0x10000) = true := by decide
  have hbasic : ∀ c ∈ (text board).toList, c.toNat < 0x10000 := by
    intro c hc
    exact of_decide_eq_true (List.all_eq_true.mp hdigits c (mem_text hc))
  rw [Utf16.length_encode_of_basic hbasic, length_text]

/-- The digits of a board are read back from their descriptor. -/
theorem decode?_ofText_text (board : BoardId) :
    Utf16.decode? (StringDescriptor.ofText (text board)).units = some (text board).toList := by
  rw [StringDescriptor.decode?_ofText_eq_some_iff, length_encode_text]
  decide

theorem length_ofText_text (board : BoardId) :
    (StringDescriptor.ofText (text board)).length = 16 := by
  show ((Utf16.encode (text board).toList).take 19).length = 16
  rw [List.length_take, length_encode_text]
  rfl

/-- **The descriptor of a board's digits tells its identifier.** -/
theorem ofText_text_injective :
    Function.Injective fun board : BoardId => StringDescriptor.ofText (text board) := by
  intro board other h
  have hread := decode?_ofText_text board
  rw [show StringDescriptor.ofText (text board) = _ from h, decode?_ofText_text] at hread
  exact text_injective (String.toList_inj.mp (Option.some.inj hread).symm)

end BoardId

/-! ### One ask -/

namespace Ask

/-- Whether the host asks for the serial number. -/
def forSerial (ask : Ask) : Bool :=
  match ask.request with
  | .string index _ => index == 3
  | _ => false

/-- Whether the host asks for the serial number of an identity that has none. -/
def generates (ask : Ask) : Bool :=
  ask.forSerial && ask.device.identity.serial.isEmpty

/-- The text that is shown, if the board is read for it. -/
def boardText (ask : Ask) : String :=
  ask.board.text

theorem ofIndex?_eq_serial_iff (index : UInt8) :
    StringSlot.ofIndex? index = some .serial ↔ index = 3 := by
  constructor
  · intro h
    have hfound := List.find?_some h
    exact (eq_of_beq hfound).symm
  · rintro rfl
    rfl

/-- The answer to a request for the serial number. -/
theorem response_of_forSerial {ask : Ask} (h : ask.forSerial = true) :
    ask.response =
      ⟨.string (some (ask.device.stringText ask.board .serial)),
        if ask.device.readsBoard then [.boardRead] else [],
        ask.device.afterString ask.board .serial⟩ := by
  obtain ⟨device, board, request⟩ := ask
  cases request with
  | string index language =>
    cases eq_of_beq (show (index == 3) = true from h)
    rw [response, Device.respond, (ofIndex?_eq_serial_iff 3).mpr rfl]
    simp
  | _ => cases h

/-- **An ask for a serial number that has to be generated** shows the text generated before, or that
of the board, which it reads only then. -/
theorem response_of_generates {ask : Ask} (h : ask.generates = true) :
    ask.reply = .string (some (.ofText (ask.device.serial.generated.getD ask.boardText))) ∧
      ask.reads = ask.device.serial.generated.isNone ∧
      ask.response.device.serial.generated =
        some (ask.device.serial.generated.getD ask.boardText) := by
  rw [generates, Bool.and_eq_true] at h
  obtain ⟨hserial, hempty⟩ := h
  have hresponse := response_of_forSerial hserial
  refine ⟨?_, ?_, ?_⟩
  · rw [reply, hresponse, Device.stringText, if_pos hempty]
    rfl
  · rw [reads, hresponse, Device.readsBoard, hempty, SerialNumber.isGenerated]
    cases ask.device.serial.generated <;> rfl
  · rw [hresponse, Device.afterString, if_pos hempty]
    rfl

/-- **An ask for a serial number that the identity has** shows it and reads nothing. -/
theorem response_of_explicit {ask : Ask} (h : ask.forSerial = true)
    (hexplicit : ask.device.identity.serial.isEmpty = false) :
    ask.reply = .string (some (.ofText ask.device.identity.serial)) ∧ ask.response.effects = [] ∧
      ask.response.device = ask.device := by
  have hresponse := response_of_forSerial h
  have hnot : ¬ ask.device.identity.serial.isEmpty = true := by rw [hexplicit]; decide
  refine ⟨?_, ?_, ?_⟩
  · rw [reply, hresponse, Device.stringText, if_neg hnot]
  · rw [hresponse, Device.readsBoard, hexplicit]
    rfl
  · rw [hresponse, Device.afterString, if_neg hnot]

/-- Any other ask reads nothing and leaves the generated text as it is. -/
theorem response_of_not_forSerial {ask : Ask} (h : ask.forSerial = false) :
    ask.reads = false ∧ ask.response.device.serial = ask.device.serial := by
  obtain ⟨device, board, request⟩ := ask
  cases request with
  | string index language =>
    have hslot : StringSlot.ofIndex? index ≠ some .serial := by
      rw [Ne, ofIndex?_eq_serial_iff]
      exact ne_of_beq_false h
    simp only [reads, response, Device.respond]
    cases hfound : StringSlot.ofIndex? index with
    | none => exact ⟨rfl, rfl⟩
    | some slot =>
      rw [hfound] at hslot
      cases slot with
      | serial => exact absurd rfl hslot
      | _ => exact ⟨rfl, rfl⟩
  | _ =>
    simp [reads, response, Device.respond, Device.mediumEffects]

/-- Where nothing has to be generated, nothing is read and the generated text stays as it is. -/
theorem response_of_not_generates {ask : Ask} (h : ask.generates = false) :
    ask.reads = false ∧ ask.response.device.serial = ask.device.serial := by
  cases hserial : ask.forSerial with
  | false => exact response_of_not_forSerial hserial
  | true =>
    rw [generates, hserial, Bool.true_and] at h
    obtain ⟨-, heffects, hdevice⟩ := response_of_explicit hserial h
    rw [reads, heffects, hdevice]
    exact ⟨rfl, rfl⟩

end Ask

/-! ### The generated text along a life -/

/-- The text that was generated, if any, is that of a board. -/
def SerialNumber.OfBoard (serial : SerialNumber) : Prop :=
  ∀ text, serial.generated = some text → ∃ board : BoardId, text = board.text

/-- So is the text that is shown. -/
theorem SerialNumber.OfBoard.exists_text {serial : SerialNumber} (h : serial.OfBoard)
    (board : BoardId) : ∃ shown : BoardId, serial.text board = shown.text := by
  rw [text]
  cases hgenerated : serial.generated with
  | none => exact ⟨board, rfl⟩
  | some text => exact h text hgenerated

theorem SerialNumber.OfBoard.shown {serial : SerialNumber} (h : serial.OfBoard)
    (board : BoardId) : (serial.shown board).OfBoard := by
  intro text htext
  obtain ⟨origin, horigin⟩ := h.exists_text board
  exact ⟨origin, (Option.some.inj htext).symm.trans horigin⟩

namespace Device

theorem serial_buildReports (device : Device) : device.buildReports.1.serial = device.serial := by
  obtain ⟨reports, hbuilt⟩ := exists_buildReports_eq device
  rw [hbuilt]

theorem serial_buildConfiguration (device : Device) :
    device.buildConfiguration.1.serial = device.serial := by
  obtain ⟨reports, configuration, hbuilt⟩ := exists_buildConfiguration_eq device
  rw [hbuilt]

theorem serial_replaceIdentity (device : Device) (identity : Identity) :
    (device.replaceIdentity identity).1.serial = device.serial := by
  obtain hsame | ⟨-, hnew⟩ := replaceIdentity_cases device identity
  · rw [hsame]
  · rw [hnew]

/-- Whether an act asks for the serial number. -/
def Act.asksSerial : Act → Bool
  | .respond _ (.string index _) => index == 3
  | _ => false

theorem Act.forSerial_eq (device : Device) (board : BoardId) (request : Request) :
    Ask.forSerial ⟨device, board, request⟩ = (Act.respond board request).asksSerial := by
  cases request <;> rfl

/-- **An act leaves the generated text as it is**, unless it asks for the serial number and shows
it. -/
theorem serial_act_cases (device : Device) (act : Act) :
    (device.act act).serial = device.serial ∨
      act.asksSerial = true ∧
        ∃ board, (device.act act).serial = device.serial.shown board := by
  cases act with
  | replaceIdentity identity => exact .inl (serial_replaceIdentity device identity)
  | subscribe listener => exact .inl rfl
  | buildReports => exact .inl (serial_buildReports device)
  | buildConfiguration => exact .inl (serial_buildConfiguration device)
  | prepare => exact .inl (serial_buildConfiguration device)
  | respond board request =>
    cases hasks : (Act.respond board request).asksSerial with
    | false =>
      rw [← Act.forSerial_eq device] at hasks
      exact .inl (Ask.response_of_not_forSerial hasks).2
    | true =>
      obtain hsame | hshown := respond_cases device board request
      · exact .inl (congrArg Device.serial hsame)
      · exact .inr ⟨rfl, board, congrArg Device.serial hshown⟩

/-- As long as nobody asks for the serial number, no text is generated. -/
theorem serial_live {acts : List Act} (h : ∀ act ∈ acts, act.asksSerial = false)
    (device : Device) : (device.live acts).serial = device.serial := by
  induction acts generalizing device with
  | nil => rfl
  | cons act rest ih =>
    obtain ⟨hact, hrest⟩ := List.forall_mem_cons.mp h
    rw [live_cons, ih hrest]
    obtain hsame | ⟨hasks, -⟩ := serial_act_cases device act
    · exact hsame
    · rw [hact] at hasks
      cases hasks

theorem ofBoard_act {device : Device} (h : device.serial.OfBoard) (act : Act) :
    (device.act act).serial.OfBoard := by
  obtain hsame | ⟨-, board, hshown⟩ := serial_act_cases device act
  · rwa [hsame]
  · rw [hshown]
    exact h.shown board

/-- **A text that was generated is that of a board.** -/
theorem ofBoard_live {device : Device} (h : device.serial.OfBoard) (acts : List Act) :
    (device.live acts).serial.OfBoard := by
  induction acts generalizing device with
  | nil => exact h
  | cons act rest ih => exact ih (ofBoard_act h act)

theorem ofBoard_make (roles : RoleSet) (medium : Medium) :
    (make roles medium).serial.OfBoard := by
  intro text htext
  cases htext

/-! ### The first request for the serial number -/

/-- A device whose identity has no serial number of its own, and which was not asked for one yet in
all that it lived through. -/
structure AwaitsSerial (device : Device) : Prop where
  lived : ∃ roles medium acts, device = (make roles medium).live acts ∧
    ∀ act ∈ acts, act.asksSerial = false
  empty : device.identity.serial = ""

/-- It shows the digits of its board. -/
theorem AwaitsSerial.reply_eq {device : Device} (h : device.AwaitsSerial) (board : BoardId)
    (language : UInt16) :
    (device.respond board (.string 3 language)).reply =
      .string (some (.ofText board.text)) := by
  obtain ⟨roles, medium, acts, hdevice, hacts⟩ := h.lived
  have hnone : device.serial.generated = none := by
    rw [hdevice, serial_live hacts]
    rfl
  have hgenerates : Ask.generates ⟨device, board, .string 3 language⟩ = true := by
    show (true && device.identity.serial.isEmpty) = true
    rw [h.empty]
    rfl
  have hreply := (Ask.response_of_generates hgenerates).1
  rw [hnone] at hreply
  exact hreply

/-- **Serial numbers identify boards.** The text of a board has sixteen hexadecimal digits, from which
its identifier is read, and its descriptor cuts nothing off. So two devices of any roles, with any
identities that have no serial number of their own, show the same serial number when they are first
asked for it exactly if the identifiers of their boards are the same. -/
theorem serials_identify_boards :
    (∀ board : BoardId,
      let digits := board.text.toList
      let descriptor := StringDescriptor.ofText board.text
      (digits.length = 16 ∧ ∀ c ∈ digits, c ∈ "0123456789ABCDEF".toList) ∧
      Hexadecimal.toBytes? digits = some board.toList ∧
      descriptor.length = 16 ∧ Utf16.decode? descriptor.units = some digits) ∧
    ∀ first second : Device, first.AwaitsSerial → second.AwaitsSerial →
      ∀ (board other : BoardId) (language language' : UInt16),
        (first.respond board (.string 3 language)).reply =
            (second.respond other (.string 3 language')).reply ↔
          board = other := by
  constructor
  · intro board digits descriptor
    exact ⟨⟨BoardId.length_text board, fun c => BoardId.mem_text⟩, BoardId.toBytes?_text board,
      BoardId.length_ofText_text board, BoardId.decode?_ofText_text board⟩
  · intro first second hfirst hsecond board other language language'
    rw [hfirst.reply_eq, hsecond.reply_eq]
    constructor
    · intro h
      exact BoardId.ofText_text_injective (Option.some.inj (Reply.string.inj h))
    · rintro rfl
      rfl

/-- A board whose identifier is zero and one whose identifier is one show different serial numbers,
on devices of different roles and identities. -/
theorem serials_identify_boards_zero_one :
    let first := (make (.ofList [.mouse]) .absent).live
      [.replaceIdentity { vendor := 1, productName := "Pad" }, .respond #v[0, 0, 0, 0, 0, 0, 0, 0]
        (.string 2 0)]
    let second := make (.ofList [.serial, .keyboard]) .absent
    let zero : BoardId := #v[0, 0, 0, 0, 0, 0, 0, 0]
    let one : BoardId := #v[0, 0, 0, 0, 0, 0, 0, 1]
    first.AwaitsSerial ∧ second.AwaitsSerial ∧
      (first.respond zero (.string 3 0x0409)).reply ≠ (second.respond one (.string 3 0)).reply := by
  intro first second zero one
  have hfirst : first.AwaitsSerial := ⟨⟨_, _, _, rfl, by decide⟩, rfl⟩
  have hsecond : second.AwaitsSerial := ⟨⟨_, _, [], rfl, by decide⟩, rfl⟩
  have hiff := serials_identify_boards.2 first second hfirst hsecond zero one 0x0409 0
  exact ⟨hfirst, hsecond, fun hsame => absurd (hiff.mp hsame) (by decide)⟩

end Device

end UsbComposite
