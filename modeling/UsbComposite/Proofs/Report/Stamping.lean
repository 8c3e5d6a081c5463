import UsbComposite.Proofs.Report.Shared

/-!
# Stamping into a buffer of bounded room

A stamp writes three parts, and the first part that does not fit ends it. What the buffer holds behind
it is one of the **stages** of the writing: what was there before, with some of the parts behind it.

* `longestFit_writeParts`: the buffer holds the longest stage that fits;
* `writeParts_outcome`: the writing succeeds exactly if everything fits;
* `stampOutcome_stampInto`: so it is with a stamp;
* `stamping_course`: and along any sequence of stamps the buffer only grows, within its room.
-/

namespace UsbComposite.Template

/-! ### Stages of a writing -/

/-- What a buffer goes through when parts are written behind what it holds. -/
def stages (written : List UInt8) : List (List UInt8) → List (List UInt8)
  | [] => [written]
  | part :: rest => written :: stages (written ++ part) rest

/-- `bytes` is the longest of the candidates that fits a room. -/
structure LongestFit (capacity : Nat) (bytes : List UInt8) (candidates : List (List UInt8)) :
    Prop where
  mem : bytes ∈ candidates
  fits : bytes.length ≤ capacity
  longest : ∀ other ∈ candidates, other.length ≤ capacity → other.length ≤ bytes.length

/-- A candidate that does not fit can be left out. -/
theorem LongestFit.of_concat {capacity : Nat} {bytes last : List UInt8}
    {candidates : List (List UInt8)} (h : LongestFit capacity bytes (candidates ++ [last]))
    (hlast : capacity < last.length) : LongestFit capacity bytes candidates := by
  obtain ⟨hmem, hfits, hlongest⟩ := h
  refine ⟨?_, hfits, fun other hother => hlongest other (List.mem_append_left _ hother)⟩
  rcases List.mem_append.mp hmem with hfront | hback
  · exact hfront
  · rw [List.mem_singleton.mp hback] at hfits
    omega

/-- What was there before stays in front through all stages. -/
theorem prefix_of_mem_stages {written stage : List UInt8} {parts : List (List UInt8)}
    (h : stage ∈ stages written parts) : written <+: stage := by
  induction parts generalizing written with
  | nil =>
    obtain rfl := List.mem_singleton.mp h
    exact List.prefix_rfl
  | cons part rest ih =>
    rcases List.mem_cons.mp h with rfl | hlater
    · exact List.prefix_rfl
    · exact (List.prefix_append written part).trans (ih hlater)

/-- **A buffer comes to hold the longest stage that fits.** -/
theorem longestFit_writeParts {capacity : Nat} {written : List UInt8}
    (room : written.length ≤ capacity) (parts : List (List UInt8)) :
    LongestFit capacity (writeParts capacity written parts).1 (stages written parts) := by
  induction parts generalizing written with
  | nil =>
    refine ⟨List.mem_singleton_self written, room, ?_⟩
    intro other hother _
    rw [List.mem_singleton.mp hother]
    exact Nat.le_refl _
  | cons part rest ih =>
    rw [writeParts, stages]
    split
    · rename_i hfits
      obtain ⟨hmem, hroom, hlongest⟩ := ih
        (show (written ++ part).length ≤ capacity by rwa [List.length_append])
      refine ⟨List.mem_cons_of_mem _ hmem, hroom, ?_⟩
      intro other hother hfit
      rcases List.mem_cons.mp hother with rfl | hlater
      · have hgrown := (prefix_of_mem_stages hmem).length_le
        rw [List.length_append] at hgrown
        omega
      · exact hlongest other hlater hfit
    · rename_i hover
      refine ⟨List.mem_cons_self, room, ?_⟩
      intro other hother hfit
      rcases List.mem_cons.mp hother with rfl | hlater
      · exact Nat.le_refl _
      · -- a later stage holds the part that does not fit
        have hgrown := (prefix_of_mem_stages hlater).length_le
        rw [List.length_append] at hgrown
        omega

/-- **A writing succeeds exactly if everything fits.** -/
theorem writeParts_outcome {capacity : Nat} {written : List UInt8}
    (room : written.length ≤ capacity) (parts : List (List UInt8)) :
    (writeParts capacity written parts).2 =
      if written.length + parts.flatten.length ≤ capacity then .ok ()
      else .error .descriptorOverflow := by
  induction parts generalizing written with
  | nil => exact (if_pos room).symm
  | cons part rest ih =>
    rw [writeParts, List.flatten_cons, List.length_append]
    split
    · rename_i hfits
      rw [ih (by rwa [List.length_append]), List.length_append, Nat.add_assoc]
    · rename_i hover
      rw [if_neg (by omega)]

/-! ### One stamp -/

variable {capacity : Nat}

/-- The three parts of a stamp are the stamped template. -/
theorem flatten_parts (template : Template) (id : UInt8) :
    [template.opening, (idItem id).encode, template.remainder].flatten = template.stamped id := by
  rw [stamped]
  simp only [List.flatten_cons, List.flatten_nil, List.append_nil, List.append_assoc]

/-- What a stamp behind `held` comes to: it succeeds exactly if the stamped template fits, and then
the buffer holds it whole; otherwise the buffer holds as many of the parts as fit. -/
structure StampOutcome (capacity : Nat) (template : Template) (id : UInt8) (held : List UInt8)
    (result : List UInt8 × Except Fault Unit) : Prop where
  ok_iff : result.2 = .ok () ↔ held.length + template.body.length + 2 ≤ capacity
  whole : result.2 = .ok () →
    result.1 = held ++ template.body.take 6 ++ [0x85, id] ++ template.body.drop 6
  grown : result.2 = .ok () → result.1.length = held.length + template.stampedLength
  overflow : result.2 ≠ .ok () → result.2 = .error .descriptorOverflow
  partly : result.2 ≠ .ok () → LongestFit capacity result.1
    [held, held ++ template.body.take 6, held ++ template.body.take 6 ++ [0x85, id]]
  kept : held <+: result.1
  within : result.1.length ≤ capacity

/-- **What a stamp comes to.** -/
theorem stampOutcome_stampInto {held : List UInt8} (room : held.length ≤ capacity)
    (template : Template) (id : UInt8) :
    StampOutcome capacity template id held (template.stampInto capacity id held) := by
  have hfit := longestFit_writeParts room
    [template.opening, (idItem id).encode, template.remainder]
  have houtcome := writeParts_outcome room
    [template.opening, (idItem id).encode, template.remainder]
  rw [flatten_parts, length_stamped] at houtcome
  have hiff : (template.stampInto capacity id held).2 = .ok () ↔
      held.length + template.stampedLength ≤ capacity := by
    rw [stampInto, houtcome]
    split
    · rename_i hfits
      exact iff_of_true rfl hfits
    · rename_i hover
      refine iff_of_false (fun h => ?_) hover
      cases h
  have hwhole (h : (template.stampInto capacity id held).2 = .ok ()) :
      (template.stampInto capacity id held).1 = held ++ template.stamped id := by
    rw [stampInto_of_le (hiff.mp h)]
  refine ⟨?_, ?_, ?_, ?_, ?_, prefix_of_mem_stages hfit.mem, hfit.fits⟩
  · rw [hiff, stampedLength, Nat.add_assoc]
  · intro h
    rw [hwhole h, stamped, ← List.append_assoc, ← List.append_assoc]
    rfl
  · intro h
    rw [hwhole h, List.length_append, length_stamped]
  · intro h
    rw [stampInto, houtcome, if_neg fun hle => h (hiff.mpr hle)]
  · intro h
    -- the last stage is the one with the whole template, and that does not fit
    have hlast : capacity <
        (held ++ template.opening ++ (idItem id).encode ++ template.remainder).length := by
      rw [List.append_assoc, List.append_assoc, List.length_append, ← List.append_assoc]
      show capacity < held.length + (template.stamped id).length
      rw [length_stamped]
      exact Nat.not_le.mp fun hle => h (hiff.mpr hle)
    exact LongestFit.of_concat hfit hlast

/-! ### Stamps one after the other -/

/-- What the buffer holds behind stamps, of which some may have failed. -/
def heldAfter (capacity : Nat) (written : List UInt8) (stamps : List (Template × UInt8)) :
    List UInt8 :=
  stamps.foldl (fun held stamp => (stamp.1.stampInto capacity stamp.2 held).1) written

@[simp] theorem heldAfter_append (written : List UInt8) (stamps later : List (Template × UInt8)) :
    heldAfter capacity written (stamps ++ later) =
      heldAfter capacity (heldAfter capacity written stamps) later :=
  List.foldl_append

/-- **Stamps never leave the room, and bytes once written stay.** -/
theorem prefix_heldAfter {written : List UInt8} (room : written.length ≤ capacity)
    (stamps : List (Template × UInt8)) :
    written <+: heldAfter capacity written stamps ∧
      (heldAfter capacity written stamps).length ≤ capacity := by
  induction stamps generalizing written with
  | nil => exact ⟨List.prefix_rfl, room⟩
  | cons stamp rest ih =>
    have hstamp := stampOutcome_stampInto room stamp.1 stamp.2
    obtain ⟨hkept, hwithin⟩ := ih hstamp.within
    exact ⟨hstamp.kept.trans hkept, hwithin⟩

/-- Each stamp finds what those in front of it have left. -/
theorem stampAll_append (written : List UInt8) (stamps later : List (Template × UInt8)) :
    stampAll capacity written (stamps ++ later) =
      stampAll capacity written stamps ++
        stampAll capacity (heldAfter capacity written stamps) later := by
  induction stamps generalizing written with
  | nil => rfl
  | cons stamp rest ih =>
    obtain ⟨template, id⟩ := stamp
    simp only [List.cons_append, stampAll, ih]
    rfl

theorem length_stampAll (written : List UInt8) (stamps : List (Template × UInt8)) :
    (stampAll capacity written stamps).length = stamps.length := by
  induction stamps generalizing written with
  | nil => rfl
  | cons stamp rest ih => simp only [stampAll, List.length_cons, ih]

/-- Stamps that all succeed leave the stamped templates, one after the other. -/
theorem heldAfter_of_forall_ok {written : List UInt8} {stamps : List (Template × UInt8)}
    (room : written.length ≤ capacity)
    (h : ∀ result ∈ stampAll capacity written stamps, result.2 = .ok ()) :
    heldAfter capacity written stamps = written ++ ReportDescriptor.stampedAll stamps := by
  induction stamps generalizing written with
  | nil => exact (List.append_nil written).symm
  | cons stamp rest ih =>
    obtain ⟨template, id⟩ := stamp
    obtain ⟨hfirst, hrest⟩ := List.forall_mem_cons.mp h
    have hstamp := stampOutcome_stampInto room template id
    have hfits := hstamp.ok_iff.mp hfirst
    have hresult : (template.stampInto capacity id written).1 = written ++ template.stamped id := by
      rw [stampInto_of_le (by rw [stampedLength]; omega)]
    show heldAfter capacity (template.stampInto capacity id written).1 rest = _
    rw [ih hstamp.within hrest, hresult, List.append_assoc]
    rfl

/-- Stamps that all fit together all succeed. -/
theorem forall_ok_of_le {written : List UInt8} {stamps : List (Template × UInt8)}
    (h : written.length + ReportDescriptor.totalLength (stamps.map Prod.fst) ≤ capacity) :
    ∀ result ∈ stampAll capacity written stamps, result.2 = .ok () := by
  induction stamps generalizing written with
  | nil =>
    intro result hresult
    cases hresult
  | cons stamp rest ih =>
    obtain ⟨template, id⟩ := stamp
    have hsum : ReportDescriptor.totalLength (((template, id) :: rest).map Prod.fst) =
        template.stampedLength + ReportDescriptor.totalLength (rest.map Prod.fst) := rfl
    rw [hsum] at h
    have hfirst : template.stampInto capacity id written =
        (written ++ template.stamped id, .ok ()) := stampInto_of_le (by omega)
    simp only [stampAll, hfirst, List.forall_mem_cons, true_and]
    exact ih (by rw [List.length_append, length_stamped]; omega)

/-- **The course of a sequence of stamps** into a buffer of bounded room, whatever it holds at first.
Each stamp succeeds exactly if the stamped template fits behind what the buffer holds by then, and
adds it whole; otherwise it adds as many of its three parts as fit. The buffer stays within its room,
and bytes once written stay. If every stamp succeeds, the templates stand stamped one after the other,
with the sum of their lengths. -/
theorem stamping_course {written : List UInt8} (room : written.length ≤ capacity)
    (stamps : List (Template × UInt8)) :
    (∀ front template id back, stamps = front ++ (template, id) :: back →
      let held := heldAfter capacity written front
      let result := template.stampInto capacity id held
      (stampAll capacity written stamps)[front.length]? = some result ∧
        heldAfter capacity written (front ++ [(template, id)]) = result.1 ∧
        StampOutcome capacity template id held result) ∧
    (∀ front back, stamps = front ++ back →
      (heldAfter capacity written front).length ≤ capacity ∧
        heldAfter capacity written front <+: heldAfter capacity written stamps) ∧
    ((∀ result ∈ stampAll capacity written stamps, result.2 = .ok ()) →
      heldAfter capacity written stamps = written ++ ReportDescriptor.stampedAll stamps ∧
        (heldAfter capacity written stamps).length =
          written.length + ReportDescriptor.totalLength (stamps.map Prod.fst)) := by
  refine ⟨?_, ?_, ?_⟩
  · rintro front template id back rfl
    have hfront := (prefix_heldAfter room front).2
    refine ⟨?_, heldAfter_append _ _ _, stampOutcome_stampInto hfront template id⟩
    rw [stampAll_append, List.getElem?_append_right (Nat.le_of_eq (length_stampAll _ _)),
      length_stampAll, Nat.sub_self]
    rfl
  · rintro front back rfl
    have hfront := (prefix_heldAfter room front).2
    refine ⟨hfront, ?_⟩
    rw [heldAfter_append]
    exact (prefix_heldAfter hfront back).1
  · intro hall
    have hheld := heldAfter_of_forall_ok room hall
    refine ⟨hheld, ?_⟩
    rw [hheld, List.length_append, ReportDescriptor.length_stampedAll]

/-- A stamp that fits, one that is cut off behind its opening, and a third one that finds no room even
for that, in a buffer of sixteen bytes with one byte at first. -/
theorem stamping_course_cut_off :
    let small : Template := ⟨[0x05, 0x01, 0x09, 0x06, 0xA1, 0x01], by decide⟩
    let large : Template := ⟨[0x05, 0x01, 0x09, 0x02, 0xA1, 0x01, 0xC0], by decide⟩
    let stamps := [(small, 1), (large, 2), (small, 3)]
    ([0xAA] : List UInt8).length ≤ 16 ∧
      (stampAll 16 [0xAA] stamps)[1]? =
        some ([0xAA, 0x05, 0x01, 0x09, 0x06, 0xA1, 0x01, 0x85, 0x01, 0x05, 0x01, 0x09, 0x02, 0xA1,
          0x01], .error .descriptorOverflow) ∧
      (heldAfter 16 [0xAA] stamps).length = 15 ∧
      heldAfter 16 [0xAA] [(small, 1)] <+: heldAfter 16 [0xAA] stamps := by
  intro small large stamps
  have room : ([0xAA] : List UInt8).length ≤ 16 := by decide
  obtain ⟨hstamp, hgrow, -⟩ := stamping_course room stamps
  have hcut := (hstamp [(small, 1)] large 2 [(small, 3)] rfl).1
  exact ⟨room, hcut, by decide, (hgrow [(small, 1)] [(large, 2), (small, 3)] rfl).2⟩

end UsbComposite.Template
