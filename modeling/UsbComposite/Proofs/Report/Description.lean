import UsbComposite.Proofs.Hid.Collections
import UsbComposite.Proofs.Report.Frames

/-!
# The shared report descriptor describes the frames

The templates of the shared roles are tables of items, and the payloads are written field by field;
nothing but the size of a report ties the two together. Here a template is seen as an **application**:
an opening, balanced items that give no report number, and an end. Stamping puts the number behind
the opening, so the descriptor of a role set is a list of numbered applications, and everything that
is read from it is read application by application.

* `stampedAll_entries`: the descriptor is the numbered applications of the table's entries;
* `describes_entries`: each of them is one collection, with one number, in front of its items;
* `exists_inputs_eq`: and the input fields under its number are those of its role;
* `shared_describes_frames`: so the descriptor describes exactly the frames.
-/

namespace UsbComposite

/-! ### Applications -/

/-- A report descriptor that is one application collection, and gives no report number. -/
structure Application where
  page : UInt8
  usage : UInt8
  inside : List Item
  /-- The bytes of an input report. -/
  size : Nat
  balanced : Item.depthAfter? 0 inside = some 0
  unnumbered : ∀ item ∈ inside, item.reportId? = none
  /-- Whatever globals are in force in front, the input fields take the bits of the report. -/
  width : ∀ globals, Field.totalWidth
    ((Field.declared globals [] inside).filter fun field => field.direction == .input) = 8 * size

namespace Application

/-- The items that open the collection. -/
def opening (application : Application) : List Item :=
  [.short .usagePage application.page, .short .usage application.usage, .short .collection 0x01]

/-- The items of the report descriptor. -/
def items (application : Application) : List Item :=
  application.opening ++ (application.inside ++ [.bare .endCollection])

/-- The items with a report number behind the opening. -/
def numbered (application : Application) (number : UInt8) : List Item :=
  application.opening ++ Template.idItem number ::
    (application.inside ++ [.bare .endCollection])

/-- The collection that the numbered items are. -/
def collection (application : Application) (number : UInt8) : Collection where
  kind := Collection.application
  usagePage := application.page.toNat
  usages := [application.usage.toNat]
  inside := Template.idItem number :: application.inside

/-- The globals under which the fields inside are read. -/
def globalsInside (application : Application) (number : UInt8) (globals : Globals) : Globals :=
  { globals with usagePage := application.page.toNat, reportId := some number }

/-- The input fields of a numbered application, read under given globals. -/
def inputs (application : Application) (number : UInt8) (globals : Globals) : List Field :=
  (Field.declared (application.globalsInside number globals) [] application.inside).filter
    fun field => field.direction == .input

/-- **Stamping numbers an application**: the opening has as many bytes as stamping leaves in front. -/
theorem stamped_eq {application : Application} {template : Template}
    (hbody : template.body = Item.encodeAll application.items) (number : UInt8) :
    template.stamped number = Item.encodeAll (application.numbered number) := by
  have hlength : (Item.encodeAll application.opening).length = Template.openingLength := rfl
  have hsplit : template.body = Item.encodeAll application.opening ++
      Item.encodeAll (application.inside ++ [.bare .endCollection]) := by
    rw [hbody, items]
    exact List.flatMap_append
  rw [Template.stamped, Template.opening, Template.remainder, hsplit, List.take_left' hlength,
    List.drop_left' hlength, numbered, List.append_assoc]
  simp only [Item.encodeAll, List.flatMap_append, List.flatMap_cons]

/-- A collection in which items end leaves no usages pending. -/
theorem pendingAll_numbered (application : Application) (number : UInt8) (usages : List Nat) :
    Item.pendingAll usages (application.numbered number) = [] := by
  rw [numbered, Item.pendingAll, List.foldl_append, List.foldl_cons, List.foldl_append,
    List.foldl_cons]
  simp only [Item.pending, Item.tag?_bare, List.foldl_nil]

theorem depthAfter?_numbered (application : Application) (number : UInt8) :
    Item.depthAfter? 0 (application.numbered number) = some 0 := by
  have hinside := Item.depthAfter?_add application.balanced 1
  simp only [numbered, opening, Template.idItem, List.cons_append, List.nil_append,
    Item.depthAfter?_cons, Item.depthAfter?_append, Item.depthStep?, Item.tag?_short,
    Option.bind_some, hinside]
  simp only [Item.tag?_bare, Nat.zero_add, Option.bind_some, Item.depthAfter?]

/-- What the fields inside inherit from the opening and the number. -/
theorem afterAll_opening (application : Application) (number : UInt8) (globals : Globals) :
    globals.afterAll (application.opening ++ [Template.idItem number]) =
      application.globalsInside number globals := by
  simp only [Globals.afterAll, opening, Template.idItem, List.cons_append, List.nil_append,
    List.foldl_cons, List.foldl_nil, Globals.after, Item.tag?_short, Item.unsigned_short,
    UInt8.ofNat_toNat, globalsInside]

/-- **A numbered application is one collection**, whatever is behind it. -/
theorem read_numbered (application : Application) (number : UInt8) (globals : Globals)
    (rest : List Item) :
    Collection.read globals [] none (application.numbered number ++ rest) =
      application.collection number ::
        Collection.read (globals.afterAll (application.numbered number)) [] none rest := by
  have hstart : Collection.read globals [] none (application.numbered number ++ rest) =
      Collection.read (application.globalsInside number globals) []
        (some (⟨Collection.application, application.page.toNat, [application.usage.toNat],
          [Template.idItem number]⟩, 0))
        (application.inside ++ .bare .endCollection :: rest) := by
    simp only [numbered, opening, Template.idItem, List.cons_append, List.nil_append,
      List.append_assoc, Collection.read, Item.depthStep?, Item.tag?_short, Item.unsigned_short,
      Item.pending, Globals.after, Option.some.injEq, reduceCtorEq, if_false, if_true,
      UInt8.ofNat_toNat, globalsInside]
    rfl
  have hend : Globals.after
      ((application.globalsInside number globals).afterAll application.inside)
        (.bare .endCollection) = globals.afterAll (application.numbered number) := by
    rw [← afterAll_opening]
    simp only [Globals.afterAll, numbered, List.foldl_append, List.foldl_cons, List.foldl_nil]
  rw [hstart, Collection.read_append application.balanced, ← hend]
  simp only [Collection.read, Item.depthStep?, Item.tag?_bare, Item.pending]
  rfl

/-- The fields inside are read under the page of the application and its number. -/
theorem declared_numbered (application : Application) (number : UInt8) (globals : Globals) :
    Field.declared globals [] (application.numbered number) =
      Field.declared (application.globalsInside number globals) [] application.inside := by
  have hend : ∀ globals usages, Field.declared globals usages [.bare .endCollection] = [] := by
    intro globals usages
    simp only [Item.direction?, Item.tag?_bare, Field.declared]
  simp only [numbered, opening, Template.idItem, List.cons_append, List.nil_append,
    Field.declared_cons, Item.direction?, Item.tag?_short, Option.map_none, Option.toList_none,
    Item.pending, Field.declared_append, hend, List.append_nil, Globals.after, Item.unsigned_short,
    UInt8.ofNat_toNat]
  rfl

/-! ### Several applications in one descriptor -/

/-- The items of applications, each with its number, one after the other. -/
def numberedAll (applications : List (Application × UInt8)) : List Item :=
  applications.flatMap fun entry => entry.1.numbered entry.2

theorem numberedAll_cons (application : Application) (number : UInt8)
    (rest : List (Application × UInt8)) :
    numberedAll ((application, number) :: rest) =
      application.numbered number ++ numberedAll rest :=
  List.flatMap_cons

theorem balanced_numberedAll (applications : List (Application × UInt8)) :
    Item.balanced (numberedAll applications) = true := by
  have hdepth : Item.depthAfter? 0 (numberedAll applications) = some 0 := by
    induction applications with
    | nil => rfl
    | cons entry rest ih =>
      rw [numberedAll_cons, Item.depthAfter?_append, depthAfter?_numbered]
      exact ih
  rw [Item.balanced, hdepth]
  rfl

theorem read_numberedAll (applications : List (Application × UInt8)) (globals : Globals) :
    Collection.read globals [] none (numberedAll applications) =
      applications.map fun entry => entry.1.collection entry.2 := by
  induction applications generalizing globals with
  | nil => rfl
  | cons entry rest ih =>
    rw [numberedAll_cons, read_numbered, ih]
    rfl

/-- The fields of the first application come first, and those of the others do not see them. -/
theorem declared_numberedAll_cons (application : Application) (number : UInt8)
    (rest : List (Application × UInt8)) (globals : Globals) :
    Field.declared globals [] (numberedAll ((application, number) :: rest)) =
      Field.declared (application.globalsInside number globals) [] application.inside ++
        Field.declared (globals.afterAll (application.numbered number)) [] (numberedAll rest) := by
  rw [numberedAll_cons, Field.declared_append, declared_numbered, pendingAll_numbered]

/-- **No field without a number**: each is under the number of some application. -/
theorem reportId_of_mem {applications : List (Application × UInt8)} {globals : Globals}
    {field : Field} (hfield : field ∈ Field.declared globals [] (numberedAll applications)) :
    ∃ entry ∈ applications, field.globals.reportId = some entry.2 := by
  induction applications generalizing globals with
  | nil => cases hfield
  | cons entry rest ih =>
    rw [declared_numberedAll_cons, List.mem_append] at hfield
    rcases hfield with hfirst | hrest
    · exact ⟨entry, List.mem_cons_self,
        Field.reportId_of_mem_declared entry.1.unnumbered hfirst⟩
    · obtain ⟨owner, howner, hnumber⟩ := ih hrest
      exact ⟨owner, List.mem_cons_of_mem _ howner, hnumber⟩

/-- Under its own number an application has all its input fields. -/
theorem inputs_inside (application : Application) (number : UInt8) (globals : Globals) :
    Field.inputs number
      (Field.declared (application.globalsInside number globals) [] application.inside) =
        application.inputs number globals := by
  rw [Field.inputs, inputs]
  apply List.filter_congr
  intro field hfield
  have hnumber := Field.reportId_of_mem_declared application.unnumbered hfield
  rw [hnumber, globalsInside, beq_self_eq_true, Bool.and_true]

theorem inputs_inside_of_ne (application : Application) {number other : UInt8}
    (hne : number ≠ other) (globals : Globals) :
    Field.inputs other
      (Field.declared (application.globalsInside number globals) [] application.inside) = [] := by
  rw [Field.inputs, List.filter_eq_nil_iff]
  intro field hfield hinput
  have hnumber := Field.reportId_of_mem_declared application.unnumbered hfield
  rw [Bool.and_eq_true, hnumber, globalsInside, beq_iff_eq, beq_iff_eq] at hinput
  exact hne (Option.some.inj hinput.2)

/-- A number that no application has is over no field. -/
theorem inputs_of_not_mem {applications : List (Application × UInt8)} {number : UInt8}
    (hnumber : number ∉ applications.map Prod.snd) (globals : Globals) :
    Field.inputs number (Field.declared globals [] (numberedAll applications)) = [] := by
  induction applications generalizing globals with
  | nil => rfl
  | cons entry rest ih =>
    rw [List.map_cons, List.mem_cons, not_or] at hnumber
    obtain ⟨hne, hrest⟩ := hnumber
    rw [declared_numberedAll_cons, Field.inputs_append,
      inputs_inside_of_ne entry.1 (Ne.symm hne), ih hrest, List.append_nil]

/-- **The input fields under a number are those of its application**, if no number repeats. What
they inherit from the applications in front is open. -/
theorem exists_inputs_eq {applications : List (Application × UInt8)}
    (hnodup : (applications.map Prod.snd).Nodup) {application : Application} {number : UInt8}
    (hmem : (application, number) ∈ applications) (globals : Globals) :
    ∃ inherited, Field.inputs number (Field.declared globals [] (numberedAll applications)) =
      application.inputs number inherited := by
  induction applications generalizing globals with
  | nil => cases hmem
  | cons entry rest ih =>
    obtain ⟨hfresh, hrest⟩ := List.nodup_cons.mp hnodup
    rw [declared_numberedAll_cons, Field.inputs_append]
    rcases List.mem_cons.mp hmem with rfl | hlater
    · refine ⟨globals, ?_⟩
      rw [inputs_inside, inputs_of_not_mem hfresh, List.append_nil]
    · have hne : entry.2 ≠ number := by
        intro hsame
        rw [hsame] at hfresh
        exact hfresh (List.mem_map_of_mem hlater)
      rw [inputs_inside_of_ne entry.1 hne, List.nil_append]
      exact ih hrest hlater _

end Application

/-! ### The applications of a role set -/

namespace Role

/-- The template of a shared role, seen as an application. -/
def application? : Role → Option Application
  | keyboard => some ⟨0x01, 0x06, (KeyboardReport.items.drop 3).dropLast, KeyboardReport.size,
      by decide, by decide, fun _ => rfl⟩
  | mouse => some ⟨0x01, 0x02, (MouseReport.items.drop 3).dropLast, MouseReport.size,
      by decide, by decide, fun _ => rfl⟩
  | joystick => some ⟨0x01, 0x05, (GamepadReport.items.drop 3).dropLast, GamepadReport.size,
      by decide, by decide, fun _ => rfl⟩
  | consumerControl => some ⟨0x0C, 0x01, (ConsumerReport.items.drop 3).dropLast,
      ConsumerReport.size, by decide, by decide, fun _ => rfl⟩
  | serial | massStorage | rawHid => none

/-- The usage page and the usage by which a host knows a shared role: keyboard, mouse and gamepad of
the generic desktop page, consumer control of the consumer page. -/
def usage? : Role → Option (Nat × Nat)
  | keyboard => some (0x01, 0x06)
  | mouse => some (0x01, 0x02)
  | joystick => some (0x01, 0x05)
  | consumerControl => some (0x0C, 0x01)
  | serial | massStorage | rawHid => none

theorem exists_application? {role : Role} (shared : role ∈ Role.shared) :
    ∃ application, role.application? = some application ∧
      role.usage? = some (application.page.toNat, application.usage.toNat) := by
  cases role with
  | serial => exact absurd shared (by decide)
  | massStorage => exact absurd shared (by decide)
  | rawHid => exact absurd shared (by decide)
  | _ => exact ⟨_, rfl, rfl⟩

/-- The bytes of a template are the items of the application. -/
theorem template?_of_application? {role : Role} {application : Application}
    (h : role.application? = some application) :
    ∃ template, role.template? = some template ∧
      template.body = Item.encodeAll application.items := by
  cases role with
  | serial => cases h
  | massStorage => cases h
  | rawHid => cases h
  | _ =>
    cases h
    exact ⟨_, rfl, rfl⟩

end Role

/-- An application's size is that of the reports of its role. -/
theorem InputReport.size_of_application? {report : InputReport} {application : Application}
    (h : report.role.application? = some application) : application.size = report.size := by
  cases report <;> (cases h; rfl)

/-- What a host sees of an entry in the table of numbers: an application collection of the role's
usage, with the number in front of all other items, and no second one. -/
structure Collection.Describes (collection : Collection) (entry : Role × UInt8) : Prop where
  kind : collection.kind = Collection.application
  usage : ∃ usage, entry.1.usage? = some (collection.usagePage, usage) ∧
    collection.usages = [usage]
  first : collection.inside.head? = some (Template.idItem entry.2)
  only : collection.inside.filterMap Item.reportId? = [entry.2]

namespace ReportDescriptor

/-- The applications of a table's entries. -/
def applications (entries : List (Role × UInt8)) : List (Application × UInt8) :=
  entries.filterMap fun entry => entry.1.application?.map fun application => (application, entry.2)

/-- The items of the shared report descriptor. -/
def sharedItems (roles : RoleSet) : List Item :=
  Application.numberedAll (applications (ReportNumbers.ofRoles roles).entries)

/-- The templates of a table's entries, each with its number. -/
theorem numbered_eq (roles : RoleSet) :
    numbered roles = (ReportNumbers.ofRoles roles).entries.filterMap fun entry =>
      entry.1.template?.map fun template => (template, entry.2) := by
  rw [numbered, ReportNumbers.entries, List.filterMap_filterMap]
  apply List.filterMap_congr
  intro role _
  cases (ReportNumbers.ofRoles roles).get? role with
  | none => rfl
  | some number =>
    rw [Option.map_some, Option.bind_some]
    cases role.template? <;> rfl

theorem applications_cons {role : Role} {application : Application}
    (happlication : role.application? = some application) (number : UInt8)
    (rest : List (Role × UInt8)) :
    applications ((role, number) :: rest) = (application, number) :: applications rest := by
  rw [applications, List.filterMap_cons, happlication]
  rfl

theorem mem_applications {entries : List (Role × UInt8)} {role : Role} {number : UInt8}
    {application : Application} (hentry : (role, number) ∈ entries)
    (happlication : role.application? = some application) :
    (application, number) ∈ applications entries := by
  refine List.mem_filterMap.mpr ⟨(role, number), hentry, ?_⟩
  rw [happlication]
  rfl

/-- **Stamped templates are numbered applications**, whatever the entries. -/
theorem stampedAll_entries {entries : List (Role × UInt8)}
    (shared : ∀ entry ∈ entries, entry.1 ∈ Role.shared) :
    stampedAll (entries.filterMap fun entry =>
        entry.1.template?.map fun template => (template, entry.2)) =
      Item.encodeAll (Application.numberedAll (applications entries)) := by
  induction entries with
  | nil => rfl
  | cons entry rest ih =>
    obtain ⟨role, number⟩ := entry
    obtain ⟨hrole, hrest⟩ := List.forall_mem_cons.mp shared
    obtain ⟨application, happlication, -⟩ := Role.exists_application? hrole
    obtain ⟨template, htemplate, hbody⟩ := Role.template?_of_application? happlication
    have hstamped := Application.stamped_eq hbody number
    rw [applications_cons happlication, Application.numberedAll_cons, Item.encodeAll,
      List.flatMap_append, ← Item.encodeAll, ← hstamped, ← Item.encodeAll, ← ih hrest,
      List.filterMap_cons, htemplate]
    rfl

theorem map_snd_applications {entries : List (Role × UInt8)}
    (shared : ∀ entry ∈ entries, entry.1 ∈ Role.shared) :
    (applications entries).map Prod.snd = entries.map Prod.snd := by
  induction entries with
  | nil => rfl
  | cons entry rest ih =>
    obtain ⟨role, number⟩ := entry
    obtain ⟨hrole, hrest⟩ := List.forall_mem_cons.mp shared
    obtain ⟨application, happlication, -⟩ := Role.exists_application? hrole
    rw [applications_cons happlication, List.map_cons, List.map_cons, ih hrest]

theorem describes_application {role : Role} {application : Application} (number : UInt8)
    (husage : role.usage? = some (application.page.toNat, application.usage.toNat)) :
    (application.collection number).Describes (role, number) := by
  have hinside : application.inside.filterMap Item.reportId? = [] :=
    List.filterMap_eq_nil_iff.mpr application.unnumbered
  have hid : (Template.idItem number).reportId? = some number := by
    rw [Item.reportId?, Template.idItem, Item.tag?_short, if_pos rfl, Item.unsigned_short,
      UInt8.ofNat_toNat]
  refine ⟨rfl, ⟨application.usage.toNat, husage, rfl⟩, rfl, ?_⟩
  rw [Application.collection, List.filterMap_cons, hid, hinside]

/-- **One collection for each entry**, in order. -/
theorem describes_entries {entries : List (Role × UInt8)}
    (shared : ∀ entry ∈ entries, entry.1 ∈ Role.shared) :
    List.Forall₂ Collection.Describes
      (Collection.ofItems (Application.numberedAll (applications entries))) entries := by
  rw [Collection.ofItems, Application.read_numberedAll]
  induction entries with
  | nil => exact .nil
  | cons entry rest ih =>
    obtain ⟨role, number⟩ := entry
    obtain ⟨hrole, hrest⟩ := List.forall_mem_cons.mp shared
    obtain ⟨application, happlication, husage⟩ := Role.exists_application? hrole
    rw [applications_cons happlication]
    exact .cons (describes_application number husage) (ih hrest)

/-! ### The descriptor of a role set -/

theorem shared_of_mem_entries {numbers : ReportNumbers} :
    ∀ entry ∈ numbers.entries, entry.1 ∈ Role.shared := by
  intro entry hentry
  exact ReportNumbers.mem_shared_of_get? (ReportNumbers.mem_entries_iff.mp hentry)

/-- The shared report descriptor, item by item. -/
theorem shared_eq_encodeAll {roles : RoleSet} (h : roles.hasShared = true) :
    shared roles = .ok (some (Item.encodeAll (sharedItems roles))) := by
  rw [shared_eq, if_pos h, numbered_eq, stampedAll_entries shared_of_mem_entries]
  rfl

/-- Every field is under the number of an enabled role. -/
theorem exists_role_of_mem_fields {roles : RoleSet} {field : Field}
    (hfield : field ∈ Field.ofItems (sharedItems roles)) :
    ∃ role number, (ReportNumbers.ofRoles roles).get? role = some number ∧
      field.globals.reportId = some number := by
  obtain ⟨owner, howner, hnumber⟩ := Application.reportId_of_mem hfield
  obtain ⟨⟨role, number⟩, hentry, happlication⟩ := List.mem_filterMap.mp howner
  obtain ⟨application, -, rfl⟩ := Option.map_eq_some_iff.mp happlication
  exact ⟨role, number, ReportNumbers.mem_entries_iff.mp hentry, hnumber⟩

/-- Under the number of a role the shared report descriptor has the input fields of the role. -/
theorem exists_inputs_of_get? {roles : RoleSet} {role : Role} {number : UInt8}
    {application : Application} (hnumber : (ReportNumbers.ofRoles roles).get? role = some number)
    (happlication : role.application? = some application) :
    ∃ inherited, Field.inputs number (Field.ofItems (sharedItems roles)) =
      application.inputs number inherited := by
  have hmem := mem_applications (ReportNumbers.mem_entries_iff.mpr hnumber) happlication
  have hnodup : ((applications (ReportNumbers.ofRoles roles).entries).map Prod.snd).Nodup := by
    rw [map_snd_applications shared_of_mem_entries]
    exact ReportNumbers.nodup_given_ofRoles roles
  exact Application.exists_inputs_eq hnodup hmem {}

/-- The input fields under the first byte of a frame take the bits of the bytes behind it. -/
theorem totalWidth_of_frameInto {roles : RoleSet} {report : InputReport}
    {buffer after : List UInt8} {n : Nat}
    (hframe : report.frameInto (.ofRoles roles) buffer = (some n, after)) :
    ∃ number, after.head? = some number ∧
      Field.totalWidth (Field.inputs number (Field.ofItems (sharedItems roles))) =
        8 * (n - 1) := by
  obtain ⟨number, hnumber, rfl, -, rfl⟩ := InputReport.frameInto_eq_some_iff.mp hframe
  obtain ⟨application, happlication, -⟩ :=
    Role.exists_application? (ReportNumbers.mem_shared_of_get? hnumber)
  obtain ⟨inherited, hinputs⟩ := exists_inputs_of_get? hnumber happlication
  refine ⟨number, rfl, ?_⟩
  rw [hinputs, Application.inputs, application.width, InputReport.size_of_application? happlication,
    Nat.add_sub_cancel]

/-- **The shared report descriptor describes exactly the frames that are sent.** If some shared role
is enabled, the descriptor is there and is read to its end. Its collections are closed and are one
application collection for each enabled shared role, in the fixed order, each with one report number
in front of its items; these numbers are 1, 2, … and those of the table. No field comes in front of a
number. And whenever a frame is written, whatever the report and the buffer, the input fields under
its first byte take exactly the bits of the bytes behind it. -/
theorem shared_describes_frames (roles : RoleSet) (h : roles.hasShared = true) :
    ∃ bytes items, shared roles = .ok (some bytes) ∧ Item.parse? bytes = some items ∧
      Item.balanced items = true ∧
      List.Forall₂ Collection.Describes (Collection.ofItems items)
        (ReportNumbers.ofRoles roles).entries ∧
      (ReportNumbers.ofRoles roles).entries.map Prod.fst = Role.shared.filter roles.contains ∧
      (ReportNumbers.ofRoles roles).entries.map Prod.snd =
        (List.range' 1 roles.sharedCount).map UInt8.ofNat ∧
      (∀ field ∈ Field.ofItems items, ∃ role number,
        (ReportNumbers.ofRoles roles).get? role = some number ∧
          field.globals.reportId = some number) ∧
      ∀ (report : InputReport) (buffer : List UInt8) (n : Nat) (after : List UInt8),
        report.frameInto (.ofRoles roles) buffer = (some n, after) →
          ∃ number, after.head? = some number ∧
            Field.totalWidth (Field.inputs number (Field.ofItems items)) = 8 * (n - 1) := by
  exact ⟨_, sharedItems roles, shared_eq_encodeAll h, Item.parse?_encodeAll _,
    Application.balanced_numberedAll _, describes_entries shared_of_mem_entries,
    ReportNumbers.map_fst_entries_ofRoles roles, ReportNumbers.given_ofRoles roles,
    fun _ => exists_role_of_mem_fields, fun _ _ _ _ => totalWidth_of_frameInto⟩

/-- Beside a mouse, the volume key travels under the number 2, which is over sixteen bits. -/
theorem shared_describes_frames_volume :
    let roles := RoleSet.ofList [.consumerControl, .mouse]
    let report : InputReport := .consumer (ConsumerReport.ofUsage .volumeUp)
    roles.hasShared = true ∧
      report.frameInto (.ofRoles roles) [0xFF, 0xFF, 0xFF, 0xFF] = (some 3, [2, 0xE9, 0, 0xFF]) ∧
      ∃ bytes items, shared roles = .ok (some bytes) ∧ Item.parse? bytes = some items ∧
        (Collection.ofItems items).length = 2 ∧
        Field.totalWidth (Field.inputs 2 (Field.ofItems items)) = 16 := by
  intro roles report
  have hshared : roles.hasShared = true := by decide
  have hframe : report.frameInto (.ofRoles roles) [0xFF, 0xFF, 0xFF, 0xFF] =
      (some 3, [2, 0xE9, 0, 0xFF]) := by decide
  obtain ⟨bytes, items, hbytes, hitems, -, hdescribes, -, -, -, hwidth⟩ :=
    shared_describes_frames roles hshared
  obtain ⟨number, hnumber, hbits⟩ := hwidth report _ 3 _ hframe
  have hentries : (ReportNumbers.ofRoles roles).entries.length = 2 := by decide
  cases hnumber
  exact ⟨hshared, hframe, bytes, items, hbytes, hitems, hdescribes.length_eq.trans hentries, hbits⟩

end ReportDescriptor

end UsbComposite
