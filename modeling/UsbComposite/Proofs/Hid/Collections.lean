import UsbComposite.Hid.Field

/-!
# Collections of a report descriptor

Items open and close **collections**. One at the top level is known by its kind, by the usage named in
front of it under the usage page in force, and by the items inside it, those of nested collections
included.

Fields and collections are both read from front to back, with a table of globals and the usages named
so far. What is read behind a list of items depends on the list through these two alone:

* `declared_append`: the fields behind a list of items;
* `depthAfter?_append`: the depth behind it;
* `read_append`: balanced items in a collection go into it whole.
-/

namespace UsbComposite

/-! ### What a list of items leaves behind -/

/-- The usages named since the last main item, behind an item. -/
def Item.pending (usages : List Nat) (item : Item) : List Nat :=
  match item.tag? with
  | some .input | some .output | some .feature | some .collection | some .endCollection => []
  | some .usage => usages ++ [item.unsigned]
  | _ => usages

/-- The globals behind a list of items. -/
def Globals.afterAll (globals : Globals) (items : List Item) : Globals :=
  items.foldl Globals.after globals

/-- The usages named since the last main item, behind a list of items. -/
def Item.pendingAll (usages : List Nat) (items : List Item) : List Nat :=
  items.foldl pending usages

/-- The report number that an item gives to the fields behind it. -/
def Item.reportId? (item : Item) : Option UInt8 :=
  if item.tag? = some .reportId then some (UInt8.ofNat item.unsigned) else none

theorem Globals.reportId_after {globals : Globals} {item : Item} (h : item.reportId? = none) :
    (globals.after item).reportId = globals.reportId := by
  cases htag : item.tag? with
  | none => simp only [after, htag]
  | some tag =>
    cases tag with
    | reportId =>
      rw [Item.reportId?, if_pos htag] at h
      cases h
    | _ => simp only [after, htag]

namespace Field

/-- One item declares at most one field, and leaves globals and usages to the next. -/
theorem declared_cons (globals : Globals) (usages : List Nat) (item : Item) (rest : List Item) :
    declared globals usages (item :: rest) =
      (item.direction?.map fun direction => ⟨direction, globals, usages⟩).toList ++
        declared (globals.after item) (item.pending usages) rest := by
  rcases htag : item.tag? with _ | tag
  · simp [declared, Item.direction?, Globals.after, Item.pending, htag]
  · cases tag <;> simp [declared, Item.direction?, Globals.after, Item.pending, htag]

/-- **Fields are declared list by list**, under the globals and usages that the first list leaves. -/
theorem declared_append (globals : Globals) (usages : List Nat) (first second : List Item) :
    declared globals usages (first ++ second) = declared globals usages first ++
      declared (globals.afterAll first) (Item.pendingAll usages first) second := by
  induction first generalizing globals usages with
  | nil => rfl
  | cons item first ih =>
    rw [List.cons_append, declared_cons, declared_cons, ih, List.append_assoc]
    rfl

/-- Items that give no report number declare all their fields under the number in force. -/
theorem reportId_of_mem_declared {globals : Globals} {usages : List Nat} {items : List Item}
    (hitems : ∀ item ∈ items, item.reportId? = none) {field : Field}
    (hfield : field ∈ declared globals usages items) :
    field.globals.reportId = globals.reportId := by
  induction items generalizing globals usages with
  | nil => cases hfield
  | cons item rest ih =>
    obtain ⟨hitem, hrest⟩ := List.forall_mem_cons.mp hitems
    rw [declared_cons, List.mem_append] at hfield
    rcases hfield with hfield | hfield
    · obtain ⟨direction, -, rfl⟩ := Option.map_eq_some_iff.mp (Option.mem_toList.mp hfield)
      rfl
    · rw [ih hrest hfield, Globals.reportId_after hitem]

theorem inputs_append (number : UInt8) (first second : List Field) :
    inputs number (first ++ second) = inputs number first ++ inputs number second :=
  List.filter_append _ _

end Field

/-! ### Depth -/

/-- How many collections are open behind one item, none if it closes one that is not open. -/
def Item.depthStep? (depth : Nat) (item : Item) : Option Nat :=
  match item.tag?, depth with
  | some .collection, depth => some (depth + 1)
  | some .endCollection, 0 => none
  | some .endCollection, below + 1 => some below
  | _, depth => some depth

theorem Item.depthAfter?_cons (depth : Nat) (item : Item) (rest : List Item) :
    depthAfter? depth (item :: rest) =
      (item.depthStep? depth).bind fun depth' => depthAfter? depth' rest := by
  rcases htag : item.tag? with _ | tag
  · simp [depthAfter?, depthStep?, htag]
  · cases tag <;> cases depth <;> simp [depthAfter?, depthStep?, htag]

theorem Item.depthAfter?_append (depth : Nat) (first second : List Item) :
    depthAfter? depth (first ++ second) =
      (depthAfter? depth first).bind fun depth' => depthAfter? depth' second := by
  induction first generalizing depth with
  | nil => rfl
  | cons item first ih =>
    rw [List.cons_append, depthAfter?_cons, depthAfter?_cons]
    cases item.depthStep? depth with
    | none => rfl
    | some depth' => exact ih depth'

theorem Item.depthStep?_add {item : Item} {depth next : Nat}
    (h : item.depthStep? depth = some next) (more : Nat) :
    item.depthStep? (depth + more) = some (next + more) := by
  cases htag : item.tag? with
  | none =>
    simp only [depthStep?, htag, Option.some.injEq] at h ⊢
    omega
  | some tag =>
    cases tag with
    | endCollection =>
      cases depth with
      | zero => simp [depthStep?, htag] at h
      | succ below =>
        simp only [depthStep?, htag, Option.some.injEq] at h
        rw [Nat.succ_add]
        simp only [depthStep?, htag, h]
    | _ =>
      simp only [depthStep?, htag, Option.some.injEq] at h ⊢
      omega

/-- Items do alike under collections that were opened in front of them. -/
theorem Item.depthAfter?_add {depth depth' : Nat} {items : List Item}
    (h : depthAfter? depth items = some depth') (more : Nat) :
    depthAfter? (depth + more) items = some (depth' + more) := by
  induction items generalizing depth with
  | nil =>
    cases h
    rfl
  | cons item items ih =>
    rw [depthAfter?_cons] at h ⊢
    obtain ⟨next, hstep, hnext⟩ := Option.bind_eq_some_iff.mp h
    rw [depthStep?_add hstep, Option.bind_some]
    exact ih hnext

/-! ### Collections -/

/-- A collection at the top level. -/
structure Collection where
  /-- The kind by its number; an application is 1. -/
  kind : Nat
  usagePage : Nat
  usages : List Nat
  inside : List Item
deriving DecidableEq

namespace Collection

/-- The kind of a collection that stands for a device of its own. -/
def application : Nat := 1

/-- The collections that items close at the top level. While one is open, it is `current`, with the
number of collections open inside it. -/
def read (globals : Globals) (usages : List Nat) (current : Option (Collection × Nat)) :
    List Item → List Collection
  | [] => []
  | item :: rest =>
    match current with
    | none =>
      let opened : Option (Collection × Nat) :=
        if item.tag? = some .collection then
          some (⟨item.unsigned, globals.usagePage, usages, []⟩, 0)
        else none
      read (globals.after item) (item.pending usages) opened rest
    | some (collection, depth) =>
      match item.depthStep? depth with
      | none => collection :: read (globals.after item) (item.pending usages) none rest
      | some depth' =>
        read (globals.after item) (item.pending usages)
          (some ({ collection with inside := collection.inside ++ [item] }, depth')) rest

/-- The collections at the top level of a report descriptor. -/
def ofItems (items : List Item) : List Collection :=
  read {} [] none items

/-- **Items that close no more than they open go into the current collection whole.** -/
theorem read_append {depth depth' : Nat} {items : List Item}
    (h : Item.depthAfter? depth items = some depth') (globals : Globals) (usages : List Nat)
    (collection : Collection) (rest : List Item) :
    read globals usages (some (collection, depth)) (items ++ rest) =
      read (globals.afterAll items) (Item.pendingAll usages items)
        (some ({ collection with inside := collection.inside ++ items }, depth')) rest := by
  induction items generalizing globals usages collection depth with
  | nil =>
    cases h
    rw [List.append_nil]
    rfl
  | cons item items ih =>
    rw [Item.depthAfter?_cons] at h
    cases hstep : item.depthStep? depth with
    | none =>
      rw [hstep] at h
      cases h
    | some next =>
      rw [hstep, Option.bind_some] at h
      rw [List.cons_append, read]
      simp only [hstep]
      rw [ih h, List.append_assoc]
      rfl

end Collection

end UsbComposite
