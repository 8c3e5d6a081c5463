import Mathlib.Data.List.Forall2
import UsbComposite.Proofs.Hid.Collections
import UsbComposite.Proofs.Report.Stamping

/-!
# Stamping keeps items whole

Items have different lengths, and stamping puts two bytes in at a fixed place. Where a template's
opening ends with an item, and its remainder is made of items, the number comes between two of them as
an item of its own, and all that was read before is read as before. A number opens and closes nothing,
so a stamped template is balanced if and only if its body is.

* `Item.parse?_append`: reading respects concatenation;
* `Item.balanced_insert_reportId`: a number between items leaves their balance as it is;
* `Template.parse?_stamped`: a stamped template is read as its items, with the number behind the
  opening;
* `Template.parse?_stampedAll`: and templates stamped one after the other are read one after the other;
* `Item.balanced_flatten`: what is balanced part by part is balanced.
-/

namespace UsbComposite

namespace Item

/-- **Reading respects concatenation.** -/
theorem parse?_append {bytes rest : List UInt8} {items later : List Item}
    (h : parse? bytes = some items) (h' : parse? rest = some later) :
    parse? (bytes ++ rest) = some (items ++ later) := by
  rw [eq_encodeAll_of_parse? h, parse?_encodeAll_append, h', Option.map_some]

theorem balanced_iff {items : List Item} : balanced items = true ↔ depthAfter? 0 items = some 0 :=
  beq_iff_eq

theorem balanced_append {items later : List Item} (h : balanced items = true)
    (h' : balanced later = true) : balanced (items ++ later) = true := by
  rw [balanced_iff] at h h' ⊢
  rw [depthAfter?_append, h, Option.bind_some, h']

/-- What is balanced part by part is balanced. -/
theorem balanced_flatten {parts : List (List Item)} (h : ∀ items ∈ parts, balanced items = true) :
    balanced parts.flatten = true := by
  induction parts with
  | nil => rfl
  | cons items rest ih =>
    obtain ⟨hitems, hrest⟩ := List.forall_mem_cons.mp h
    exact balanced_append hitems (ih hrest)

/-- **A number between items leaves the depth as it is.** -/
theorem depthAfter?_insert_reportId (depth : Nat) (opening remainder : List Item) (id : UInt8) :
    depthAfter? depth (opening ++ [short .reportId id] ++ remainder) =
      depthAfter? depth (opening ++ remainder) := by
  rw [List.append_assoc, List.singleton_append, depthAfter?_append, depthAfter?_append]
  congr 1
  funext between
  rw [depthAfter?_cons]
  simp only [depthStep?, tag?_short, Option.bind_some]

/-- So does it leave their balance. -/
theorem balanced_insert_reportId (opening remainder : List Item) (id : UInt8) :
    balanced (opening ++ [short .reportId id] ++ remainder) = balanced (opening ++ remainder) := by
  rw [balanced, depthAfter?_insert_reportId, balanced]

end Item

namespace Template

/-- The items of a stamped template, none if the opening or the remainder is not made of items. -/
def stampedItems? (template : Template) (id : UInt8) : Option (List Item) :=
  match Item.parse? template.opening, Item.parse? template.remainder with
  | some opening, some remainder => some (opening ++ [idItem id] ++ remainder)
  | _, _ => none

theorem stampedItems?_eq_some_iff {template : Template} {id : UInt8} {items : List Item} :
    template.stampedItems? id = some items ↔
      ∃ opening remainder, Item.parse? template.opening = some opening ∧
        Item.parse? template.remainder = some remainder ∧
        items = opening ++ [idItem id] ++ remainder := by
  constructor
  · intro h
    unfold stampedItems? at h
    split at h
    · rename_i opening remainder hopening hremainder
      cases h
      exact ⟨opening, remainder, hopening, hremainder, rfl⟩
    · cases h
  · rintro ⟨opening, remainder, hopening, hremainder, rfl⟩
    simp only [stampedItems?, hopening, hremainder]

/-- **A stamped template is read as its items**, with the number behind the opening. -/
theorem parse?_stamped {template : Template} {id : UInt8} {items : List Item}
    (h : template.stampedItems? id = some items) :
    Item.parse? (template.stamped id) = some items := by
  obtain ⟨opening, remainder, hopening, hremainder, rfl⟩ := stampedItems?_eq_some_iff.mp h
  have hid : Item.parse? (idItem id).encode = some [idItem id] := by
    have hall := Item.parse?_encodeAll [idItem id]
    rwa [Item.encodeAll, List.flatMap_singleton] at hall
  exact Item.parse?_append (Item.parse?_append hopening hid) hremainder

/-- Each stamp of a list is read as the items of a list. -/
def ReadAs (stamps : List (Template × UInt8)) (parts : List (List Item)) : Prop :=
  List.Forall₂ (fun stamp items => stamp.1.stampedItems? stamp.2 = some items) stamps parts

/-- The body of a template is read as its opening and its remainder. -/
theorem parse?_body {template : Template} {opening remainder : List Item}
    (hopening : Item.parse? template.opening = some opening)
    (hremainder : Item.parse? template.remainder = some remainder) :
    Item.parse? template.body = some (opening ++ remainder) := by
  rw [← List.take_append_drop openingLength template.body]
  exact Item.parse?_append hopening hremainder

/-- Stamps of which each body is balanced are read as items that are balanced part by part. -/
theorem ReadAs.balanced {stamps : List (Template × UInt8)} {parts : List (List Item)}
    (h : ReadAs stamps parts)
    (bodies : ∀ stamp ∈ stamps, ∀ items, Item.parse? stamp.1.body = some items →
      Item.balanced items = true) :
    ∀ items ∈ parts, Item.balanced items = true := by
  induction h with
  | nil =>
    intro items hitems
    cases hitems
  | @cons stamp items _ _ hfirst _ ih =>
    obtain ⟨hbody, hbodies⟩ := List.forall_mem_cons.mp bodies
    obtain ⟨opening, remainder, hopening, hremainder, rfl⟩ := stampedItems?_eq_some_iff.mp hfirst
    refine List.forall_mem_cons.mpr ⟨?_, ih hbodies⟩
    exact (Item.balanced_insert_reportId opening remainder stamp.2).trans
      (hbody _ (parse?_body hopening hremainder))

/-- **Templates stamped one after the other are read one after the other.** -/
theorem parse?_stampedAll {stamps : List (Template × UInt8)} {parts : List (List Item)}
    (h : ReadAs stamps parts) :
    Item.parse? (ReportDescriptor.stampedAll stamps) = some parts.flatten := by
  induction h with
  | nil => exact Item.parse?_nil
  | cons hfirst _ ih => exact Item.parse?_append (parse?_stamped hfirst) ih

/-- **Stamping keeps items whole.** A template of which the first six bytes are made of items, and the
remainder as well, is stamped into a buffer with room for it. If the buffer was made of items, it is
made of these and the template's, with the number between the opening and the remainder. The stamped
template is balanced exactly if its body is, and what was balanced in front then stays so. Templates
stamped one after the other into an empty buffer are read as their items in order, and are balanced if
each of them is, with or without its number. -/
theorem stamping_keeps_items :
    (∀ (capacity : Nat) (template : Template) (id : UInt8) (written : List UInt8)
      (opening remainder : List Item),
      Item.parse? (template.body.take 6) = some opening →
      Item.parse? (template.body.drop 6) = some remainder →
      written.length + template.stampedLength ≤ capacity →
      (template.stampInto capacity id written).2 = .ok () ∧
        ∀ items, Item.parse? written = some items →
          let added := opening ++ [Item.short .reportId id] ++ remainder
          Item.parse? (template.stampInto capacity id written).1 = some (items ++ added) ∧
            Item.balanced added = Item.balanced (opening ++ remainder) ∧
            (Item.balanced items = true → Item.balanced (opening ++ remainder) = true →
              Item.balanced (items ++ added) = true)) ∧
    (∀ (capacity : Nat) (stamps : List (Template × UInt8)) (parts : List (List Item)),
      ReadAs stamps parts →
      ReportDescriptor.totalLength (stamps.map Prod.fst) ≤ capacity →
      (∀ result ∈ stampAll capacity [] stamps, result.2 = .ok ()) ∧
        Item.parse? (heldAfter capacity [] stamps) = some parts.flatten ∧
        ((∀ items ∈ parts, Item.balanced items = true) →
          Item.balanced parts.flatten = true) ∧
        ((∀ stamp ∈ stamps, ∀ items, Item.parse? stamp.1.body = some items →
            Item.balanced items = true) →
          Item.balanced parts.flatten = true)) := by
  constructor
  · intro capacity template id written opening remainder hopening hremainder hroom
    have hstamped : Item.parse? (template.stamped id) =
        some (opening ++ [Item.short .reportId id] ++ remainder) :=
      parse?_stamped (stampedItems?_eq_some_iff.mpr
        ⟨opening, remainder, hopening, hremainder, rfl⟩)
    have hbalance := Item.balanced_insert_reportId opening remainder id
    rw [stampInto_of_le hroom]
    refine ⟨rfl, fun items hitems => ⟨Item.parse?_append hitems hstamped, hbalance, ?_⟩⟩
    intro hfront hbody
    exact Item.balanced_append hfront (hbalance.trans hbody)
  · intro capacity stamps parts hread hroom
    have hfits : ([] : List UInt8).length +
        ReportDescriptor.totalLength (stamps.map Prod.fst) ≤ capacity := by
      rwa [List.length_nil, Nat.zero_add]
    have hall := forall_ok_of_le hfits
    refine ⟨hall, ?_, Item.balanced_flatten,
      fun hbodies => Item.balanced_flatten (hread.balanced hbodies)⟩
    rw [heldAfter_of_forall_ok (Nat.zero_le capacity) hall, List.nil_append]
    exact parse?_stampedAll hread

/-- The templates of mouse and consumer control, stamped with 7 and 9 into a buffer that they fill. -/
theorem stamping_keeps_items_mouse :
    let stamps := [(MouseReport.template, 7), (ConsumerReport.template, 9)]
    let parts := [MouseReport.items.take 3 ++ [Item.short .reportId 7] ++ MouseReport.items.drop 3,
      ConsumerReport.items.take 3 ++ [Item.short .reportId 9] ++ ConsumerReport.items.drop 3]
    ReadAs stamps parts ∧ ReportDescriptor.totalLength (stamps.map Prod.fst) ≤ 104 ∧
      (∀ items ∈ parts, Item.balanced items = true) ∧
      (∀ stamp ∈ stamps, ∀ items, Item.parse? stamp.1.body = some items →
        Item.balanced items = true) ∧
      Item.parse? (heldAfter 104 [] stamps) = some parts.flatten ∧
      Item.balanced parts.flatten = true := by
  intro stamps parts
  have hread : ReadAs stamps parts := by
    refine .cons ?_ (.cons ?_ .nil)
    · exact stampedItems?_eq_some_iff.mpr
        ⟨_, _, Item.parse?_encodeAll (MouseReport.items.take 3),
          Item.parse?_encodeAll (MouseReport.items.drop 3), rfl⟩
    · exact stampedItems?_eq_some_iff.mpr
        ⟨_, _, Item.parse?_encodeAll (ConsumerReport.items.take 3),
          Item.parse?_encodeAll (ConsumerReport.items.drop 3), rfl⟩
  have hroom : ReportDescriptor.totalLength (stamps.map Prod.fst) ≤ 104 := by decide
  have hbalanced : ∀ items ∈ parts, Item.balanced items = true := by decide
  have hbody (items : List Item) (hitems : Item.balanced items = true) :
      ∀ other, Item.parse? (Item.encodeAll items) = some other → Item.balanced other = true := by
    intro other hother
    rw [Item.parse?_encodeAll] at hother
    cases hother
    exact hitems
  have hbodies : ∀ stamp ∈ stamps, ∀ items, Item.parse? stamp.1.body = some items →
      Item.balanced items = true := by
    refine List.forall_mem_cons.mpr ⟨?_, List.forall_mem_singleton.mpr ?_⟩
    · exact hbody MouseReport.items (by decide)
    · exact hbody ConsumerReport.items (by decide)
  obtain ⟨-, hparse, -, hall⟩ := stamping_keeps_items.2 104 stamps parts hread hroom
  exact ⟨hread, hroom, hbalanced, hbodies, hparse, hall hbodies⟩

end Template

end UsbComposite
