import StudioQuote.Proofs.Price.Amount
import StudioQuote.Proofs.Selection

/-!
# The price of selected ids

Of a selection only the set of the ids that are ids of items counts. Each of these stands for
the first item with the id, and the items come in the order in which their ids are named first.
-/

namespace StudioQuote

open Number

/-! ## First mentions -/

section FirstMentions

variable {α : Type} [BEq α] [LawfulBEq α]

theorem idxOf_cons_of_ne {a c : α} (h : c ≠ a) (as : List α) :
    (c :: as).idxOf a = as.idxOf a + 1 := by
  rw [List.idxOf_cons, beq_false_of_ne h]
  rfl

theorem idxOf_lt_of_filter (p : α → Bool) {a b : α} (ha : p a = true) (hb : p b = true)
    {as : List α} (h : (as.filter p).idxOf a < (as.filter p).idxOf b) :
    as.idxOf a < as.idxOf b := by
  induction as with
  | nil => exact h
  | cons c as ih =>
    by_cases hc : p c = true
    · rw [List.filter_cons_of_pos hc] at h
      have hb' : c ≠ b := by
        rintro rfl
        rw [List.idxOf_cons_self] at h
        exact Nat.not_lt_zero _ h
      rw [idxOf_cons_of_ne hb'] at h ⊢
      by_cases ha' : c = a
      · rw [ha', List.idxOf_cons_self]
        exact Nat.succ_pos _
      · rw [idxOf_cons_of_ne ha'] at h ⊢
        exact Nat.succ_lt_succ (ih (Nat.lt_of_succ_lt_succ h))
    · rw [List.filter_cons_of_neg hc] at h
      have hdiffers : ∀ x, p x = true → c ≠ x := by
        rintro x hx rfl
        exact hc hx
      rw [idxOf_cons_of_ne (hdiffers a ha), idxOf_cons_of_ne (hdiffers b hb)]
      exact Nat.succ_lt_succ (ih h)

/-- Without repetitions, elements stand in the order of their first mentions. -/
theorem pairwise_eraseDups : ∀ as : List α,
    as.eraseDups.Pairwise fun a b => as.idxOf a < as.idxOf b
  | [] => .nil
  | c :: as => by
    have hkept : ∀ x ∈ (as.filter fun x => !x == c).eraseDups, (!x == c) = true := by
      intro x hx
      exact (List.mem_filter.mp (List.mem_eraseDups.mp hx)).2
    have hdiffers : ∀ x ∈ (as.filter fun x => !x == c).eraseDups, c ≠ x := by
      rintro x hx rfl
      have hx := hkept _ hx
      simp at hx
    rw [List.eraseDups_cons, List.pairwise_cons]
    constructor
    · intro x hx
      rw [List.idxOf_cons_self, idxOf_cons_of_ne (hdiffers x hx)]
      exact Nat.succ_pos _
    · apply (pairwise_eraseDups (as.filter fun x => !x == c)).imp_of_mem
      intro a b ha hb hlt
      rw [idxOf_cons_of_ne (hdiffers a ha), idxOf_cons_of_ne (hdiffers b hb)]
      exact Nat.succ_lt_succ
        (idxOf_lt_of_filter (fun x => !x == c) (hkept a ha) (hkept b hb) hlt)
termination_by as => as.length
decreasing_by exact Nat.lt_succ_of_le (List.length_filter_le _ _)

end FirstMentions

namespace Item

/-- Whether an item is the first one with its id. -/
def IsFirst (items : List Item) (i : Item) : Prop :=
  ∃ before after, items = before ++ i :: after ∧ ∀ j ∈ before, j.id ≠ i.id

theorem find?_id_eq_some_iff {items : List Item} {id : Int} {i : Item} :
    items.find? (·.id == id) = some i ↔ i.id = id ∧ i.IsFirst items := by
  rw [List.find?_eq_some_iff_append, beq_iff_eq]
  constructor
  · rintro ⟨rfl, before, after, hitems, hbefore⟩
    refine ⟨rfl, before, after, hitems, ?_⟩
    intro j hj heq
    have hdiffers := hbefore j hj
    simp [heq] at hdiffers
  · rintro ⟨rfl, before, after, hitems, hbefore⟩
    refine ⟨rfl, before, after, hitems, ?_⟩
    intro j hj
    simpa using hbefore j hj

section Resolve

variable {ids more : List Int} {items : List Item}

theorem mem_resolve_iff_isFirst {i : Item} :
    i ∈ resolve ids items ↔ i.id ∈ ids ∧ i.IsFirst items := by
  rw [resolve, List.mem_filterMap]
  constructor
  · rintro ⟨id, hid, hfind⟩
    obtain ⟨rfl, hfirst⟩ := find?_id_eq_some_iff.mp hfind
    exact ⟨List.mem_eraseDups.mp hid, hfirst⟩
  · rintro ⟨hid, hfirst⟩
    exact ⟨i.id, List.mem_eraseDups.mpr hid, find?_id_eq_some_iff.mpr ⟨rfl, hfirst⟩⟩

theorem pairwise_resolve (ids : List Int) (items : List Item) :
    (resolve ids items).Pairwise fun i j => ids.idxOf i.id < ids.idxOf j.id := by
  rw [resolve]
  apply (pairwise_eraseDups ids).filterMap
  intro a b hlt i hi j hj
  obtain ⟨rfl, -⟩ := find?_id_eq_some_iff.mp hi
  obtain ⟨rfl, -⟩ := find?_id_eq_some_iff.mp hj
  exact hlt

theorem nodup_map_id_resolve (ids : List Int) (items : List Item) :
    ((resolve ids items).map Item.id).Nodup := by
  rw [List.Nodup, List.pairwise_map]
  apply (pairwise_resolve ids items).imp
  intro i j hlt heq
  rw [heq] at hlt
  exact Nat.lt_irrefl _ hlt

theorem resolve_map_id_resolve (ids : List Int) (items : List Item) :
    resolve ((resolve ids items).map Item.id) items = resolve ids items := by
  apply resolve_map_id_of_find? (nodup_map_id_resolve ids items)
  intro j hj
  exact find?_id_eq_some_iff.mpr ⟨rfl, (mem_resolve_iff_isFirst.mp hj).2⟩

theorem resolve_perm (h : ∀ i ∈ items, i.id ∈ ids ↔ i.id ∈ more) :
    (resolve ids items).Perm (resolve more items) := by
  rw [List.perm_ext_iff_of_nodup (List.Nodup.of_map _ (nodup_map_id_resolve ids items))
    (List.Nodup.of_map _ (nodup_map_id_resolve more items))]
  intro i
  rw [mem_resolve_iff_isFirst, mem_resolve_iff_isFirst]
  constructor
  · rintro ⟨hid, before, after, rfl, hbefore⟩
    exact ⟨(h i (List.mem_append_right _ List.mem_cons_self)).mp hid, before, after, rfl, hbefore⟩
  · rintro ⟨hid, before, after, rfl, hbefore⟩
    exact ⟨(h i (List.mem_append_right _ List.mem_cons_self)).mpr hid, before, after, rfl, hbefore⟩

theorem resolve_append_of_disjoint (h : ∀ id ∈ ids, id ∉ more) :
    resolve (ids ++ more) items = resolve ids items ++ resolve more items := by
  have hall : more.removeAll ids = more := by
    rw [List.removeAll, List.filter_eq_self]
    intro id hid
    simpa using fun hmem => h id hmem hid
  rw [resolve_append, hall]

end Resolve

end Item

/-- What ids cost depends on the set of those that are ids of items. They stand for the first
items with these ids, once each and in the order of their first mentions; ids apart from each
other add up; and of items with distinct ids the order does not count either. -/
theorem total_depends_on_set (ids more : List Int) (items : List Item) (rate : Decimal) :
    (∀ i, i ∈ Item.resolve ids items ↔ i.id ∈ ids ∧ i.IsFirst items) ∧
    (Item.resolve ids items).Pairwise (fun i j => ids.idxOf i.id < ids.idxOf j.id) ∧
    Item.resolve ((Item.resolve ids items).map Item.id) items = Item.resolve ids items ∧
    ((∀ i ∈ items, i.id ∈ ids ↔ i.id ∈ more) →
      Item.subtotal (Item.resolve ids items) = Item.subtotal (Item.resolve more items) ∧
      totalPrice ids items rate = totalPrice more items rate) ∧
    ((∀ id ∈ ids, id ∉ more) → Item.subtotal (Item.resolve (ids ++ more) items) =
      Item.subtotal (Item.resolve ids items) + Item.subtotal (Item.resolve more items)) ∧
    ((items.map Item.id).Nodup → ∀ others : List Item, items.Perm others →
      Item.resolve ids items = Item.resolve ids others ∧
      totalPrice ids items rate = totalPrice ids others rate) := by
  refine ⟨fun i => Item.mem_resolve_iff_isFirst, Item.pairwise_resolve ids items,
    Item.resolve_map_id_resolve ids items, ?_, ?_, ?_⟩
  · intro hsame
    have hsubtotal := Item.subtotal_perm (Item.resolve_perm hsame)
    rw [totalPrice, totalPrice, hsubtotal]
    exact ⟨rfl, rfl⟩
  · intro hapart
    rw [Item.resolve_append_of_disjoint hapart, Item.subtotal_append]
  · intro hnodup others hperm
    have hresolve := Item.resolve_of_perm hperm hnodup ids
    rw [totalPrice, totalPrice, hresolve]
    exact ⟨rfl, rfl⟩

/-- A plan, a voucher that is worth more, and a dearer plan with the id of the first. -/
def twofoldPlan : List Item :=
  [{ id := 100, categoryId := 10, price := 5000 }, { id := 109, categoryId := 90, price := -9999 },
    { id := 100, categoryId := 20, price := 7000 }]

/-- The first plan is charged once, and unknown ids cost nothing. -/
theorem twofold_plan_is_charged_once :
    totalPrice [109, 100, 7, 109] twofoldPlan standardTaxRate =
      totalPrice [100, 8, 109] twofoldPlan standardTaxRate ∧
    totalPrice [100, 8, 109] twofoldPlan standardTaxRate = -5499 ∧
    Item.subtotal (Item.resolve ([109, 7] ++ [100]) twofoldPlan) =
      Item.subtotal (Item.resolve [109, 7] twofoldPlan) +
        Item.subtotal (Item.resolve [100] twofoldPlan) ∧
    totalPrice [109, 100] (twofoldPlan.take 2) standardTaxRate =
      totalPrice [109, 100] (twofoldPlan.take 2).reverse standardTaxRate := by
  obtain ⟨-, -, -, hsame, -, -⟩ :=
    total_depends_on_set [109, 100, 7, 109] [100, 8, 109] twofoldPlan standardTaxRate
  obtain ⟨-, -, -, -, hapart, -⟩ :=
    total_depends_on_set [109, 7] [100] twofoldPlan standardTaxRate
  obtain ⟨-, -, -, -, -, hperm⟩ :=
    total_depends_on_set [109, 100] [] (twofoldPlan.take 2) standardTaxRate
  exact ⟨(hsame (by decide)).2, by decide +kernel, hapart (by decide),
    (hperm (by decide) _ (List.reverse_perm _).symm).2⟩

end StudioQuote
