import StudioQuote.Proofs.Price.Selected

/-!
# Items that select themselves

A selection stays as it is, and behind it come the ids of the items that select themselves
in visible categories and were not selected, each id once, by the first such item. Of the
visible categories only the set counts. After that nothing is left to be added.
-/

namespace StudioQuote

namespace Item

variable {ids visible others : List Int} {items : List Item}

theorem selectsItself_iff {i : Item} :
    i.selectsItself visible = true ↔
      i.autoSelect = true ∧ i.isActive = true ∧ i.categoryId ∈ visible := by
  rw [selectsItself, Bool.and_eq_true, Bool.and_eq_true, List.contains_iff_mem, and_assoc]

theorem selectsItself_congr (h : ∀ id, id ∈ others ↔ id ∈ visible) (i : Item) :
    i.selectsItself others = i.selectsItself visible := by
  rw [Bool.eq_iff_iff, selectsItself_iff, selectsItself_iff, h]

theorem withAutoSelected_congr (h : ∀ id, id ∈ others ↔ id ∈ visible) (ids : List Int)
    (items : List Item) :
    withAutoSelected ids others items = withAutoSelected ids visible items := by
  rw [withAutoSelected_eq, withAutoSelected_eq,
    List.filter_congr fun i _ => selectsItself_congr h i]

/-- A selection that has all items that select themselves stays as it is. -/
theorem withAutoSelected_eq_self
    (h : ∀ i ∈ items, i.selectsItself visible = true → i.id ∈ ids) :
    withAutoSelected ids visible items = ids := by
  have hnone : ((items.filter (·.selectsItself visible)).map Item.id).filter
      (!ids.contains ·) = [] := by
    rw [List.filter_eq_nil_iff]
    intro id hid
    obtain ⟨i, hi, rfl⟩ := List.mem_map.mp hid
    obtain ⟨hmem, hselects⟩ := List.mem_filter.mp hi
    simpa using h i hmem hselects
  rw [withAutoSelected_eq, hnone]
  exact List.append_nil ids

theorem withAutoSelected_withAutoSelected (ids visible : List Int) (items : List Item) :
    withAutoSelected (withAutoSelected ids visible items) visible items =
      withAutoSelected ids visible items := by
  apply withAutoSelected_eq_self
  intro i hi hselects
  exact mem_withAutoSelected_iff.mpr (.inr ⟨i, hi, hselects, rfl⟩)

/-- What is left of a list without some ids and without repetitions keeps the order of the
first mentions in the list. -/
theorem pairwise_eraseDups_filter (p : Int → Bool) (as : List Int) :
    (as.filter p).eraseDups.Pairwise fun a b => as.idxOf a < as.idxOf b := by
  have hkept : ∀ a ∈ (as.filter p).eraseDups, p a = true := by
    intro a ha
    exact (List.mem_filter.mp (List.mem_eraseDups.mp ha)).2
  apply (pairwise_eraseDups (as.filter p)).imp_of_mem
  intro a b ha hb hlt
  exact idxOf_lt_of_filter p (hkept a ha) (hkept b hb) hlt

/-- A selection is completed by items that select themselves. It is kept as it is, and what
follows are the ids that are not selected of active items in visible categories that are to
be selected automatically: all of them, each once, in the order of the first such items. The
order of the visible categories and repetitions of them do not matter, and a selection that
is completed already is not changed. -/
theorem completes_selection_once (ids visible : List Int) (items : List Item) :
    (∃ added, withAutoSelected ids visible items = ids ++ added ∧
      added.Nodup ∧ ids.Disjoint added ∧
      (∀ id, id ∈ added ↔ id ∉ ids ∧ ∃ i ∈ items, i.id = id ∧
        i.autoSelect = true ∧ i.isActive = true ∧ i.categoryId ∈ visible) ∧
      added.Pairwise fun a b =>
        let automatic := (items.filter fun i =>
          i.autoSelect && i.isActive && visible.contains i.categoryId).map Item.id
        automatic.idxOf a < automatic.idxOf b) ∧
    (∀ others : List Int, (∀ id, id ∈ others ↔ id ∈ visible) →
      withAutoSelected ids others items = withAutoSelected ids visible items) ∧
    withAutoSelected (withAutoSelected ids visible items) visible items =
      withAutoSelected ids visible items := by
  have hmem : ∀ id, id ∈ (((items.filter (·.selectsItself visible)).map Item.id).filter
      (!ids.contains ·)).eraseDups ↔ id ∉ ids ∧ ∃ i ∈ items, i.id = id ∧
        i.autoSelect = true ∧ i.isActive = true ∧ i.categoryId ∈ visible := by
    intro id
    rw [List.mem_eraseDups, List.mem_filter, List.mem_map, Bool.not_eq_true',
      ← Bool.not_eq_true, List.contains_iff_mem, and_comm]
    simp only [List.mem_filter, selectsItself_iff, and_assoc, and_comm, and_left_comm]
  refine ⟨⟨_, withAutoSelected_eq ids visible items, nodup_eraseDups _, ?_, hmem,
    pairwise_eraseDups_filter _ _⟩, fun others h => withAutoSelected_congr h ids items,
    withAutoSelected_withAutoSelected ids visible items⟩
  intro id hid hadded
  exact ((hmem id).mp hadded).1 hid

/-- Sheets of prints. Sheet 300 selects itself in the second of its categories only and sheet
301 in both; sheet 302 is not active, and sheet 303 stands in a category of its own. -/
def sheets : List Item :=
  [{ id := 300, categoryId := 30, price := 800 },
    { id := 301, categoryId := 30, price := 500, autoSelect := true },
    { id := 300, categoryId := 20, price := 900, autoSelect := true },
    { id := 302, categoryId := 20, price := 100, autoSelect := true, isActive := false },
    { id := 301, categoryId := 20, price := 400, autoSelect := true },
    { id := 303, categoryId := 40, price := 700, autoSelect := true }]

/-- A selection with a repetition and an unknown id is kept, and both sheets follow it. -/
theorem sheets_follow_selection :
    withAutoSelected [101, 5, 101] [30, 20, 30] sheets = [101, 5, 101, 301, 300] ∧
      withAutoSelected [101, 5, 101] [20, 30] sheets =
        withAutoSelected [101, 5, 101] [30, 20, 30] sheets := by
  refine ⟨by decide, (completes_selection_once _ _ _).2.1 _ fun id => ?_⟩
  simp only [List.mem_cons, List.not_mem_nil, or_false]
  constructor
  · rintro (rfl | rfl)
    · exact .inr (.inl rfl)
    · exact .inl rfl
  · rintro (rfl | rfl | rfl)
    · exact .inr rfl
    · exact .inl rfl
    · exact .inr rfl

end Item

end StudioQuote
