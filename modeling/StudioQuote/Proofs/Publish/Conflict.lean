import StudioQuote.Proofs.Publish.Listing

/-!
# Conflicts of ids

Ids of categories and of items are unique over all published forms. Publishing fails on
them exactly if the draft uses an id twice or one of another form; ids of the version
that is replaced are free again.
-/

namespace StudioQuote

open Number

def Forms.itemIds (m : Forms) (shopId form : Int) : List Int :=
  (m.items shopId form).map Item.id

namespace Draft

/-- Whether a draft uses an id twice, or one of a form that is published under another key. -/
def Clashes (d : Draft) (m : Forms) (shopId form : Int) : Prop :=
  ¬ d.categoryIds.Nodup ∨ ¬ d.itemIds.Nodup ∨
    (∃ id ∈ d.categoryIds, ∃ a b, ¬ (a = shopId ∧ b = form) ∧ id ∈ m.ids a b) ∨
    ∃ id ∈ d.itemIds, ∃ a b, ¬ (a = shopId ∧ b = form) ∧ id ∈ m.itemIds a b

end Draft

namespace Store.Holds

variable {s : Store} {m : Forms}

theorem mem_categories_withoutForm (h : s.Holds m) {shopId form id : Int} :
    id ∈ (s.withoutForm shopId form).categories.map CategoryRow.id ↔
      ∃ a b, ¬ (a = shopId ∧ b = form) ∧ id ∈ m.ids a b := by
  constructor
  · intro hid
    obtain ⟨row, hrow, rfl⟩ := List.mem_map.mp hid
    obtain ⟨hrow, hnot⟩ := List.mem_filter.mp hrow
    obtain ⟨a, b, hbelongs⟩ := h.owned row hrow
    refine ⟨a, b, ?_, h.mem_ids_iff.mpr ⟨row, hrow, hbelongs, rfl⟩⟩
    rintro ⟨rfl, rfl⟩
    rw [hbelongs] at hnot
    cases hnot
  · rintro ⟨a, b, hne, hid⟩
    exact h.mem_withoutForm hid hne

theorem mem_items_withoutForm (h : s.Holds m) {shopId form id : Int} :
    id ∈ (s.withoutForm shopId form).items.map ItemRow.id ↔
      ∃ a b, ¬ (a = shopId ∧ b = form) ∧ id ∈ m.itemIds a b := by
  rw [h.items_withoutForm]
  constructor
  · intro hid
    obtain ⟨row, hrow, rfl⟩ := List.mem_map.mp hid
    obtain ⟨hrow, hnot⟩ := List.mem_filter.mp hrow
    obtain ⟨a, b, howned⟩ := h.ownedItem row hrow
    have hmem := List.mem_filter.mpr ⟨hrow, howned⟩
    rw [h.items] at hmem
    obtain ⟨i, hi, rfl⟩ := List.mem_map.mp hmem
    refine ⟨a, b, ?_, List.mem_map_of_mem hi⟩
    rintro ⟨rfl, rfl⟩
    rw [howned] at hnot
    cases hnot
  · rintro ⟨a, b, hne, hid⟩
    obtain ⟨i, hi, rfl⟩ := List.mem_map.mp hid
    have hmem := List.mem_map_of_mem (f := ItemRow.ofRecord a) hi
    rw [← h.items] at hmem
    obtain ⟨hrow, hstands⟩ := List.mem_filter.mp hmem
    refine List.mem_map.mpr ⟨.ofRecord a i, List.mem_filter.mpr ⟨hrow, ?_⟩, rfl⟩
    rw [Bool.not_eq_true']
    refine Bool.eq_false_iff.mpr fun hform => hne ?_
    exact h.eq_of_mem_ids (ItemRow.isIn_ofRecord.mp hform) (ItemRow.isIn_ofRecord.mp hstands)

/-- A draft is accepted unless its ids clash. -/
theorem accepts_iff (h : s.Holds m) {shopId form : Int} {d : Draft} :
    s.Accepts shopId form d.customerForm ↔ ¬ d.Clashes m shopId form := by
  have hcategories : d.customerForm.categories.map Category.id = d.categoryIds :=
    Draft.map_id_categories
  have hitems : d.customerForm.items.map Item.id = d.itemIds := Draft.map_id_items
  simp only [Accepts, Fresh, hcategories, hitems, h.mem_categories_withoutForm,
    h.mem_items_withoutForm, Draft.Clashes]
  constructor
  · rintro ⟨⟨hcategories, hfree⟩, hitems, hfree'⟩
    rintro (htwice | htwice | ⟨id, hid, htaken⟩ | ⟨id, hid, htaken⟩)
    · exact htwice hcategories
    · exact htwice hitems
    · exact hfree id hid htaken
    · exact hfree' id hid htaken
  · intro hnone
    refine ⟨⟨?_, fun id hid htaken => ?_⟩, ?_, fun id hid htaken => ?_⟩
    · exact Classical.byContradiction fun htwice => hnone (Or.inl htwice)
    · exact hnone (Or.inr (Or.inr (Or.inl ⟨id, hid, htaken⟩)))
    · exact Classical.byContradiction fun htwice => hnone (Or.inr (Or.inl htwice))
    · exact hnone (Or.inr (Or.inr (Or.inr ⟨id, hid, htaken⟩)))

end Store.Holds

namespace Operation

/-- After every run of the service, publishing a stored draft without defects fails on a
conflict exactly if its ids clash, and succeeds otherwise. -/
theorem publish_conflicts_iff (ops : List Operation) (hops : ∀ op ∈ ops, op.isService = true)
    {shopId form : Int} {d : Draft}
    (hd : ((getDraft shopId form).run (runAll ops fresh).2).1 = .ok (.foundDraft (some d)))
    (hvalid : d.isValid = true) (hfits : d.Fits) :
    ((∃ fault, ((publish shopId form).run (runAll ops fresh).2).1 =
        .error (.publishConflict form fault)) ↔ d.Clashes (lastPublished ops) shopId form) ∧
    (¬ d.Clashes (lastPublished ops) shopId form →
      ((publish shopId form).run (runAll ops fresh).2).1 = .ok (.records d.customerForm)) := by
  obtain ⟨s, hs, hkeyed, hholds⟩ := holds_lastPublished ops hops
  rw [hs] at hd ⊢
  rcases hget : (Session.getDraft shopId form).run (.ready s) with ⟨e | stored, after⟩
  · rw [Operation.run, perform, Session.run_map, hget] at hd
    cases hd
  rw [Operation.run, perform, Session.run_map, hget] at hd
  cases hd
  obtain ⟨hkey, hstored, -⟩ := Session.getDraft_eq_ok hget
  obtain ⟨-, -, hsound⟩ := hkeyed.of_storedDraft hstored
  have hall := hfits.customerForm hsound hkey
  have hpublish := Session.run_publish hkey hstored hvalid
  rw [hsound.customerForm?] at hpublish
  dsimp only at hpublish
  rw [Operation.run, perform, Session.run_map, hpublish]
  rcases Session.run_replacePublishedForm shopId form d.customerForm s with
    ⟨hrun, -, haccepts⟩ | ⟨e, -, -, hunstorable⟩ | ⟨table, hrun, htaken⟩
  · have hnone := hholds.accepts_iff.mp haccepts
    rw [hrun]
    refine ⟨⟨?_, fun hclash => absurd hclash hnone⟩, fun _ => rfl⟩
    rintro ⟨fault, herror⟩
    cases herror
  · exact absurd hall hunstorable
  · rw [hholds.accepts_iff, Classical.not_not] at htaken
    rw [hrun]
    exact ⟨⟨fun _ => htaken, fun _ => ⟨.idTaken table, rfl⟩⟩, fun hnone => absurd htaken hnone⟩

/-- The form for portraits, drafted by another shop. -/
def rivalDraft : Draft :=
  { portraitDraft with shopId := some 2 }

theorem isSound_rivalDraft : rivalDraft.IsSound :=
  ⟨Json.hasPlainTexts_of_isUnmarked (by decide), Json.hasShortIntegers_of_fits (by decide)⟩

def rivalStore : Store :=
  (portraitStore.withForm 1 7 portraitDraft.customerForm).putDraftText 2
    rivalDraft.shootingCategoryId rivalDraft.toText

theorem runAll_rivalDraft :
    (runAll ([saveDraft portraitDraft, publish 1 7] ++ [saveDraft rivalDraft]) fresh).2 =
      .ready rivalStore := by
  have hsave := run_saveDraft_ok (d := rivalDraft) rfl (by decide)
    isSound_rivalDraft.plain (portraitStore.withForm 1 7 portraitDraft.customerForm)
  rw [runAll_concat, runAll_portraitDraft, hsave]
  rfl

theorem storedDraft_rivalStore : rivalStore.storedDraft 2 7 = .ok (some rivalDraft) :=
  Store.storedDraft_putDraftText_ok (portraitStore.withForm 1 7 portraitDraft.customerForm) 2
    isSound_rivalDraft

/-- The ids of the form for portraits are taken when another shop publishes it too. -/
theorem rival_draft_conflicts :
    ∃ fault, ((publish 2 7).run
      (runAll ([saveDraft portraitDraft, publish 1 7] ++ [saveDraft rivalDraft]) fresh).2).1 =
      .error (.publishConflict 7 fault) := by
  have hget : ((getDraft 2 7).run (runAll ([saveDraft portraitDraft, publish 1 7] ++
      [saveDraft rivalDraft]) fresh).2).1 = .ok (.foundDraft (some rivalDraft)) := by
    rw [runAll_rivalDraft, Operation.run, perform, Session.run_map, Session.run_getDraft,
      storedDraft_rivalStore]
    rfl
  have hlast := lastPublished_append [saveDraft portraitDraft, publish 1 7] (saveDraft rivalDraft)
    runAll_portraitDraft 1 7
  rw [lastPublished_portraitDraft] at hlast
  refine (publish_conflicts_iff ([saveDraft portraitDraft, publish 1 7] ++ [saveDraft rivalDraft])
    (by simp [isService]) hget (by decide)
    ⟨by decide, by decide, by decide, by decide, by decide⟩).1.mpr ?_
  refine Or.inr (Or.inr (Or.inl ⟨10, by decide, 1, 7, by decide, ?_⟩))
  rw [Forms.ids, Forms.categories, hlast]
  decide

end Operation

end StudioQuote
