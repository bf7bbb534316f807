import Mathlib.Data.List.Induction
import StudioQuote.Proofs.Draft.Sound
import StudioQuote.Proofs.Publish.Holds

/-!
# Runs of the service

A run begins with empty tables. What holds of them and is kept by every step of the
service holds after every run: each stored draft stands under the shop and the shooting
category that it names, and the tables of published forms hold the last version of each
form that was published.
-/

namespace StudioQuote

namespace Store

/-- Whether every stored draft stands under the key that it names and consists of
characters. -/
def KeyedDrafts (s : Store) : Prop :=
  ∀ r ∈ s.drafts, ∃ d : Draft, d.shopId = some r.shopId ∧
    d.shootingCategoryId = r.shootingCategoryId ∧ d.toJson.HasPlainTexts ∧ r.text = d.toText

theorem hasKey_iff {shopId form : Int} {r : DraftRow} :
    hasKey shopId form r = true ↔ r.shopId = shopId ∧ r.shootingCategoryId = form := by
  rw [hasKey, Bool.and_eq_true_iff, beq_iff_eq, beq_iff_eq]

namespace KeyedDrafts

variable {s : Store}

theorem deleteDraft (h : s.KeyedDrafts) (shopId form : Int) :
    (s.deleteDraft shopId form).KeyedDrafts :=
  fun r hr => h r (List.mem_filter.mp hr).1

theorem putDraftText (h : s.KeyedDrafts) {d : Draft} {shopId : Int}
    (hshop : d.shopId = some shopId) (hplain : d.toJson.HasPlainTexts) :
    (s.putDraftText shopId d.shootingCategoryId d.toText).KeyedDrafts := by
  intro r hr
  rcases List.mem_append.mp hr with hold | hnew
  · exact h.deleteDraft shopId d.shootingCategoryId r hold
  · obtain rfl := List.mem_singleton.mp hnew
    exact ⟨d, hshop, rfl, hplain, rfl⟩

theorem of_storedDraft (h : s.KeyedDrafts) {shopId form : Int} {d : Draft}
    (hd : s.storedDraft shopId form = .ok (some d)) :
    d.shopId = some shopId ∧ d.shootingCategoryId = form ∧ d.IsSound := by
  rw [storedDraft, draftText?] at hd
  cases hfind : s.drafts.find? (hasKey shopId form) with
  | none =>
    rw [hfind] at hd
    cases hd
  | some r =>
    rw [hfind] at hd
    obtain ⟨stored, hshop, hform, hplain, htext⟩ := h r (List.mem_of_find?_eq_some hfind)
    have hkey := hasKey_iff.mp (List.find?_some hfind)
    change some <$> Draft.ofText r.text = _ at hd
    rw [htext, Draft.ofText_toText_of_hasPlainTexts hplain] at hd
    split at hd
    · rename_i hshort
      cases hd
      exact ⟨hshop.trans (congrArg some hkey.1), hform.trans hkey.2, hplain, hshort⟩
    · cases hd

end KeyedDrafts

theorem draftText?_deleteDraft (s : Store) (shopId form owner category : Int) :
    (s.deleteDraft shopId form).draftText? owner category =
      if owner = shopId ∧ category = form then none else s.draftText? owner category := by
  rw [draftText?, deleteDraft, List.find?_filter]
  by_cases hkey : owner = shopId ∧ category = form
  · obtain ⟨rfl, rfl⟩ := hkey
    simp
  · rw [if_neg hkey]
    refine congrArg (fun p => (List.find? p s.drafts).map DraftRow.text) (funext fun r => ?_)
    rw [Bool.eq_iff_iff, decide_eq_true_iff, and_iff_right_iff_imp, Bool.not_eq_true']
    intro howner
    obtain ⟨rfl, rfl⟩ := hasKey_iff.mp howner
    exact Bool.eq_false_iff.mpr fun h => hkey (hasKey_iff.mp h)

/-- A text that is put under a key is what stands there; other keys are as before. -/
theorem draftText?_putDraftText (s : Store) (shopId form : Int) (text : String)
    (owner category : Int) :
    (s.putDraftText shopId form text).draftText? owner category =
      if owner = shopId ∧ category = form then some text else s.draftText? owner category := by
  have hdeleted := draftText?_deleteDraft s shopId form owner category
  have hrow : hasKey owner category ⟨shopId, form, text⟩ = true ↔
      owner = shopId ∧ category = form := by
    rw [hasKey_iff]
    exact and_congr eq_comm eq_comm
  rw [draftText?] at hdeleted
  rw [draftText?, putDraftText, List.find?_append, Option.map_or, hdeleted, List.find?_singleton]
  by_cases hkey : owner = shopId ∧ category = form
  · rw [if_pos hkey, if_pos hkey, if_pos (hrow.mpr hkey)]
    rfl
  · rw [if_neg hkey, if_neg hkey, if_neg fun h => hkey (hrow.mp h), Option.map_none, Option.or_none]

theorem storedDraft_putDraftText (s : Store) (shopId form : Int) (text : String)
    (owner category : Int) :
    (s.putDraftText shopId form text).storedDraft owner category =
      if owner = shopId ∧ category = form then some <$> Draft.ofText text
      else s.storedDraft owner category := by
  rw [storedDraft, draftText?_putDraftText]
  by_cases hkey : owner = shopId ∧ category = form
  · rw [if_pos hkey, if_pos hkey]
  · rw [if_neg hkey, if_neg hkey, storedDraft]

theorem storedDraft_putDraftText_ok (s : Store) (shopId : Int) {d : Draft} (h : d.IsSound) :
    (s.putDraftText shopId d.shootingCategoryId d.toText).storedDraft shopId
      d.shootingCategoryId = .ok (some d) := by
  rw [storedDraft_putDraftText, if_pos ⟨rfl, rfl⟩,
    Draft.ofText_toText_of_hasPlainTexts h.plain, if_pos h.short]
  rfl

theorem insertShootingCategory_eq_ok {s after : Store} {c : ShootingCategory} {draws : List Nat}
    {id : Int} (h : s.insertShootingCategory c draws = .ok (id, after)) :
    c.id.or (nextId? (s.shootingCategories.map ShootingCategoryRow.id) draws) = some id ∧
      ∃ shopId, c.shopId = some shopId ∧
        id ∉ s.shootingCategories.map ShootingCategoryRow.id ∧
        after = { s with
          shootingCategories := s.shootingCategories ++
            [⟨id, shopId, c.name, c.displayName, c.sortOrder, c.isActive⟩] } := by
  rw [insertShootingCategory] at h
  split at h
  · cases h
  · rename_i next hid
    split at h
    · cases h
    · rename_i shopId hshop
      split at h
      · cases h
      · rename_i hfresh
        cases h
        exact ⟨hid, shopId, hshop, fun hid => hfresh (List.contains_iff_mem.mpr hid), rfl⟩

end Store

namespace Operation

theorem Step.keyedDrafts {s after : Store} {op : Operation} {outcome : Except Failure Answer}
    (hstep : Step s op outcome after) (h : s.KeyedDrafts) : after.KeyedDrafts := by
  cases hstep with
  | failed e => exact h
  | read hread a => exact h
  | createdShootingCategory hinsert =>
    obtain ⟨-, -, -, -, rfl⟩ := Store.insertShootingCategory_eq_ok hinsert
    exact h
  | createdCampaign hshop => exact h
  | deletedDraft shopId form => exact h.deleteDraft shopId form
  | savedDraft hshop hplain => exact h.putDraftText hshop hplain
  | addedStep hold hadd hshop hplain => exact h.putDraftText hshop hplain
  | removedStep hold hshop hplain => exact h.putDraftText hshop hplain
  | published hd hvalid hfits haccepts => exact h

def fresh : Database := .ready .empty

/-- What holds of empty tables and is kept by whatever relates the tables before an operation
to those after it holds after every run. -/
theorem runAll_induction {P : Operation → Prop}
    {R : Store → Operation → Except Failure Answer → Store → Prop}
    (hrun : ∀ op, P op → ∀ s, ∃ after, (op.run (.ready s)).2 = .ready after ∧
      R s op (op.run (.ready s)).1 after)
    {I : List Operation → Store → Prop} (hempty : I [] .empty)
    (hstep : ∀ ops op s after, I ops s → (runAll ops fresh).2 = .ready s →
      R s op (op.run (.ready s)).1 after → I (ops ++ [op]) after)
    (ops : List Operation) (hops : ∀ op ∈ ops, P op) :
    ∃ s, (runAll ops fresh).2 = .ready s ∧ I ops s := by
  induction ops using List.reverseRecOn with
  | nil => exact ⟨.empty, rfl, hempty⟩
  | append_singleton ops op ih =>
    obtain ⟨s, hs, hI⟩ := ih fun op h => hops op (List.mem_append_left _ h)
    have hop := hops op (List.mem_append_right _ List.mem_cons_self)
    obtain ⟨after, hafter, hrelated⟩ := hrun op hop s
    refine ⟨after, ?_, hstep ops op s after hI hs hrelated⟩
    rw [runAll_concat, hs]
    exact hafter

/-- What every step of the service keeps holds after every run. -/
theorem run_induction {I : List Operation → Store → Prop} (hempty : I [] .empty)
    (hstep : ∀ ops op s after, I ops s → (runAll ops fresh).2 = .ready s →
      Step s op (op.run (.ready s)).1 after → I (ops ++ [op]) after)
    (ops : List Operation) (hops : ∀ op ∈ ops, op.isService = true) :
    ∃ s, (runAll ops fresh).2 = .ready s ∧ I ops s :=
  runAll_induction (fun _ hop s => step_of_run hop s) hempty hstep ops hops

/-- The operations of a run with their outcomes, when one more is run. -/
theorem zip_runAll_append (ops : List Operation) (op : Operation) {s : Store}
    (hs : (runAll ops fresh).2 = .ready s) :
    (ops ++ [op]).zip (runAll (ops ++ [op]) fresh).1 =
      ops.zip (runAll ops fresh).1 ++ [(op, (op.run (.ready s)).1)] := by
  rw [runAll_append, List.zip_append (length_runAll ops fresh).symm, hs]
  rfl

/-- The records that an operation publishes for a form, going by its outcome. -/
def published? (shopId form : Int) : Operation × Except Failure Answer → Option FormRecords
  | (.publish s f, .ok (.records r)) => if shopId = s ∧ form = f then some r else none
  | _ => none

/-- What the last successful publish of a form gave, in a run that begins with empty tables. -/
def lastPublished (ops : List Operation) (shopId form : Int) : Option FormRecords :=
  ((ops.zip (runAll ops fresh).1).filterMap (published? shopId form)).getLast?

theorem lastPublished_append (ops : List Operation) (op : Operation) {s : Store}
    (hs : (runAll ops fresh).2 = .ready s) (shopId form : Int) :
    lastPublished (ops ++ [op]) shopId form =
      (published? shopId form (op, (op.run (.ready s)).1)).or (lastPublished ops shopId form) := by
  rw [lastPublished, zip_runAll_append ops op hs, List.filterMap_append, List.getLast?_append]
  cases hpub : published? shopId form (op, (op.run (.ready s)).1) with
  | none => simp [hpub, lastPublished]
  | some r => simp [hpub]

/-- A step either publishes a form, or it leaves all published forms as they were. -/
theorem Step.publishes_or_keeps {s after : Store} {op : Operation}
    {outcome : Except Failure Answer} (hstep : Step s op outcome after) :
    (∃ shopId form d, op = .publish shopId form ∧ outcome = .ok (.records d.customerForm) ∧
      s.storedDraft shopId form = .ok (some d) ∧ d.customerForm.Fits shopId form ∧
      s.Accepts shopId form d.customerForm ∧ after = s.withForm shopId form d.customerForm) ∨
    (∀ shopId form, published? shopId form (op, outcome) = none) ∧
      after.categories = s.categories ∧ after.items = s.items := by
  cases hstep with
  | failed e => exact Or.inr ⟨fun _ _ => by cases op <;> rfl, rfl, rfl⟩
  | read hread a =>
    refine Or.inr ⟨fun _ _ => ?_, rfl, rfl⟩
    cases op with
    | publish shopId form => cases hread
    | _ => rfl
  | createdShootingCategory hinsert =>
    obtain ⟨-, -, -, -, rfl⟩ := Store.insertShootingCategory_eq_ok hinsert
    exact Or.inr ⟨fun _ _ => rfl, rfl, rfl⟩
  | createdCampaign hshop => exact Or.inr ⟨fun _ _ => rfl, rfl, rfl⟩
  | deletedDraft shopId form => exact Or.inr ⟨fun _ _ => rfl, rfl, rfl⟩
  | savedDraft hshop => exact Or.inr ⟨fun _ _ => rfl, rfl, rfl⟩
  | addedStep hold hadd hshop => exact Or.inr ⟨fun _ _ => rfl, rfl, rfl⟩
  | removedStep hold hshop => exact Or.inr ⟨fun _ _ => rfl, rfl, rfl⟩
  | published hd hvalid hfits haccepts =>
    exact Or.inl ⟨_, _, _, rfl, rfl, hd, hfits, haccepts, rfl⟩

/-- After every run the tables hold the last published version of each form. -/
theorem holds_lastPublished (ops : List Operation) (hops : ∀ op ∈ ops, op.isService = true) :
    ∃ s, (runAll ops fresh).2 = .ready s ∧ s.KeyedDrafts ∧ s.Holds (lastPublished ops) := by
  refine run_induction (I := fun ops s => s.KeyedDrafts ∧ s.Holds (lastPublished ops))
    ⟨List.forall_mem_nil _, Store.holds_empty⟩ ?_ ops hops
  rintro ops op s after ⟨hkeyed, hholds⟩ hs hstep
  refine ⟨hstep.keyedDrafts hkeyed, ?_⟩
  have happend := lastPublished_append ops op hs
  rcases hstep.publishes_or_keeps with
    ⟨shopId, form, d, rfl, houtcome, hd, hfits, haccepts, rfl⟩ | ⟨hnone, hcategories, hitems⟩
  · have hforms : lastPublished (ops ++ [.publish shopId form]) =
        Forms.publish (lastPublished ops) shopId form d.customerForm := by
      funext a b
      rw [happend, houtcome, published?, Forms.publish]
      split
      · rfl
      · rfl
    have hcompiled : d.customerForm.IsCompiled shopId form :=
      ⟨hfits, d, (hkeyed.of_storedDraft hd).1, rfl⟩
    rw [hforms]
    exact hholds.withForm hcompiled haccepts
  · have hforms : lastPublished (ops ++ [op]) = lastPublished ops := by
      funext a b
      rw [happend, hnone, Option.none_or]
    rw [hforms]
    exact hholds.congr hcategories hitems

end Operation

end StudioQuote
