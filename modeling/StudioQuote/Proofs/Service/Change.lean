import StudioQuote.Proofs.Service.Run

/-!
# Changes of the tables

Whatever is run, maintenance included, does one of four things to the tables of forms and
campaigns: it creates a campaign, it puts records in the place of a form, it overwrites a
column of a category or of an item, or it leaves these tables as they are. What the four
keep holds after every run.
-/

namespace StudioQuote

open Number

namespace Store

structure SameForms (s after : Store) : Prop where
  categories : after.categories = s.categories
  items : after.items = s.items

structure SameCampaigns (s after : Store) : Prop where
  campaigns : after.campaigns = s.campaigns
  lastCampaignId : after.lastCampaignId = s.lastCampaignId
  shootingAssociations : after.shootingAssociations = s.shootingAssociations
  categoryAssociations : after.categoryAssociations = s.categoryAssociations
  itemAssociations : after.itemAssociations = s.itemAssociations

def ItemIdsDistinct (s : Store) : Prop :=
  (s.items.map ItemRow.id).Nodup

end Store

theorem eq_ok_of_map {α ε : Type} {x : Except ε α} {u : Unit} {a : α}
    (h : x.map ((), ·) = .ok (u, a)) : x = .ok a := by
  cases x with
  | error e => cases h
  | ok b =>
    cases h
    rfl

theorem ItemRow.id_set (r : ItemRow) {column : String} (h : column ≠ "id") (c : Cell) :
    (r.set column c).id = r.id := by
  unfold ItemRow.set
  split
  · exact absurd rfl h
  all_goals rfl

theorem ItemRow.id_set_id (r : ItemRow) {c : Cell} {n : Int} (h : c.inIntegerColumn = .integer n) :
    (r.set "id" c).id = n := by
  simp only [ItemRow.set, h]

namespace Store

/-- An id that is overwritten becomes one that no other row has. -/
theorem overwriteFault?_id {table : Table} {required : List String} {ids : List Int} {id : Int}
    {c : Cell} (hid : id ∈ ids) (h : overwriteFault? table required ids id "id" c = none) :
    ∃ n, c.inIntegerColumn = .integer n ∧ (n ∈ ids → n = id) := by
  rw [overwriteFault?, List.contains_iff_mem.mpr hid, if_neg (by decide), if_pos rfl] at h
  split at h
  · rename_i n hn
    refine ⟨n, hn, fun hmem => ?_⟩
    by_contra hne
    rw [if_pos ⟨hne, List.contains_iff_mem.mpr hmem⟩] at h
    cases h
  · cases h

theorem setCategoryColumn_eq_ok {s after : Store} {id : Int} {column : String} {c : Cell}
    (h : s.setCategoryColumn id column c = .ok after) :
    after = { s with
      categories := s.categories.map fun r => if r.id == id then r.set column c else r } := by
  rw [Store.setCategoryColumn] at h
  split at h
  · cases h
  · cases h
    rfl

theorem setItemColumn_eq_ok {s after : Store} {id : Int} {column : String} {c : Cell}
    (h : s.setItemColumn id column c = .ok after) :
    overwriteFault? .items ItemRow.requiredColumns (s.items.map ItemRow.id) id column c = none ∧
      after = { s with
        items := s.items.map fun r => if r.id == id then r.set column c else r } := by
  rw [Store.setItemColumn] at h
  split at h
  · cases h
  · rename_i hfault
    cases h
    exact ⟨hfault, rfl⟩

/-- Only the id of one row changes. -/
theorem map_id_setItemColumn {s after : Store} {id : Int} {column : String} {c : Cell}
    (h : s.setItemColumn id column c = .ok after) :
    ∃ n, (n ∈ s.items.map ItemRow.id → n = id) ∧
      after.items.map ItemRow.id =
        (s.items.map ItemRow.id).map fun k => if k = id then n else k := by
  obtain ⟨hfault, rfl⟩ := setItemColumn_eq_ok h
  simp only [List.map_map]
  by_cases hcolumn : column = "id" ∧ id ∈ s.items.map ItemRow.id
  · obtain ⟨rfl, hid⟩ := hcolumn
    obtain ⟨n, hn, hfresh⟩ := overwriteFault?_id hid hfault
    refine ⟨n, hfresh, List.map_congr_left fun r _ => ?_⟩
    simp only [Function.comp_apply, beq_iff_eq]
    split
    · exact r.id_set_id hn
    · rfl
  · refine ⟨id, fun _ => rfl, List.map_congr_left fun r hr => ?_⟩
    simp only [Function.comp_apply, beq_iff_eq]
    split
    · rename_i hid
      have hother : column ≠ "id" := fun heq => hcolumn ⟨heq, hid ▸ List.mem_map_of_mem hr⟩
      rw [r.id_set hother, hid]
    · rfl

theorem ItemIdsDistinct.setItemColumn {s after : Store} (hs : s.ItemIdsDistinct) {id : Int}
    {column : String} {c : Cell} (h : s.setItemColumn id column c = .ok after) :
    after.ItemIdsDistinct := by
  obtain ⟨n, hfresh, hids⟩ := map_id_setItemColumn h
  rw [ItemIdsDistinct, hids]
  refine hs.map_on fun a ha b hb heq => ?_
  by_cases haid : a = id
  · by_cases hbid : b = id
    · rw [haid, hbid]
    · rw [if_pos haid, if_neg hbid] at heq
      exact absurd (heq.symm.trans (hfresh (heq ▸ hb))) hbid
  · by_cases hbid : b = id
    · rw [if_neg haid, if_pos hbid] at heq
      exact absurd (heq.trans (hfresh (heq ▸ ha))) haid
    · rw [if_neg haid, if_neg hbid] at heq
      exact heq

theorem ItemIdsDistinct.withForm {s : Store} (hs : s.ItemIdsDistinct) {shopId form : Int}
    {r : FormRecords} (h : s.Accepts shopId form r) :
    (s.withForm shopId form r).ItemIdsDistinct := by
  have hnew : (r.items.map (ItemRow.ofRecord shopId)).map ItemRow.id = r.items.map Item.id := by
    rw [List.map_map]
    rfl
  have hkept : ((s.withoutForm shopId form).items.map ItemRow.id).Nodup :=
    hs.sublist (List.filter_sublist.map ItemRow.id)
  change (((s.withoutForm shopId form).items ++ r.items.map (ItemRow.ofRecord shopId)).map
    ItemRow.id).Nodup
  rw [List.map_append, hnew, List.nodup_append]
  exact ⟨hkept, h.2.1, fun a ha b hb heq => h.2.2 b hb (heq ▸ ha)⟩

end Store

namespace Operation

/-- Whether an operation overwrites a column by hand. -/
def isPatch : Operation → Bool
  | .setCategoryColumn .. | .setItemColumn .. => true
  | _ => false

/-- The campaign that an operation creates, going by its outcome: the one that was asked
for, under the id that it was given. -/
def created? : Operation × Except Failure Answer → Option Campaign
  | (.createCampaign c, .ok (.campaign created)) => some { c with id := created.id }
  | _ => none

/-- What any operation does to the tables of forms and campaigns. -/
inductive Change (s : Store) : Operation → Except Failure Answer → Store → Prop where
  | created {c : Campaign} {shopId : Int} (hshop : c.shopId = some shopId) (hfits : c.Fits)
      (hname : Text.IsPlain c.name) (hroom : s.lastCampaignId < Store.maxId) :
      Change s (.createCampaign c) (.ok (.campaign { c with id := some (s.lastCampaignId + 1) }))
        (s.withCampaign shopId c)
  | replaced {op : Operation} {outcome : Except Failure Answer} {shopId form : Int}
      {r : FormRecords} (hnone : created? (op, outcome) = none) (hfits : r.Fits shopId form)
      (haccepts : s.Accepts shopId form r) : Change s op outcome (s.withForm shopId form r)
  | overwritten {op : Operation} {outcome : Except Failure Answer} {after : Store}
      (hpatch : op.isPatch = true) (hitems : s.ItemIdsDistinct → after.ItemIdsDistinct)
      (hcampaigns : s.SameCampaigns after) : Change s op outcome after
  | kept {op : Operation} {outcome : Except Failure Answer} {after : Store}
      (hnone : created? (op, outcome) = none) (hforms : s.SameForms after)
      (hcampaigns : s.SameCampaigns after) : Change s op outcome after

theorem created?_error (op : Operation) (e : Failure) : created? (op, .error e) = none := by
  cases op <;> rfl

theorem Step.change {s after : Store} {op : Operation} {outcome : Except Failure Answer}
    (hstep : Step s op outcome after) : Change s op outcome after := by
  cases hstep with
  | failed op e => exact .kept (created?_error op e) ⟨rfl, rfl⟩ ⟨rfl, rfl, rfl, rfl, rfl⟩
  | read hread a =>
    refine .kept ?_ ⟨rfl, rfl⟩ ⟨rfl, rfl, rfl, rfl, rfl⟩
    cases op with
    | createCampaign c => cases hread
    | _ => rfl
  | createdShootingCategory hinsert =>
    obtain ⟨-, -, -, -, rfl⟩ := Store.insertShootingCategory_eq_ok hinsert
    exact .kept rfl ⟨rfl, rfl⟩ ⟨rfl, rfl, rfl, rfl, rfl⟩
  | createdCampaign hshop hfits hname hroom => exact .created hshop hfits hname hroom
  | published hd hvalid hfits haccepts => exact .replaced rfl hfits haccepts
  | _ => exact .kept rfl ⟨rfl, rfl⟩ ⟨rfl, rfl, rfl, rfl, rfl⟩

theorem change_of_run (op : Operation) (s : Store) :
    ∃ after, (op.run (.ready s)).2 = .ready after ∧
      Change s op (op.run (.ready s)).1 after := by
  cases hop : op.isService with
  | true =>
    obtain ⟨after, hafter, hstep⟩ := step_of_run hop s
    exact ⟨after, hafter, hstep.change⟩
  | false =>
    rcases hrun : op.run (.ready s) with ⟨e | a, db⟩
    · have hsame := run_of_error (congrArg Prod.fst hrun)
      rw [hrun] at hsame
      exact ⟨s, hsame, .kept (created?_error op e) ⟨rfl, rfl⟩ ⟨rfl, rfl, rfl, rfl, rfl⟩⟩
    cases op with
    | replacePublishedForm shopId form categories items =>
      obtain ⟨u, middle, hreplace, hrest⟩ := Session.bind_eq_ok hrun
      cases hrest
      rcases Session.run_replacePublishedForm shopId form ⟨categories, items⟩ s with
        ⟨hdone, hfits, haccepts⟩ | ⟨e, hdone, -⟩ | ⟨table, hdone, -⟩
      · cases hreplace.symm.trans hdone
        exact ⟨_, rfl, .replaced rfl hfits haccepts⟩
      · cases hreplace.symm.trans hdone
      · cases hreplace.symm.trans hdone
    | setCategoryColumn id column value =>
      obtain ⟨u, middle, hset, hrest⟩ := Session.bind_eq_ok hrun
      cases hrest
      obtain ⟨-, after, hchanged, rfl⟩ := Session.attempt_eq_ok hset
      obtain rfl := Store.setCategoryColumn_eq_ok (eq_ok_of_map hchanged)
      exact ⟨_, rfl, .overwritten rfl (fun h => h) ⟨rfl, rfl, rfl, rfl, rfl⟩⟩
    | setItemColumn id column value =>
      obtain ⟨u, middle, hset, hrest⟩ := Session.bind_eq_ok hrun
      cases hrest
      obtain ⟨-, after, hchanged, rfl⟩ := Session.attempt_eq_ok hset
      have hset := eq_ok_of_map hchanged
      have hdistinct : s.ItemIdsDistinct → after.ItemIdsDistinct := fun h => h.setItemColumn hset
      obtain ⟨-, rfl⟩ := Store.setItemColumn_eq_ok hset
      exact ⟨_, rfl, .overwritten rfl hdistinct ⟨rfl, rfl, rfl, rfl, rfl⟩⟩
    | putDraftText shopId form text =>
      obtain ⟨u, middle, hput, hrest⟩ := Session.bind_eq_ok hrun
      obtain ⟨-, after, hchanged, rfl⟩ := Session.attempt_eq_ok hput
      cases hchanged
      cases hrest
      exact ⟨_, rfl, .kept rfl ⟨rfl, rfl⟩ ⟨rfl, rfl, rfl, rfl, rfl⟩⟩
    | _ => cases hop

/-- What every change keeps holds after every run. -/
theorem change_induction {I : List Operation → Store → Prop} (hempty : I [] .empty)
    (hchange : ∀ ops op s after, I ops s → (runAll ops fresh).2 = .ready s →
      Change s op (op.run (.ready s)).1 after → I (ops ++ [op]) after) (ops : List Operation) :
    ∃ s, (runAll ops fresh).2 = .ready s ∧ I ops s :=
  runAll_induction (fun op _ => change_of_run op) hempty hchange ops fun _ _ => trivial

end Operation

end StudioQuote
