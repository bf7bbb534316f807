import StudioQuote.Proofs.Draft.RoundTrip

/-!
# The stored drafts as a map

A draft is changed by loading it, changing it and storing it again under the key that it
names itself. Seen from outside the drafts are a map: what is read under a key is what the
successful operations for that key make of it, one after the other, and no other
operation has a part in it.
-/

namespace StudioQuote

open Json

/-! ## Changes of a draft -/

theorem filter_zipIdx_of_lt {α : Type} (as : List α) {n : Nat} {position : Int}
    (h : position < n) :
    ((as.zipIdx n).filter fun a => decide ((a.2 : Int) ≠ position)).map Prod.fst = as := by
  have hall : ∀ a ∈ as.zipIdx n, decide ((a.2 : Int) ≠ position) = true := by
    intro a ha
    have hle := List.le_snd_of_mem_zipIdx ha
    apply decide_eq_true
    omega
  rw [List.filter_eq_self.mpr hall, List.zipIdx_map_fst]

/-- Counting from any number, the elements at all positions but one. -/
theorem filter_zipIdx_add {α : Type} (as : List α) (n k : Nat) :
    ((as.zipIdx n).filter fun a => decide ((a.2 : Int) ≠ (n + k : Nat))).map Prod.fst =
      as.eraseIdx k := by
  induction as generalizing n k with
  | nil => rfl
  | cons a as ih =>
    cases k with
    | zero =>
      have hrest := filter_zipIdx_of_lt as (show (n : Int) < (n + 1 : Nat) by omega)
      simpa [List.zipIdx_cons] using hrest
    | succ k =>
      have hrest := ih (n + 1) k
      rw [Nat.add_right_comm n 1 k] at hrest
      rw [List.zipIdx_cons, List.filter_cons_of_pos (by simp; omega), List.map_cons,
        List.eraseIdx_cons_succ, ← Nat.add_assoc, hrest]

namespace Draft

/-- The draft with the steps at all other positions. -/
def withoutStep (position : Int) (d : Draft) : Draft :=
  { d with steps := (d.steps.zipIdx.filter fun s => decide ((s.2 : Int) ≠ position)).map Prod.fst }

theorem removeStep_eq_withoutStep (d : Draft) (position : Int) :
    d.removeStep position = d.withoutStep position := by
  rw [removeStep, withoutStep]
  by_cases hposition : 0 ≤ position
  · obtain ⟨k, rfl⟩ := Int.eq_ofNat_of_zero_le hposition
    have hsteps := filter_zipIdx_add d.steps 0 k
    rw [Nat.zero_add] at hsteps
    rw [if_pos hposition, hsteps, Int.toNat_natCast]
  · rw [if_neg hposition, filter_zipIdx_of_lt d.steps (by omega)]

/-- Whatever is added goes to the end. -/
theorem addStep_eq_ok {d added : Draft} {type : FormSection} {category : DraftCategory}
    {condition : Option DraftCondition} (h : d.addStep type category condition = .ok added) :
    added = d.append ⟨type, category, if type = .conditional then condition else none⟩ := by
  cases type with
  | trigger =>
    cases h
    rfl
  | commonFinal =>
    cases h
    rfl
  | conditional =>
    cases condition with
    | none => cases h
    | some condition => exact (addConditional_eq_ok h).2

end Draft

/-! ## The map -/

namespace Operation

/-- The key whose draft an operation changes. -/
def draftKey? : Operation → Option (Int × Int)
  | .saveDraft d => d.shopId.map (·, d.shootingCategoryId)
  | .addStep shopId form _ _ _ => some (shopId, form)
  | .removeStep shopId form _ => some (shopId, form)
  | .deleteDraft shopId form => some (shopId, form)
  | _ => none

/-- The draft that an operation makes of the one under its key. -/
def changed (newName : String) (draft : Option Draft) : Operation → Option Draft
  | .saveDraft d => some d
  | .addStep shopId form type category condition =>
    some ((draft.getD (Draft.empty form newName (some shopId))).append
      ⟨type, category, if type = .conditional then condition else none⟩)
  | .removeStep _ _ position => draft.map (Draft.withoutStep position)
  | .deleteDraft _ _ => none
  | _ => draft

end Operation

/-- What is known of a key: its draft, and the name that a new one would get. -/
structure DraftEntry where
  draft : Option Draft := none
  newName : String := ""

/-- The entry of a key after an operation, going by its outcome. -/
def DraftEntry.after (shopId form : Int) (e : DraftEntry) :
    Operation × Except Failure Answer → DraftEntry
  | (.createShootingCategory _ _, .ok (.shootingCategory c)) =>
    if c.shopId = some shopId ∧ c.id = some form then { e with newName := c.displayName } else e
  | (op, .ok _) =>
    if op.draftKey? = some (shopId, form) then { e with draft := op.changed e.newName e.draft }
    else e
  | (_, .error _) => e

namespace Operation

/-- The entry of a key after a run that begins with empty tables. -/
def draftEntry (ops : List Operation) (shopId form : Int) : DraftEntry :=
  (ops.zip (runAll ops fresh).1).foldl (DraftEntry.after shopId form) {}

theorem draftEntry_append (ops : List Operation) (op : Operation) {s : Store}
    (hs : (runAll ops fresh).2 = .ready s) (shopId form : Int) :
    draftEntry (ops ++ [op]) shopId form =
      (draftEntry ops shopId form).after shopId form (op, (op.run (.ready s)).1) := by
  rw [draftEntry, zip_runAll_append ops op hs, List.foldl_append]
  rfl

end Operation

namespace Store

/-- The name of a shooting category, or the empty text if there is none. -/
def displayName (s : Store) (shopId form : Int) : String :=
  (((s.shootingCategory? shopId form).map ShootingCategoryRow.record).map
    ShootingCategory.displayName).getD ""

/-- Ids are never taken twice, so a shooting category keeps its name. -/
theorem displayName_insertShootingCategory {s after : Store} {c : ShootingCategory}
    {draws : List Nat} {id : Int} (h : s.insertShootingCategory c draws = .ok (id, after))
    (shopId form : Int) :
    after.displayName shopId form =
      if c.shopId = some shopId ∧ id = form then c.displayName else s.displayName shopId form := by
  obtain ⟨-, owner, howner, hfresh, rfl⟩ := insertShootingCategory_eq_ok h
  rw [displayName, shootingCategory?, List.find?_append, howner]
  by_cases hkey : owner = shopId ∧ id = form
  · obtain ⟨rfl, rfl⟩ := hkey
    have hnone : (s.shootingCategories.find? fun r => r.shopId == owner && r.id == id) = none := by
      apply List.find?_eq_none.mpr
      intro r hr hmatch
      apply hfresh
      rw [Bool.and_eq_true, beq_iff_eq, beq_iff_eq] at hmatch
      exact hmatch.2 ▸ List.mem_map_of_mem hr
    simp [hnone, ShootingCategoryRow.record]
  · have hlast : (owner == shopId && id == form) = false := by simpa using hkey
    simp [hlast, hkey, displayName, shootingCategory?]

/-- Whether an entry is what a store has under a key. -/
structure HoldsEntry (s : Store) (shopId form : Int) (e : DraftEntry) : Prop where
  text : s.draftText? shopId form = e.draft.map Draft.toText
  newName : s.displayName shopId form = e.newName
  named : ∀ d, e.draft = some d → d.shopId = some shopId ∧ d.shootingCategoryId = form
  plain : ∀ d, e.draft = some d → d.toJson.HasPlainTexts

theorem holdsEntry_empty (shopId form : Int) : empty.HoldsEntry shopId form {} where
  text := rfl
  newName := rfl
  named _ h := nomatch h
  plain _ h := nomatch h

end Store

namespace Session

theorem run_getShootingCategory (shopId form : Int) (s : Store) :
    (getShootingCategory shopId form).run (.ready s) =
      (if [shopId, form].all fitsInt64 then
        .ok ((s.shootingCategory? shopId form).map ShootingCategoryRow.record)
      else .error .integerTooWide, .ready s) :=
  run_query_ready ..

theorem run_newDraftName {shopId form : Int} (hfits : [shopId, form].all fitsInt64 = true)
    (s : Store) :
    (newDraftName shopId form "").run (.ready s) = (.ok (s.displayName shopId form), .ready s) := by
  have hfound := run_getShootingCategory shopId form s
  rw [if_pos hfits] at hfound
  rw [newDraftName, if_neg (by simp), run_bind_ok hfound]
  rfl

end Session

namespace Store.HoldsEntry

variable {s : Store} {shopId form : Int} {e : DraftEntry}

theorem congr (h : s.HoldsEntry shopId form e) {after : Store} (hdrafts : after.drafts = s.drafts)
    (hcategories : after.shootingCategories = s.shootingCategories) :
    after.HoldsEntry shopId form e := by
  obtain ⟨text, newName, named, plain⟩ := h
  rw [draftText?, ← hdrafts] at text
  rw [displayName, shootingCategory?, ← hcategories] at newName
  exact ⟨text, newName, named, plain⟩

theorem storedDraft_eq (h : s.HoldsEntry shopId form e) :
    s.storedDraft shopId form =
      match e.draft with
      | none => .ok none
      | some d =>
        if d.toJson.HasShortIntegers then .ok (some d)
        else .problem (.str d.toText) .invalidJson := by
  rw [storedDraft, h.text]
  cases hdraft : e.draft with
  | none => rfl
  | some d =>
    change some <$> Draft.ofText d.toText = _
    rw [Draft.ofText_toText_of_hasPlainTexts (h.plain d hdraft)]
    dsimp only
    split
    · rfl
    · rfl

/-- Whatever is read is the draft of the entry. -/
theorem eq_of_storedDraft (h : s.HoldsEntry shopId form e) {draft : Option Draft}
    (hread : s.storedDraft shopId form = .ok draft) : e.draft = draft := by
  rw [h.storedDraft_eq] at hread
  cases hdraft : e.draft with
  | none =>
    rw [hdraft] at hread
    cases hread
    rfl
  | some d =>
    rw [hdraft] at hread
    dsimp only at hread
    split at hread
    · cases hread
      rfl
    · cases hread

/-- A step is added to the draft of the entry, or to a new one. -/
theorem eq_of_loadOrInitDraft (h : s.HoldsEntry shopId form e) {old : Draft}
    (hload : (Session.loadOrInitDraft shopId form "").run (.ready s) = (.ok old, .ready s)) :
    old = e.draft.getD (Draft.empty form e.newName (some shopId)) := by
  obtain ⟨draft, middle, hget, hrest⟩ := Session.bind_eq_ok hload
  obtain ⟨hfits, hstored, rfl⟩ := Session.getDraft_eq_ok hget
  rw [h.eq_of_storedDraft hstored]
  cases draft with
  | some d =>
    cases hrest
    rfl
  | none =>
    obtain ⟨name, middle, hname, hrest⟩ := Session.bind_eq_ok hrest
    rw [Session.run_newDraftName hfits, h.newName] at hname
    cases hname
    cases hrest
    rfl

theorem deleteDraft (h : s.HoldsEntry shopId form e) (owner category : Int) :
    (s.deleteDraft owner category).HoldsEntry shopId form
      (if shopId = owner ∧ form = category then { e with draft := none } else e) := by
  have htext := draftText?_deleteDraft s owner category shopId form
  by_cases hkey : shopId = owner ∧ form = category
  · rw [if_pos hkey] at htext ⊢
    constructor
    · exact htext
    · exact h.newName
    · intro d hd
      cases hd
    · intro d hd
      cases hd
  · rw [if_neg hkey] at htext ⊢
    exact ⟨htext.trans h.text, h.newName, h.named, h.plain⟩

/-- A draft of plain texts that is put under its own key. -/
theorem putDraft (h : s.HoldsEntry shopId form e) {d : Draft} {owner : Int}
    (howner : d.shopId = some owner) (hplain : d.toJson.HasPlainTexts) :
    (s.putDraftText owner d.shootingCategoryId d.toText).HoldsEntry shopId form
      (if shopId = owner ∧ form = d.shootingCategoryId then { e with draft := some d } else e) := by
  have htext := draftText?_putDraftText s owner d.shootingCategoryId d.toText shopId form
  by_cases hkey : shopId = owner ∧ form = d.shootingCategoryId
  · rw [if_pos hkey] at htext ⊢
    obtain ⟨rfl, rfl⟩ := hkey
    constructor
    · exact htext
    · exact h.newName
    · rintro _ ⟨rfl⟩
      exact ⟨howner, rfl⟩
    · rintro _ ⟨rfl⟩
      exact hplain
  · rw [if_neg hkey] at htext ⊢
    exact ⟨htext.trans h.text, h.newName, h.named, h.plain⟩

/-- The name for new drafts is that of the shooting category, once there is one. -/
theorem insertShootingCategory (h : s.HoldsEntry shopId form e) {c : ShootingCategory}
    {draws : List Nat} {id : Int} {after : Store}
    (hinsert : s.insertShootingCategory c draws = .ok (id, after)) :
    after.HoldsEntry shopId form
      (if c.shopId = some shopId ∧ id = form then { e with newName := c.displayName } else e) := by
  have hname := displayName_insertShootingCategory hinsert shopId form
  have htext : after.draftText? shopId form = s.draftText? shopId form := by
    obtain ⟨-, owner, -, -, rfl⟩ := insertShootingCategory_eq_ok hinsert
    rfl
  by_cases hkey : c.shopId = some shopId ∧ id = form
  · rw [if_pos hkey] at hname ⊢
    exact ⟨htext.trans h.text, hname, h.named, h.plain⟩
  · rw [if_neg hkey] at hname ⊢
    exact ⟨htext.trans h.text, hname.trans h.newName, h.named, h.plain⟩

end Store.HoldsEntry

/-! ## Steps and runs -/

theorem DraftEntry.after_error (e : DraftEntry) (shopId form : Int) (op : Operation)
    (failure : Failure) : e.after shopId form (op, .error failure) = e := by
  cases op with
  | _ => rfl

theorem DraftEntry.after_of_draftKey? {op : Operation} {owner category : Int}
    (hkey : op.draftKey? = some (owner, category)) (e : DraftEntry) (shopId form : Int)
    (a : Answer) :
    e.after shopId form (op, .ok a) =
      if shopId = owner ∧ form = category then { e with draft := op.changed e.newName e.draft }
      else e := by
  have hafter : e.after shopId form (op, .ok a) =
      if op.draftKey? = some (shopId, form) then { e with draft := op.changed e.newName e.draft }
      else e := by
    cases op with
    | createShootingCategory c => cases hkey
    | _ => rfl
  have hsame : op.draftKey? = some (shopId, form) ↔ shopId = owner ∧ form = category := by
    rw [hkey, Option.some.injEq, Prod.mk.injEq]
    exact and_congr eq_comm eq_comm
  rw [hafter, if_congr hsame rfl rfl]

namespace Store.HoldsEntry

variable {s : Store} {entries : Int → Int → DraftEntry}

/-- The draft to which a step of a key is added names the key too. -/
theorem named_getD {shopId form : Int} {e : DraftEntry} (h : s.HoldsEntry shopId form e) :
    (e.draft.getD (Draft.empty form e.newName (some shopId))).shopId = some shopId ∧
      (e.draft.getD (Draft.empty form e.newName (some shopId))).shootingCategoryId = form := by
  cases hdraft : e.draft with
  | none => exact ⟨rfl, rfl⟩
  | some d => exact h.named d hdraft

/-- An operation for a key stores what it makes of the draft there. -/
theorem after_of_put (h : ∀ shopId form, s.HoldsEntry shopId form (entries shopId form))
    {op : Operation} {d : Draft} {owner category : Int}
    (hkey : op.draftKey? = some (owner, category)) (hplain : d.toJson.HasPlainTexts)
    (howner : d.shopId = some owner) (hcategory : d.shootingCategoryId = category)
    (hchanged : op.changed (entries owner category).newName (entries owner category).draft = some d)
    (a : Answer) (shopId form : Int) :
    (s.putDraftText owner d.shootingCategoryId d.toText).HoldsEntry shopId form
      ((entries shopId form).after shopId form (op, .ok a)) := by
  subst hcategory
  have hput := (h shopId form).putDraft howner hplain
  rw [DraftEntry.after_of_draftKey? hkey]
  by_cases hsame : shopId = owner ∧ form = d.shootingCategoryId
  · obtain ⟨rfl, rfl⟩ := hsame
    rw [if_pos ⟨rfl, rfl⟩] at hput ⊢
    rw [hchanged]
    exact hput
  · rw [if_neg hsame] at hput ⊢
    exact hput

theorem after_addStep (h : ∀ shopId form, s.HoldsEntry shopId form (entries shopId form))
    {owner category : Int} {type : FormSection} {added : DraftCategory}
    {condition : Option DraftCondition} {old d : Draft} {written : Int}
    (hold : (Session.loadOrInitDraft owner category "").run (.ready s) = (.ok old, .ready s))
    (hadd : old.addStep type added condition = .ok d) (hshop : d.shopId = some written)
    (hplain : d.toJson.HasPlainTexts) (shopId form : Int) :
    (s.putDraftText written d.shootingCategoryId d.toText).HoldsEntry shopId form
      ((entries shopId form).after shopId form
        (.addStep owner category type added condition, .ok (.draft d))) := by
  have hdraft := (h owner category).eq_of_loadOrInitDraft hold
  obtain ⟨hnamed, hcategory⟩ := (h owner category).named_getD
  rw [← hdraft] at hnamed hcategory
  obtain rfl := Draft.addStep_eq_ok hadd
  obtain rfl := Option.some.inj (hshop.symm.trans hnamed)
  apply after_of_put h rfl hplain hshop hcategory
  rw [Operation.changed, ← hdraft]

theorem after_removeStep (h : ∀ shopId form, s.HoldsEntry shopId form (entries shopId form))
    {owner category position : Int} {old : Draft} {written : Int}
    (hold : s.storedDraft owner category = .ok (some old))
    (hshop : (old.removeStep position).shopId = some written)
    (hplain : (old.removeStep position).toJson.HasPlainTexts) (shopId form : Int) :
    (s.putDraftText written (old.removeStep position).shootingCategoryId
      (old.removeStep position).toText).HoldsEntry shopId form
        ((entries shopId form).after shopId form
          (.removeStep owner category position, .ok (.draft (old.removeStep position)))) := by
  have hdraft := (h owner category).eq_of_storedDraft hold
  obtain ⟨hnamed, hcategory⟩ := (h owner category).named old hdraft
  rw [Draft.removeStep_eq_withoutStep] at hshop hplain ⊢
  obtain rfl := Option.some.inj (hshop.symm.trans hnamed)
  apply after_of_put h rfl hplain hshop hcategory
  rw [Operation.changed, hdraft, Option.map_some]

end Store.HoldsEntry

namespace Operation

/-- What one step of the service makes of every entry. -/
theorem Step.holdsEntry {s after : Store} {op : Operation} {outcome : Except Failure Answer}
    (hstep : Step s op outcome after) {entries : Int → Int → DraftEntry}
    (h : ∀ shopId form, s.HoldsEntry shopId form (entries shopId form)) (shopId form : Int) :
    after.HoldsEntry shopId form ((entries shopId form).after shopId form (op, outcome)) := by
  have hentry := h shopId form
  cases hstep with
  | failed e =>
    rw [DraftEntry.after_error]
    exact hentry
  | read hread a =>
    cases op with
    | saveDraft => cases hread
    | addStep => cases hread
    | removeStep => cases hread
    | deleteDraft => cases hread
    | createShootingCategory => cases hread
    | _ => exact hentry
  | createdShootingCategory hinsert =>
    have hinserted := hentry.insertShootingCategory hinsert
    change after.HoldsEntry shopId form (if _ ∧ some _ = some form then _ else _)
    rw [if_congr (and_congr_right fun _ => Option.some_inj) rfl rfl]
    exact hinserted
  | createdCampaign hshop => exact hentry.congr rfl rfl
  | deletedDraft owner category =>
    rw [DraftEntry.after_of_draftKey? rfl]
    exact hentry.deleteDraft owner category
  | savedDraft hshop hplain =>
    apply Store.HoldsEntry.after_of_put h _ hplain hshop rfl rfl
    rw [draftKey?, hshop]
    rfl
  | addedStep hold hadd hshop hplain =>
    exact Store.HoldsEntry.after_addStep h hold hadd hshop hplain _ _
  | removedStep hold hshop hplain =>
    exact Store.HoldsEntry.after_removeStep h hold hshop hplain _ _
  | published hd hvalid hfits haccepts => exact hentry.congr rfl rfl

/-- After every run each key has what the operations of the run made of it. -/
theorem holdsEntry_draftEntry (ops : List Operation) (hops : ∀ op ∈ ops, op.isService = true) :
    ∃ s, (runAll ops fresh).2 = .ready s ∧
      ∀ shopId form, s.HoldsEntry shopId form (draftEntry ops shopId form) := by
  refine run_induction
    (I := fun ops s => ∀ shopId form, s.HoldsEntry shopId form (draftEntry ops shopId form))
    Store.holdsEntry_empty ?_ ops hops
  intro ops op s after ih hs hstep shopId form
  rw [draftEntry_append ops op hs]
  exact hstep.holdsEntry ih shopId form

/-- In every run of the service the drafts are a map. What is read under a key
is what the successful operations for this key make of its draft: storing it, adding a step
at its end or at that of a new draft, taking a step away, or deleting it. A new draft has the
name of the shooting category that stands under the key at that moment. The draft names its
key, and it cannot be read while an integer in it is too long. -/
theorem drafts_refine_map (ops : List Operation) (hops : ∀ op ∈ ops, op.isService = true)
    (shopId form : Int) :
    ((getDraft shopId form).run (runAll ops fresh).2).1 =
      (if [shopId, form].all fitsInt64 then
        match (draftEntry ops shopId form).draft with
        | none => .ok (.foundDraft none)
        | some d =>
          if d.toJson.HasShortIntegers then .ok (.foundDraft (some d))
          else .error (.unreadable [Problem.of (.str d.toText) .invalidJson])
      else .error .integerTooWide) ∧
    (∀ d, (draftEntry ops shopId form).draft = some d →
      d.shopId = some shopId ∧ d.shootingCategoryId = form) ∧
    ∀ found, ((getShootingCategory shopId form).run (runAll ops fresh).2).1 =
        .ok (.foundShootingCategory found) →
      (draftEntry ops shopId form).newName =
        (found.map ShootingCategory.displayName).getD "" := by
  obtain ⟨s, hs, hentries⟩ := holdsEntry_draftEntry ops hops
  have hentry := hentries shopId form
  rw [hs]
  refine ⟨?_, hentry.named, ?_⟩
  · rw [Operation.run, perform, Session.run_map, Session.run_getDraft, hentry.storedDraft_eq]
    by_cases hfits : [shopId, form].all fitsInt64 = true
    · rw [if_pos hfits, if_pos hfits]
      cases (draftEntry ops shopId form).draft with
      | none => rfl
      | some d =>
        by_cases hshort : d.toJson.HasShortIntegers
        · simp only [if_pos hshort]
          rfl
        · simp only [if_neg hshort]
          rfl
    · rw [if_neg hfits, if_neg hfits]
      rfl
  · intro found hfound
    rw [Operation.run, perform, Session.run_map, Session.run_getShootingCategory] at hfound
    by_cases hfits : [shopId, form].all fitsInt64 = true
    · rw [if_pos hfits] at hfound
      cases hfound
      exact hentry.newName.symm
    · rw [if_neg hfits] at hfound
      cases hfound

/-- A location to begin a form for portraits with. -/
def locationStep : DraftStep where
  type := .trigger
  category := ⟨10, "location", "Location", none, .plan, [⟨100, "Studio", 5000, none⟩]⟩

def studioCategory : ShootingCategory :=
  { id := some 7, shopId := some 1, name := "portrait", displayName := "Portrait" }

def weddingDraft : Draft :=
  { shopId := some 1, shootingCategoryId := 8, shootingCategoryName := "Wedding" }

/-- A form for portraits that is begun by its first step, and one for weddings. -/
def portraitEdits : List Operation :=
  [createShootingCategory studioCategory [],
    addStep 1 7 .trigger locationStep.category none,
    saveDraft weddingDraft,
    removeStep 1 9 0, deleteDraft 1 8]

/-- The tables after the shooting category is created. -/
def studioStore : Store :=
  { shootingCategories := [⟨7, 1, "portrait", "Portrait", 0, true⟩] }

def locationDraft : Draft :=
  { shopId := some 1, shootingCategoryId := 7, shootingCategoryName := "Portrait"
    steps := [locationStep] }

theorem run_addStep_locationStep :
    (addStep 1 7 .trigger locationStep.category none).run (.ready studioStore) =
      (.ok (.draft locationDraft),
        .ready (studioStore.putDraftText 1 7 locationDraft.toText)) := by
  have hload : (Session.loadOrInitDraft 1 7 "").run (.ready studioStore) =
      (.ok (Draft.empty 7 "Portrait" (some 1)), .ready studioStore) := rfl
  have hadd : (Draft.empty 7 "Portrait" (some 1)).addStep .trigger locationStep.category none =
      .ok locationDraft := rfl
  have hrun := Session.run_addStep_ok hload hadd rfl (by decide)
    (hasPlainTexts_of_isUnmarked (by decide))
  rw [run, perform, Session.run_map, hrun]
  rfl

/-- The new draft has the name of its shooting category, and is left alone by what is done
to others. -/
theorem portrait_draft_is_read :
    ((getDraft 1 7).run (runAll portraitEdits fresh).2).1 =
      .ok (.foundDraft (some
        { shopId := some 1, shootingCategoryId := 7, shootingCategoryName := "Portrait"
          steps := [locationStep] })) := by
  have hread := (drafts_refine_map portraitEdits (by simp [portraitEdits, isService]) 1 7).1
  have hdraft : (draftEntry portraitEdits 1 7).draft = some
      { shopId := some 1, shootingCategoryId := 7, shootingCategoryName := "Portrait"
        steps := [locationStep] } := by
    have hcreate : (createShootingCategory studioCategory []).run fresh =
        (.ok (.shootingCategory studioCategory), .ready studioStore) := rfl
    have hwedding := run_saveDraft_ok (d := weddingDraft) rfl (by decide)
      (hasPlainTexts_of_isUnmarked (by decide))
      (studioStore.putDraftText 1 7 locationDraft.toText)
    rw [draftEntry, portraitEdits, runAll_cons, hcreate, runAll_cons, run_addStep_locationStep,
      runAll_cons, hwedding]
    rfl
  rw [hdraft, if_pos (by decide)] at hread
  dsimp only at hread
  rw [if_pos (hasShortIntegers_of_fits (by decide))] at hread
  exact hread

theorem draft_draftEntry_saveDraft {d : Draft} {shopId : Int} (hshop : d.shopId = some shopId)
    (hfits : [shopId, d.shootingCategoryId].all fitsInt64 = true)
    (hplain : d.toJson.HasPlainTexts) :
    (draftEntry [saveDraft d] shopId d.shootingCategoryId).draft = some d := by
  have hsave := run_saveDraft_ok hshop hfits hplain .empty
  have hkey : (saveDraft d).draftKey? = some (shopId, d.shootingCategoryId) := by
    rw [draftKey?, hshop]
    rfl
  have hentry := draftEntry_append [] (saveDraft d) (s := .empty) rfl shopId d.shootingCategoryId
  rw [List.nil_append, hsave] at hentry
  rw [hentry]
  exact (congrArg DraftEntry.draft (DraftEntry.after_of_draftKey? hkey ..)).trans
    (congrArg DraftEntry.draft (if_pos ⟨rfl, rfl⟩))

theorem draft_draftEntry_pricedDraft (price : Int) :
    (draftEntry [saveDraft (Draft.pricedDraft price)] 1 7).draft =
      some (Draft.pricedDraft price) :=
  draft_draftEntry_saveDraft (d := Draft.pricedDraft price) rfl rfl
    (Draft.hasPlainTexts_pricedDraft price)

theorem getDraft_pricedDraft {price : Int} (hlong : ¬ Number.IsShort price) :
    ((getDraft 1 7).run (runAll [saveDraft (Draft.pricedDraft price)] fresh).2).1 =
      .error (.unreadable
        [Problem.of (.str (Draft.pricedDraft price).toText) .invalidJson]) := by
  have hlong : ¬ (Draft.pricedDraft price).toJson.HasShortIntegers :=
    fun hshort => hlong (hshort _ (Draft.mem_integers_pricedDraft price))
  have hrun := runAll_saveDraft_getDraft (Draft.hasPlainTexts_pricedDraft price) rfl rfl .empty
  rw [if_neg hlong, runAll_cons, runAll_cons] at hrun
  exact (List.cons.inj (List.cons.inj hrun).2).1

/-- A price of five thousand digits is stored, but the draft is not read again. -/
theorem long_price_is_not_read :
    let ops := [saveDraft (Draft.pricedDraft (10 ^ 4999))]
    (draftEntry ops 1 7).draft = some (Draft.pricedDraft (10 ^ 4999)) ∧
      ((getDraft 1 7).run (runAll ops fresh).2).1 ≠
        .ok (.foundDraft (some (Draft.pricedDraft (10 ^ 4999)))) := by
  intro ops
  refine ⟨draft_draftEntry_pricedDraft _, fun hread => ?_⟩
  have hrefused := getDraft_pricedDraft (not_isShort_pow (k := 4999) (by decide))
  cases hrefused.symm.trans hread

end Operation

end StudioQuote
