import Mathlib.Data.List.Nodup
import StudioQuote.Proofs.Service.DraftMap

/-!
# Shooting categories

The rows of shooting categories are those of the categories that were created, in order, and
all shops share one range of ids. A new category gets an id that is free, which is drawn when
the last one is taken, and an id that is taken is refused. So a category is found by its shop
under its id and by no other shop, and a shop lists its active categories by position. What
does not fit into the store is refused before the tables are looked at.
-/

namespace StudioQuote

open Number

theorem ShootingCategory.Fits.id_le {c : ShootingCategory} (h : c.Fits) {id : Int}
    (hid : c.id = some id) : id ≤ Store.maxId := by
  have hfits := (all_parameters_iff.mp h.integers).1 id hid
  rw [fitsInt64, Bool.and_eq_true, decide_eq_true_iff, decide_eq_true_iff] at hfits
  exact Int.le_sub_one_of_lt hfits.2

namespace Store

/-! ## Free ids -/

theorem drawnId_le (draw : Nat) : drawnId draw ≤ maxId := by
  have hlt := Nat.mod_lt draw (Nat.two_pow_pos 62)
  rw [drawnId, maxId]
  omega

section NextId

variable {ids : List Int} {draws : List Nat} {id : Int}

theorem nextId?_of_room {n : Int} (hmax : ids.max? = some n) (hroom : n < maxId) :
    nextId? ids draws = some (n + 1) := by
  rw [nextId?, hmax]
  exact if_pos hroom

theorem nextId?_of_full {n : Int} (hmax : ids.max? = some n) (hfull : ¬ n < maxId) :
    nextId? ids draws = (draws.map drawnId).find? (!ids.contains ·) := by
  rw [nextId?, hmax]
  exact if_neg hfull

theorem nextId?_not_mem (h : nextId? ids draws = some id) : id ∉ ids := by
  cases hmax : ids.max? with
  | none =>
    rw [List.max?_eq_none_iff.mp hmax]
    exact List.not_mem_nil
  | some n =>
    by_cases hroom : n < maxId
    · rw [nextId?_of_room hmax hroom] at h
      cases h
      intro hmem
      have hle := (List.max?_eq_some_iff.mp hmax).2 (n + 1) hmem
      omega
    · rw [nextId?_of_full hmax hroom] at h
      have hfound := List.find?_some h
      simpa using hfound

theorem nextId?_le (h : nextId? ids draws = some id) : id ≤ maxId := by
  cases hmax : ids.max? with
  | none =>
    rw [nextId?, hmax] at h
    cases h
    decide
  | some n =>
    by_cases hroom : n < maxId
    · rw [nextId?_of_room hmax hroom] at h
      cases h
      exact hroom
    · rw [nextId?_of_full hmax hroom] at h
      obtain ⟨draw, -, rfl⟩ := List.mem_map.mp (List.mem_of_find?_eq_some h)
      exact drawnId_le draw

/-- There is a next id unless the last one is taken and all that are drawn are. -/
theorem nextId?_eq_none_iff (hbounded : ∀ id ∈ ids, id ≤ maxId) :
    nextId? ids draws = none ↔ maxId ∈ ids ∧ ∀ draw ∈ draws, drawnId draw ∈ ids := by
  cases hmax : ids.max? with
  | none =>
    have hempty := List.max?_eq_none_iff.mp hmax
    subst hempty
    simp [nextId?]
  | some n =>
    obtain ⟨hmem, hle⟩ := List.max?_eq_some_iff.mp hmax
    by_cases hroom : n < maxId
    · rw [nextId?_of_room hmax hroom]
      refine iff_of_false (Option.some_ne_none _) fun h => ?_
      have hlast := hle maxId h.1
      omega
    · obtain rfl : n = maxId := Int.le_antisymm (hbounded n hmem) (Int.not_lt.mp hroom)
      rw [nextId?_of_full hmax hroom, List.find?_eq_none]
      simp [hmem]

end NextId

section Insert

variable {s : Store} {c : ShootingCategory} {draws : List Nat} {id : Int}

theorem insertShootingCategory_of_free {shopId : Int} (hshop : c.shopId = some shopId)
    (hid : c.id.or (nextId? (s.shootingCategories.map ShootingCategoryRow.id) draws) = some id)
    (hfree : id ∉ s.shootingCategories.map ShootingCategoryRow.id) :
    s.insertShootingCategory c draws = .ok (id, { s with
      shootingCategories := s.shootingCategories ++
        [⟨id, shopId, c.name, c.displayName, c.sortOrder, c.isActive⟩] }) := by
  rw [insertShootingCategory, hid, hshop]
  exact if_neg fun htaken => hfree (List.contains_iff_mem.mp htaken)

theorem insertShootingCategory_of_taken (hid : c.id = some id)
    (htaken : id ∈ s.shootingCategories.map ShootingCategoryRow.id) (draws : List Nat) :
    ∃ fault, s.insertShootingCategory c draws = .error fault := by
  rw [insertShootingCategory, hid]
  cases c.shopId with
  | none => exact ⟨_, rfl⟩
  | some shopId => exact ⟨_, if_pos (List.contains_iff_mem.mpr htaken)⟩

theorem insertShootingCategory_of_full (hid : c.id = none)
    (hfull : nextId? (s.shootingCategories.map ShootingCategoryRow.id) draws = none) :
    s.insertShootingCategory c draws = .error .full := by
  rw [insertShootingCategory, hid, Option.none_or, hfull]

end Insert

end Store

/-! ## Order of rows -/

namespace ShootingCategoryRow

/-- Rows by position, and of rows with one position by id. -/
def le (a b : ShootingCategoryRow) : Bool :=
  ((compare a.sortOrder b.sortOrder).then (compare a.id b.id)).isLE

theorem le_iff {a b : ShootingCategoryRow} :
    le a b = true ↔ a.sortOrder < b.sortOrder ∨ a.sortOrder = b.sortOrder ∧ a.id ≤ b.id :=
  isLE_compare_then

theorem le_trans (a b c : ShootingCategoryRow) (hab : le a b = true) (hbc : le b c = true) :
    le a c = true := by
  rw [le_iff] at hab hbc ⊢
  omega

theorem le_total (a b : ShootingCategoryRow) : (le a b || le b a) = true := by
  rw [Bool.or_eq_true_iff, le_iff, le_iff]
  omega

end ShootingCategoryRow

/-! ## Rows of the categories that were created -/

namespace Store

/-- Whether the table holds the given shooting categories and no other, each under an id of
its own. -/
structure HoldsShootingCategories (s : Store) (cs : List ShootingCategory) : Prop where
  rows : s.shootingCategories.map ShootingCategoryRow.record = cs
  distinct : (s.shootingCategories.map ShootingCategoryRow.id).Nodup
  bounded : ∀ id ∈ s.shootingCategories.map ShootingCategoryRow.id, id ≤ maxId

namespace HoldsShootingCategories

variable {s : Store} {cs : List ShootingCategory}

theorem congr (h : s.HoldsShootingCategories cs) {after : Store}
    (hsame : after.shootingCategories = s.shootingCategories) :
    after.HoldsShootingCategories cs := by
  obtain ⟨rows, distinct, bounded⟩ := h
  rw [← hsame] at rows distinct bounded
  exact ⟨rows, distinct, bounded⟩

theorem insert (h : s.HoldsShootingCategories cs) {c : ShootingCategory} {draws : List Nat}
    {id : Int} {after : Store} (hinsert : s.insertShootingCategory c draws = .ok (id, after))
    (hfits : c.Fits) : after.HoldsShootingCategories (cs ++ [{ c with id := some id }]) := by
  obtain ⟨hid, shopId, hshop, hfree, rfl⟩ := insertShootingCategory_eq_ok hinsert
  have hle : id ≤ maxId := by
    rcases Option.or_eq_some_iff.mp hid with hgiven | ⟨-, hnext⟩
    · exact hfits.id_le hgiven
    · exact nextId?_le hnext
  constructor
  · rw [List.map_append, h.rows, List.map_singleton, hshop]
    rfl
  · rw [List.map_append, List.nodup_append]
    refine ⟨h.distinct, List.nodup_singleton id, ?_⟩
    rintro a ha b hb rfl
    rw [List.mem_singleton.mp hb] at ha
    exact hfree ha
  · rw [List.map_append, List.forall_mem_append]
    exact ⟨h.bounded, List.forall_mem_singleton.mpr hle⟩

theorem mem_ids_iff (h : s.HoldsShootingCategories cs) {id : Int} :
    id ∈ s.shootingCategories.map ShootingCategoryRow.id ↔ ∃ c ∈ cs, c.id = some id := by
  rw [← h.rows, List.mem_map]
  constructor
  · rintro ⟨r, hr, rfl⟩
    exact ⟨r.record, List.mem_map_of_mem hr, rfl⟩
  · rintro ⟨c, hc, hid⟩
    obtain ⟨r, hr, rfl⟩ := List.mem_map.mp hc
    exact ⟨r, hr, Option.some.inj hid⟩

theorem nodup_map_id (h : s.HoldsShootingCategories cs) :
    (cs.map ShootingCategory.id).Nodup := by
  have hids : cs.map ShootingCategory.id =
      (s.shootingCategories.map ShootingCategoryRow.id).map some := by
    rw [← h.rows, List.map_map, List.map_map]
    rfl
  rw [hids]
  exact h.distinct.map fun _ _ => Option.some.inj

/-- Ids are distinct, so what is found under a key is the one category that has it. -/
theorem shootingCategory?_eq_some_iff (h : s.HoldsShootingCategories cs) {shopId id : Int}
    {c : ShootingCategory} :
    (s.shootingCategory? shopId id).map ShootingCategoryRow.record = some c ↔
      c ∈ cs ∧ c.shopId = some shopId ∧ c.id = some id := by
  rw [shootingCategory?, ← h.rows, Option.map_eq_some_iff]
  constructor
  · rintro ⟨r, hfind, rfl⟩
    have hkey := List.find?_some hfind
    rw [Bool.and_eq_true, beq_iff_eq, beq_iff_eq] at hkey
    exact ⟨List.mem_map_of_mem (List.mem_of_find?_eq_some hfind), congrArg some hkey.1,
      congrArg some hkey.2⟩
  · rintro ⟨hc, hshop, hid⟩
    obtain ⟨r, hr, rfl⟩ := List.mem_map.mp hc
    obtain rfl : r.shopId = shopId := Option.some.inj hshop
    obtain rfl : r.id = id := Option.some.inj hid
    refine ⟨r, ?_, rfl⟩
    cases hfind : s.shootingCategories.find? fun q => q.shopId == r.shopId && q.id == r.id with
    | none =>
      have hmissing := List.find?_eq_none.mp hfind r hr
      simp at hmissing
    | some q =>
      have hkey := List.find?_some hfind
      rw [Bool.and_eq_true, beq_iff_eq, beq_iff_eq] at hkey
      rw [List.inj_on_of_nodup_map h.distinct (List.mem_of_find?_eq_some hfind) hr hkey.2]

theorem perm_shootingCategoriesOf (h : s.HoldsShootingCategories cs) (shopId : Int) :
    ((s.shootingCategoriesOf shopId).map ShootingCategoryRow.record).Perm
      (cs.filter fun c => c.shopId == some shopId && c.isActive) := by
  rw [← h.rows, List.filter_map]
  exact (List.mergeSort_perm _ _).map ShootingCategoryRow.record

theorem pairwise_shootingCategoriesOf (s : Store) (shopId : Int) :
    ((s.shootingCategoriesOf shopId).map ShootingCategoryRow.record).Pairwise
      fun a b => a.sortOrder ≤ b.sortOrder := by
  rw [List.pairwise_map]
  refine (List.pairwise_mergeSort ShootingCategoryRow.le_trans ShootingCategoryRow.le_total
    (s.shootingCategories.filter fun r => r.shopId == shopId && r.isActive)).imp ?_
  intro a b hle
  rcases ShootingCategoryRow.le_iff.mp hle with hlt | ⟨heq, -⟩
  · exact Int.le_of_lt hlt
  · exact Int.le_of_eq heq

end HoldsShootingCategories

end Store

/-! ## Operations -/

namespace Operation

/-- The shooting category that an operation creates, going by its outcome: the one that was
asked for, under the id that it was given. -/
def createdShootingCategory? : Operation × Except Failure Answer → Option ShootingCategory
  | (.createShootingCategory c _, .ok (.shootingCategory created)) =>
    some { c with id := created.id }
  | _ => none

/-- The shooting categories that a run creates, in order. -/
def createdShootingCategories (ops : List Operation) : List ShootingCategory :=
  (ops.zip (runAll ops fresh).1).filterMap createdShootingCategory?

theorem createdShootingCategories_append (ops : List Operation) (op : Operation) {s : Store}
    (hs : (runAll ops fresh).2 = .ready s) :
    createdShootingCategories (ops ++ [op]) = createdShootingCategories ops ++
      (createdShootingCategory? (op, (op.run (.ready s)).1)).toList := by
  rw [createdShootingCategories, zip_runAll_append ops op hs, List.filterMap_append,
    createdShootingCategories]
  cases hcreated : createdShootingCategory? (op, (op.run (.ready s)).1) with
  | none => simp [hcreated]
  | some c => simp [hcreated]

/-- A step either stores a shooting category, or it leaves all of them as they were. -/
theorem Step.inserts_or_keeps {s after : Store} {op : Operation}
    {outcome : Except Failure Answer} (hstep : Step s op outcome after) :
    (∃ c draws id, op = .createShootingCategory c draws ∧
      outcome = .ok (.shootingCategory { c with id := some id }) ∧
      s.insertShootingCategory c draws = .ok (id, after) ∧ c.Fits) ∨
    createdShootingCategory? (op, outcome) = none ∧
      after.shootingCategories = s.shootingCategories := by
  cases hstep with
  | failed op e => exact .inr ⟨by cases op <;> rfl, rfl⟩
  | read hread a =>
    refine .inr ⟨?_, rfl⟩
    cases op with
    | createShootingCategory c draws => cases hread
    | _ => rfl
  | createdShootingCategory hinsert hfits => exact .inl ⟨_, _, _, rfl, rfl, hinsert, hfits⟩
  | _ => exact .inr ⟨rfl, rfl⟩

theorem Step.holdsShootingCategories {s after : Store} {op : Operation}
    {outcome : Except Failure Answer} (hstep : Step s op outcome after)
    {cs : List ShootingCategory} (h : s.HoldsShootingCategories cs) :
    after.HoldsShootingCategories (cs ++ (createdShootingCategory? (op, outcome)).toList) := by
  rcases hstep.inserts_or_keeps with ⟨c, draws, id, rfl, rfl, hinsert, hfits⟩ | ⟨hnone, hkept⟩
  · exact h.insert hinsert hfits
  · rw [hnone, Option.toList_none, List.append_nil]
    exact h.congr hkept

/-- After every run the table holds the shooting categories that it has created. -/
theorem holdsShootingCategories_of_run (ops : List Operation)
    (hops : ∀ op ∈ ops, op.isService = true) :
    ∃ s, (runAll ops fresh).2 = .ready s ∧
      s.HoldsShootingCategories (createdShootingCategories ops) := by
  refine run_induction
    (I := fun ops s => s.HoldsShootingCategories (createdShootingCategories ops))
    ⟨rfl, List.nodup_nil, List.forall_mem_nil _⟩ ?_ ops hops
  intro ops op s after h hs hstep
  rw [createdShootingCategories_append ops op hs]
  exact hstep.holdsShootingCategories h

/-- Whether there is an id for one more category: the next one while the last one is free, and
then one of those that are drawn. -/
def HasRoom (stored : List ShootingCategory) (draws : List Nat) : Prop :=
  (∃ c ∈ stored, c.id = some Store.maxId) →
    ∃ draw ∈ draws, ∀ c ∈ stored, c.id ≠ some (Store.drawnId draw)

/-- How a database answers in which the given shooting categories were created. -/
structure Serves (db : Database) (stored : List ShootingCategory) : Prop where
  /-- A category without an id gets one that no stored category has. -/
  numbered : ∀ c draws, c.id = none → c.shopId.isSome = true → c.Fits → HasRoom stored draws →
    ∃ id, ((createShootingCategory c draws).run db).1 =
        .ok (.shootingCategory { c with id := some id }) ∧
      ∀ earlier ∈ stored, earlier.id ≠ some id
  /-- When there is no id for it, it is refused. -/
  full : ∀ c draws, c.id = none → c.Fits → ¬ HasRoom stored draws →
    (createShootingCategory c draws).run db = (.error (.storage .statement .full), db)
  /-- An id that is free is kept. -/
  accepted : ∀ c id draws, c.id = some id → c.shopId.isSome = true → c.Fits →
    (∀ earlier ∈ stored, earlier.id ≠ some id) →
      ((createShootingCategory c draws).run db).1 = .ok (.shootingCategory c)
  /-- An id that is taken is refused, whatever shop has it. -/
  refused : ∀ c draws, ∀ earlier ∈ stored, c.id = earlier.id →
    ∃ e, (createShootingCategory c draws).run db = (.error e, db)
  /-- A category is refused that has an integer or a name in it that cannot be stored. -/
  unstorable : ∀ c draws, ¬ ShootingCategory.Fits c →
    ∃ e, (createShootingCategory c draws).run db = (.error e, db) ∧ c.IsRefusedWith e
  /-- A category is found under its id by the shop that created it. -/
  found : ∀ shopId id, [shopId, id].all fitsInt64 = true → ∃ found,
    ((getShootingCategory shopId id).run db).1 = .ok (.foundShootingCategory found) ∧
      ∀ c, found = some c ↔ c ∈ stored ∧ c.shopId = some shopId ∧ c.id = some id
  /-- The active categories of a shop are listed by position, each once. -/
  listed : ∀ shopId, fitsInt64 shopId = true → ∃ listed,
    ((listShootingCategories shopId).run db).1 = .ok (.shootingCategories listed) ∧
      listed.Perm (stored.filter fun c => c.shopId == some shopId && c.isActive) ∧
      (listed.map ShootingCategory.id).Nodup ∧
      listed.Pairwise fun a b => a.sortOrder ≤ b.sortOrder
  /-- Keys that cannot be stored are refused. -/
  tooWide : (∀ shopId id, [shopId, id].all fitsInt64 = false →
      (getShootingCategory shopId id).run db = (.error .integerTooWide, db)) ∧
    ∀ shopId, fitsInt64 shopId = false →
      (listShootingCategories shopId).run db = (.error .integerTooWide, db)

theorem run_createShootingCategory_of_fits {c : ShootingCategory} (hfits : c.Fits)
    (draws : List Nat) (s : Store) :
    (createShootingCategory c draws).run (.ready s) =
      match s.insertShootingCategory c draws with
      | .ok (id, after) => (.ok (.shootingCategory { c with id := some id }), .ready after)
      | .error fault => (.error (.storage .statement fault), .ready s) := by
  have hattempt := Session.run_attempt_of_bindable
    (ShootingCategory.isBindable_cells_iff.mpr hfits) .statement .shootingCategories
    (·.insertShootingCategory c draws) s
  rw [Operation.run, perform, Session.run_map, Session.createShootingCategory, Session.run_bind,
    hattempt]
  rcases s.insertShootingCategory c draws with fault | ⟨id, after⟩
  · rfl
  · rfl

theorem run_createShootingCategory_of_not_fits {c : ShootingCategory} (h : ¬ c.Fits)
    (draws : List Nat) (s : Store) :
    ∃ e, (createShootingCategory c draws).run (.ready s) = (.error e, .ready s) ∧
      c.IsRefusedWith e := by
  obtain ⟨cell, hcell, e, hfault, hrun⟩ := Session.run_attempt_of_not_bindable
    (fun hbind => h (ShootingCategory.isBindable_cells_iff.mp hbind)) .statement
    .shootingCategories (·.insertShootingCategory c draws) s
  refine ⟨e, ?_, ShootingCategory.isRefusedWith_of_mem_cells hcell hfault⟩
  rw [Operation.run, perform, Session.run_map, Session.createShootingCategory,
    Session.run_bind_error hrun]
  rfl

section Serves

variable {s : Store} {cs : List ShootingCategory}

/-- There is room among the categories when the table has a next id. -/
theorem hasRoom_iff (h : s.HoldsShootingCategories cs) {draws : List Nat} :
    HasRoom cs draws ↔
      Store.nextId? (s.shootingCategories.map ShootingCategoryRow.id) draws ≠ none := by
  have hdrawn : ∀ id, (∀ c ∈ cs, c.id ≠ some id) ↔
      id ∉ s.shootingCategories.map ShootingCategoryRow.id := by
    intro id
    rw [h.mem_ids_iff]
    push Not
    rfl
  rw [HasRoom, Ne, Store.nextId?_eq_none_iff h.bounded, ← h.mem_ids_iff]
  simp only [hdrawn]
  push Not
  rfl

theorem run_createShootingCategory_of_free (h : s.HoldsShootingCategories cs)
    {c : ShootingCategory} {draws : List Nat} {id : Int} (hshop : c.shopId.isSome = true)
    (hfits : c.Fits)
    (hid : c.id.or (Store.nextId? (s.shootingCategories.map ShootingCategoryRow.id) draws) =
      some id)
    (hfree : ∀ earlier ∈ cs, earlier.id ≠ some id) :
    ((createShootingCategory c draws).run (.ready s)).1 =
      .ok (.shootingCategory { c with id := some id }) := by
  obtain ⟨shopId, hshop⟩ := Option.isSome_iff_exists.mp hshop
  have hnew : id ∉ s.shootingCategories.map ShootingCategoryRow.id := by
    rw [h.mem_ids_iff]
    rintro ⟨earlier, hearlier, htaken⟩
    exact hfree earlier hearlier htaken
  rw [run_createShootingCategory_of_fits hfits,
    Store.insertShootingCategory_of_free hshop hid hnew]

theorem run_createShootingCategory_of_taken (h : s.HoldsShootingCategories cs)
    {c earlier : ShootingCategory} (hearlier : earlier ∈ cs) (hid : c.id = earlier.id)
    (draws : List Nat) :
    ∃ e, (createShootingCategory c draws).run (.ready s) = (.error e, .ready s) := by
  have hrows := h.rows
  subst hrows
  obtain ⟨r, hr, rfl⟩ := List.mem_map.mp hearlier
  by_cases hfits : c.Fits
  · obtain ⟨fault, hfault⟩ :=
      Store.insertShootingCategory_of_taken hid (List.mem_map_of_mem hr) draws
    rw [run_createShootingCategory_of_fits hfits, hfault]
    exact ⟨_, rfl⟩
  · obtain ⟨e, hrun, -⟩ := run_createShootingCategory_of_not_fits hfits draws s
    exact ⟨e, hrun⟩

theorem run_getShootingCategory (shopId id : Int) (s : Store) :
    (getShootingCategory shopId id).run (.ready s) =
      (if [shopId, id].all fitsInt64 then
        .ok (.foundShootingCategory
          ((s.shootingCategory? shopId id).map ShootingCategoryRow.record))
      else .error .integerTooWide, .ready s) := by
  rw [Operation.run, perform, Session.run_map, Session.run_getShootingCategory]
  split
  · rfl
  · rfl

theorem run_listShootingCategories (shopId : Int) (s : Store) :
    (listShootingCategories shopId).run (.ready s) =
      (if fitsInt64 shopId then
        .ok (.shootingCategories ((s.shootingCategoriesOf shopId).map ShootingCategoryRow.record))
      else .error .integerTooWide, .ready s) := by
  have hkey : [shopId].all fitsInt64 = fitsInt64 shopId := Bool.and_true _
  rw [Operation.run, perform, Session.run_map, Session.listShootingCategories,
    Session.run_query_ready, hkey]
  split
  · rfl
  · rfl

theorem serves_of_holds (h : s.HoldsShootingCategories cs) : Serves (.ready s) cs where
  numbered c draws hid hshop hfits hroom := by
    obtain ⟨id, hnext⟩ := Option.ne_none_iff_exists'.mp ((hasRoom_iff h).mp hroom)
    have hfree : ∀ earlier ∈ cs, earlier.id ≠ some id := by
      intro earlier hearlier htaken
      exact Store.nextId?_not_mem hnext (h.mem_ids_iff.mpr ⟨earlier, hearlier, htaken⟩)
    refine ⟨id, run_createShootingCategory_of_free h hshop hfits ?_ hfree, hfree⟩
    rw [hid, Option.none_or, hnext]
  full c draws hid hfits hroom := by
    have hfull := not_not.mp (mt (hasRoom_iff h).mpr hroom)
    rw [run_createShootingCategory_of_fits hfits,
      Store.insertShootingCategory_of_full hid hfull]
  accepted c id draws hid hshop hfits hfree := by
    have hgiven : c.id.or
        (Store.nextId? (s.shootingCategories.map ShootingCategoryRow.id) draws) = some id := by
      rw [hid, Option.some_or]
    have hrun := run_createShootingCategory_of_free h hshop hfits hgiven hfree
    rw [← hid] at hrun
    exact hrun
  refused c draws earlier hearlier hid := run_createShootingCategory_of_taken h hearlier hid draws
  unstorable c draws hunfit := run_createShootingCategory_of_not_fits hunfit draws s
  found shopId id hfits := by
    refine ⟨_, ?_, fun c => h.shootingCategory?_eq_some_iff⟩
    rw [run_getShootingCategory, if_pos hfits]
  listed shopId hfits := by
    have hperm := h.perm_shootingCategoriesOf shopId
    refine ⟨_, ?_, hperm, ?_, Store.HoldsShootingCategories.pairwise_shootingCategoriesOf s shopId⟩
    · rw [run_listShootingCategories, if_pos hfits]
    · rw [(hperm.map ShootingCategory.id).nodup_iff]
      exact h.nodup_map_id.sublist (List.filter_sublist.map ShootingCategory.id)
  tooWide := by
    refine ⟨fun shopId id hwide => ?_, fun shopId hwide => ?_⟩
    · rw [run_getShootingCategory, hwide, if_neg Bool.false_ne_true]
    · rw [run_listShootingCategories, hwide, if_neg Bool.false_ne_true]

end Serves

/-- Shooting categories are kept over every run of the service. What was created, by any shop
and with ids given or not, decides how later requests are answered. -/
theorem created_shooting_categories_are_served (ops : List Operation)
    (hops : ∀ op ∈ ops, op.isService = true) :
    Serves (runAll ops fresh).2 (createdShootingCategories ops) := by
  obtain ⟨s, hs, h⟩ := holdsShootingCategories_of_run ops hops
  rw [hs]
  exact serves_of_holds h

/-- Portraits of the first shop, to be numbered. -/
def portraitCategory : ShootingCategory :=
  { shopId := some 1, name := "portrait", displayName := "Portrait", sortOrder := 2 }

/-- Weddings of the second shop, with almost the last id that there is. -/
def weddingCategory : ShootingCategory :=
  { id := some (2 ^ 63 - 2), shopId := some 2, name := "wedding", displayName := "Wedding" }

/-- One category of the first shop is numbered and the next one there, which stands before it,
gets the last id; one is refused, since its id is taken, and one is not active. -/
def categoryRun : List Operation :=
  [createShootingCategory portraitCategory [],
    createShootingCategory weddingCategory [],
    createShootingCategory { portraitCategory with name := "newborn", sortOrder := 1 } [],
    createShootingCategory { portraitCategory with id := some 1, shopId := some 2 } [],
    createShootingCategory { portraitCategory with id := some (-5), isActive := false } []]

theorem createdShootingCategories_categoryRun :
    createdShootingCategories categoryRun =
      [{ portraitCategory with id := some 1 },
        weddingCategory,
        { portraitCategory with id := some (2 ^ 63 - 1), name := "newborn", sortOrder := 1 },
        { portraitCategory with id := some (-5), isActive := false }] :=
  rfl

theorem portraitCategory_fits : portraitCategory.Fits :=
  ⟨by decide, Text.isPlain_of_isUnmarked (by decide), Text.isPlain_of_isUnmarked (by decide)⟩

/-- The last id is taken, but of the numbers that are drawn the second gives a free one. -/
theorem hasRoom_categoryRun : HasRoom (createdShootingCategories categoryRun) [0, 41] := by
  rw [createdShootingCategories_categoryRun]
  exact fun _ => ⟨41, by decide, by decide⟩

/-- After the last id the next category still gets a free one, if one is drawn; the refused one
has left nothing behind, and the first shop lists its active categories by position. -/
theorem portrait_category_is_served :
    (∃ id, ((createShootingCategory portraitCategory [0, 41]).run (runAll categoryRun fresh).2).1 =
        .ok (.shootingCategory { portraitCategory with id := some id }) ∧
      id ≠ 1 ∧ id ≠ 2 ^ 63 - 2 ∧ id ≠ 2 ^ 63 - 1 ∧ id ≠ -5) ∧
    (createShootingCategory portraitCategory [0]).run (runAll categoryRun fresh).2 =
      (.error (.storage .statement .full), (runAll categoryRun fresh).2) ∧
    (∃ e, (createShootingCategory { portraitCategory with id := some (2 ^ 63 - 2) } []).run
      (runAll categoryRun fresh).2 = (.error e, (runAll categoryRun fresh).2)) ∧
    ((getShootingCategory 1 1).run (runAll categoryRun fresh).2).1 =
      .ok (.foundShootingCategory (some { portraitCategory with id := some 1 })) ∧
    ((getShootingCategory 2 1).run (runAll categoryRun fresh).2).1 =
      .ok (.foundShootingCategory none) ∧
    ∃ listed, ((listShootingCategories 1).run (runAll categoryRun fresh).2).1 =
        .ok (.shootingCategories listed) ∧
      listed.Perm [{ portraitCategory with id := some 1 },
        { portraitCategory with id := some (2 ^ 63 - 1), name := "newborn", sortOrder := 1 }] ∧
      listed.Pairwise fun a b => a.sortOrder ≤ b.sortOrder := by
  have hserves := created_shooting_categories_are_served categoryRun
    (by simp [categoryRun, isService])
  have hroom := hasRoom_categoryRun
  rw [createdShootingCategories_categoryRun] at hserves hroom
  obtain ⟨id, hcreated, hfree⟩ := hserves.numbered portraitCategory [0, 41] rfl rfl
    portraitCategory_fits hroom
  obtain ⟨own, hown, hfound⟩ := hserves.found 1 1 (by decide)
  obtain ⟨other, hother, hmissing⟩ := hserves.found 2 1 (by decide)
  obtain ⟨listed, hlisted, hperm, -, hsorted⟩ := hserves.listed 1 (by decide)
  refine ⟨⟨id, hcreated, ?_⟩, ?_, ?_, ?_, ?_, listed, hlisted, hperm, hsorted⟩
  · simpa [List.forall_mem_cons, weddingCategory, eq_comm] using hfree
  · refine hserves.full portraitCategory [0] rfl portraitCategory_fits fun hleft => ?_
    obtain ⟨draw, hdraw, hfree⟩ := hleft (by decide)
    obtain rfl := List.mem_singleton.mp hdraw
    exact hfree _ List.mem_cons_self rfl
  · exact hserves.refused _ [] weddingCategory (List.mem_cons_of_mem _ List.mem_cons_self) rfl
  · rw [hown, (hfound _).mpr ⟨List.mem_cons_self, rfl, rfl⟩]
  · have hnone : other = none := by
      refine Option.eq_none_iff_forall_ne_some.mpr fun c hc => ?_
      obtain ⟨hmem, hshop, hid⟩ := (hmissing c).mp hc
      simp only [List.mem_cons, List.not_mem_nil, or_false] at hmem
      rcases hmem with rfl | rfl | rfl | rfl
      · cases hshop
      · cases hid
      · cases hid
      · cases hid
    rw [hother, hnone]

/-- A shop whose id is no integer of the store cannot create a category, and an id that is no
such integer is not missing but refused. -/
theorem wide_integers_are_refused :
    ((createShootingCategory { portraitCategory with shopId := some (2 ^ 63) } []).run fresh).1 =
        .error .integerTooWide ∧
      ((getShootingCategory 1 (2 ^ 63)).run fresh).1 ≠ .ok (.foundShootingCategory none) :=
  ⟨rfl, nofun⟩

end Operation

end StudioQuote
