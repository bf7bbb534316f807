import StudioQuote.Proofs.Publish.Listing
import StudioQuote.Proofs.Service.Campaigns
import StudioQuote.Proofs.Service.Change

/-!
# Campaigns that were created

The rows of campaigns are those of the campaigns that were created, in order, and no
association has a number that was not given yet. So a new campaign is listed behind the
earlier ones of its shop, with everything it was created with, under a number that is
larger than any before.
-/

namespace StudioQuote

open Number

/-- The row of a campaign with what is stored beside it. -/
def Campaign.stored (c : Campaign) : CampaignRow × Associations :=
  (.ofRecord (c.id.getD 0) (c.shopId.getD 0) c, c.associations)

/-- What reading the row of a campaign gives. -/
def Campaign.reread (c : Campaign) : Except Failure Campaign :=
  Session.readOutcome (c.stored.1.read c.stored.2)

/-- Whether a campaign has a shop and one of the numbers that were given so far. -/
structure Campaign.IsNumbered (last : Int) (c : Campaign) : Prop where
  shop : ∃ shopId, c.shopId = some shopId
  number : ∃ id, c.id = some id ∧ 1 ≤ id ∧ id ≤ last
  fits : c.Fits

theorem Campaign.IsNumbered.mono {last later : Int} {c : Campaign} (h : c.IsNumbered last)
    (hle : last ≤ later) : c.IsNumbered later where
  shop := h.shop
  number := by
    obtain ⟨id, hid, hfirst, hlast⟩ := h.number
    exact ⟨id, hid, hfirst, Int.le_trans hlast hle⟩
  fits := h.fits

namespace Store

def associationRows (s : Store) : List AssociationRow :=
  s.shootingAssociations ++ s.categoryAssociations ++ s.itemAssociations

/-- Whether the tables hold the given campaigns and no other. -/
structure HoldsCampaigns (s : Store) (cs : List Campaign) : Prop where
  rows : s.campaigns.map (fun r => (r, s.associationsOf r.id)) = cs.map Campaign.stored
  numbered : ∀ c ∈ cs, c.IsNumbered s.lastCampaignId
  associated : ∀ a ∈ s.associationRows, a.1 ≤ s.lastCampaignId
  count : s.lastCampaignId = cs.length
  last : s.lastCampaignId ≤ maxId

theorem holdsCampaigns_empty : empty.HoldsCampaigns [] where
  rows := rfl
  numbered _ h := nomatch h
  associated _ h := nomatch h
  count := rfl
  last := by decide

theorem associated_append_of_ne (rows : List AssociationRow) (ids : List Int) {number id : Int}
    (hne : number ≠ id) : associated (rows ++ ids.map (number, ·)) id = associated rows id := by
  have hnone : (ids.map (number, ·)).filter (·.1 == id) = [] := by
    rw [List.filter_eq_nil_iff]
    intro a ha
    obtain ⟨other, -, rfl⟩ := List.mem_map.mp ha
    simpa using hne
  rw [associated, associated, List.filter_append, hnone, List.append_nil]

theorem associated_append_of_fresh {rows : List AssociationRow} {number : Int}
    (hfresh : ∀ a ∈ rows, a.1 ≠ number) (ids : List Int) :
    associated (rows ++ ids.map (number, ·)) number = ids := by
  have hnone : rows.filter (·.1 == number) = [] := by
    rw [List.filter_eq_nil_iff]
    intro a ha
    simpa using hfresh a ha
  have hall : (ids.map (number, ·)).filter (·.1 == number) = ids.map (number, ·) := by
    rw [List.filter_eq_self]
    intro a ha
    obtain ⟨other, -, rfl⟩ := List.mem_map.mp ha
    exact beq_self_eq_true number
  rw [associated, List.filter_append, hnone, hall, List.nil_append, List.map_map]
  exact List.map_id ids

section New

variable {s : Store} (h : ∀ a ∈ s.associationRows, a.1 ≤ s.lastCampaignId) (shopId : Int)
  (c : Campaign)

theorem associationsOf_withCampaign {id : Int} (hid : id ≤ s.lastCampaignId) :
    (s.withCampaign shopId c).associationsOf id = s.associationsOf id := by
  have hne : s.lastCampaignId + 1 ≠ id := by omega
  simp only [associationsOf, withCampaign, associated_append_of_ne _ _ hne]

include h

theorem associationsOf_new :
    (s.withCampaign shopId c).associationsOf (s.lastCampaignId + 1) = c.associations := by
  have hfresh : ∀ a ∈ s.associationRows, a.1 ≠ s.lastCampaignId + 1 := by
    intro a ha heq
    have hle := h a ha
    omega
  simp only [associationRows, List.mem_append, or_imp, forall_and] at hfresh
  obtain ⟨⟨hshooting, hcategories⟩, hitems⟩ := hfresh
  simp only [associationsOf, withCampaign, associated_append_of_fresh hshooting,
    associated_append_of_fresh hcategories, associated_append_of_fresh hitems]

theorem le_of_mem_associationRows {a : AssociationRow}
    (ha : a ∈ (s.withCampaign shopId c).associationRows) : a.1 ≤ s.lastCampaignId + 1 := by
  have hnew : ∀ ids : List Int, a ∈ ids.map (s.lastCampaignId + 1, ·) →
      a.1 ≤ s.lastCampaignId + 1 := by
    intro ids hmem
    obtain ⟨id, -, rfl⟩ := List.mem_map.mp hmem
    exact Int.le_refl _
  have hold : a ∈ s.associationRows → a.1 ≤ s.lastCampaignId + 1 := by
    intro hmem
    have hle := h a hmem
    omega
  simp only [associationRows, List.mem_append] at hold
  simp only [associationRows, withCampaign, List.mem_append] at ha
  rcases ha with ((ha | ha) | ha | ha) | ha | ha
  · exact hold (.inl (.inl ha))
  · exact hnew _ ha
  · exact hold (.inl (.inr ha))
  · exact hnew _ ha
  · exact hold (.inr ha)
  · exact hnew _ ha

end New

namespace HoldsCampaigns

variable {s : Store} {cs : List Campaign}

theorem congr {after : Store} (h : s.HoldsCampaigns cs) (hsame : s.SameCampaigns after) :
    after.HoldsCampaigns cs where
  rows := by
    have hassociations : after.associationsOf = s.associationsOf := by
      funext id
      simp only [associationsOf, hsame.shootingAssociations, hsame.categoryAssociations,
        hsame.itemAssociations]
    rw [hsame.campaigns, hassociations]
    exact h.rows
  numbered := by
    rw [hsame.lastCampaignId]
    exact h.numbered
  associated := by
    rw [associationRows, hsame.shootingAssociations, hsame.categoryAssociations,
      hsame.itemAssociations, hsame.lastCampaignId]
    exact h.associated
  count := by
    rw [hsame.lastCampaignId]
    exact h.count
  last := by
    rw [hsame.lastCampaignId]
    exact h.last

theorem first (h : s.HoldsCampaigns cs) : 0 ≤ s.lastCampaignId := by
  rw [h.count]
  exact Int.natCast_nonneg _

theorem le_of_mem (h : s.HoldsCampaigns cs) {r : CampaignRow} (hr : r ∈ s.campaigns) :
    r.id ≤ s.lastCampaignId := by
  have hmem : (r, s.associationsOf r.id) ∈ cs.map Campaign.stored := by
    rw [← h.rows]
    exact List.mem_map_of_mem hr
  obtain ⟨c, hc, hstored⟩ := List.mem_map.mp hmem
  obtain ⟨id, hid, -, hle⟩ := (h.numbered c hc).number
  have hrow : r.id = c.id.getD 0 := congrArg (fun p => p.1.id) hstored.symm
  rw [hrow, hid]
  exact hle

theorem withCampaign (h : s.HoldsCampaigns cs) {c : Campaign} {shopId : Int}
    (hshop : c.shopId = some shopId) (hfits : c.Fits) (hroom : s.lastCampaignId < maxId) :
    (s.withCampaign shopId c).HoldsCampaigns
      (cs ++ [{ c with id := some (s.lastCampaignId + 1) }]) where
  rows := by
    have hold : s.campaigns.map (fun r => (r, (s.withCampaign shopId c).associationsOf r.id)) =
        cs.map Campaign.stored := by
      rw [← h.rows]
      refine List.map_congr_left fun r hr => ?_
      rw [associationsOf_withCampaign shopId c (h.le_of_mem hr)]
    have hnew := associationsOf_new h.associated shopId c
    change (s.campaigns ++ [CampaignRow.ofRecord (s.lastCampaignId + 1) shopId c]).map _ = _
    rw [List.map_append, List.map_append, hold, List.map_singleton, List.map_singleton,
      Campaign.stored, hshop]
    change _ ++ [(_, (s.withCampaign shopId c).associationsOf (s.lastCampaignId + 1))] = _
    rw [hnew]
    rfl
  numbered := by
    intro created hcreated
    have hfirst := h.first
    change created.IsNumbered (s.lastCampaignId + 1)
    rcases List.mem_append.mp hcreated with hold | hnew
    · exact (h.numbered created hold).mono (by omega)
    · obtain rfl := List.mem_singleton.mp hnew
      exact ⟨⟨shopId, hshop⟩, ⟨_, rfl, by omega, Int.le_refl _⟩, hfits⟩
  associated _ ha := le_of_mem_associationRows h.associated shopId c ha
  count := by
    change s.lastCampaignId + 1 = _
    rw [h.count, List.length_append, List.length_singleton]
    rfl
  last := hroom

/-- The campaigns of a shop are read one by one, in the order in which they were created. -/
theorem run_listCampaigns (h : s.HoldsCampaigns cs) (shopId : Int) :
    (Session.listCampaigns shopId).run (.ready s) =
      (if fitsInt64 shopId then
        (cs.filter (·.shopId == some shopId)).mapM Campaign.reread
      else .error .integerTooWide, .ready s) := by
  have hrows : (s.campaignsOf shopId).map (fun r => (r, s.associationsOf r.id)) =
      (cs.filter (·.shopId == some shopId)).map Campaign.stored := by
    have hcampaigns := congrArg (List.filter (·.1.shopId == shopId)) h.rows
    rw [List.filter_map, List.filter_map] at hcampaigns
    refine hcampaigns.trans (congrArg _ (List.filter_congr fun c hc => ?_))
    obtain ⟨owner, howner⟩ := (h.numbered c hc).shop
    change (c.shopId.getD 0 == shopId) = (c.shopId == some shopId)
    rw [howner]
    rfl
  have hquery := Session.run_query_ready .campaigns [shopId]
    (fun s => (s.campaignsOf shopId).map fun r => (r, s.associationsOf r.id)) s
  have hkey : [shopId].all fitsInt64 = fitsInt64 shopId := Bool.and_true _
  rw [hkey, hrows] at hquery
  by_cases hfits : fitsInt64 shopId = true
  · rw [if_pos hfits] at hquery ⊢
    refine (Session.run_bind_ok hquery).trans ?_
    exact Session.run_mapM_eq fun c _ => Session.run_reading (c.stored.1.read c.stored.2) _
  · rw [if_neg hfits] at hquery ⊢
    exact Session.run_bind_error hquery

end HoldsCampaigns

end Store

namespace Campaign.IsNumbered

variable {last : Int} {c : Campaign}

theorem reread (h : c.IsNumbered last) (hvalue : c.discountValue.isRepresentable = true) :
    c.reread = .ok c := by
  obtain ⟨shopId, hshop⟩ := h.shop
  obtain ⟨id, hid, -⟩ := h.number
  have hread := CampaignRow.read_ofRecord id shopId hvalue c.associations
  rw [← hid, ← hshop] at hread
  rw [Campaign.reread, stored, hid, hshop, Option.getD_some, Option.getD_some]
  exact congrArg Session.readOutcome hread

theorem eq_of_reread (h : c.IsNumbered last) {read : Campaign} (hread : c.reread = .ok read) :
    read = c := by
  obtain ⟨shopId, hshop⟩ := h.shop
  obtain ⟨id, hid, -⟩ := h.number
  obtain ⟨-, heq⟩ := CampaignRow.of_read_ofRecord (Session.readOutcome_eq_ok_iff.mp hread)
  rw [heq, hid, hshop, Option.getD_some, Option.getD_some, ← hid, ← hshop]
  rfl

end Campaign.IsNumbered

theorem mapM_eq_ok_iff {α β ε : Type} {f : α → Except ε β} {as : List α} {bs : List β} :
    as.mapM f = .ok bs ↔ List.Forall₂ (fun a b => f a = .ok b) as bs := by
  induction as generalizing bs with
  | nil =>
    rw [List.mapM_nil, List.forall₂_nil_left_iff]
    constructor
    · intro h
      cases h
      rfl
    · rintro rfl
      rfl
  | cons a as ih =>
    rw [List.mapM_cons, List.forall₂_cons_left_iff]
    constructor
    · intro h
      cases hfirst : f a with
      | error e =>
        rw [hfirst] at h
        cases h
      | ok b =>
        cases hrest : as.mapM f with
        | error e =>
          rw [hfirst, hrest] at h
          cases h
        | ok rest =>
          rw [hfirst, hrest] at h
          cases h
          exact ⟨b, rest, rfl, ih.mp hrest, rfl⟩
    · rintro ⟨b, rest, hfirst, hrest, rfl⟩
      rw [hfirst, ih.mpr hrest]
      rfl

theorem eq_of_forall₂ {α : Type} {R : α → α → Prop} {as bs : List α} (h : List.Forall₂ R as bs)
    (heq : ∀ a ∈ as, ∀ b, R a b → b = a) : bs = as := by
  induction h with
  | nil => rfl
  | cons hfirst _ ih =>
    rw [List.forall_mem_cons] at heq
    rw [heq.1 _ hfirst, ih heq.2]

theorem mapM_concat_ok {α β ε : Type} {f : α → Except ε β} (as : List α) {a : α} {b : β}
    (h : f a = .ok b) : (as ++ [a]).mapM f = (as.mapM f).map (· ++ [b]) := by
  rw [List.mapM_append, List.mapM_cons, h]
  cases as.mapM f with
  | error e => rfl
  | ok bs => rfl

namespace Operation

/-- The campaigns that a run creates, in order. -/
def createdCampaigns (ops : List Operation) : List Campaign :=
  (ops.zip (runAll ops fresh).1).filterMap created?

theorem createdCampaigns_append (ops : List Operation) (op : Operation) {s : Store}
    (hs : (runAll ops fresh).2 = .ready s) :
    createdCampaigns (ops ++ [op]) =
      createdCampaigns ops ++ (created? (op, (op.run (.ready s)).1)).toList := by
  rw [createdCampaigns, zip_runAll_append ops op hs, List.filterMap_append, createdCampaigns]
  cases hcreated : created? (op, (op.run (.ready s)).1) with
  | none => simp [hcreated]
  | some c => simp [hcreated]

theorem Change.created?_of_isPatch {op : Operation} (h : op.isPatch = true)
    (outcome : Except Failure Answer) : created? (op, outcome) = none := by
  cases op with
  | createCampaign c => cases h
  | _ => rfl

theorem Change.holdsCampaigns {s after : Store} {op : Operation} {outcome : Except Failure Answer}
    (hchange : Change s op outcome after) {cs : List Campaign} (h : s.HoldsCampaigns cs) :
    after.HoldsCampaigns (cs ++ (created? (op, outcome)).toList) := by
  cases hchange with
  | created hshop hfits hname hroom => exact h.withCampaign hshop hfits hroom
  | replaced hnone hfits haccepts =>
    rw [hnone, Option.toList_none, List.append_nil]
    exact h.congr ⟨rfl, rfl, rfl, rfl, rfl⟩
  | overwritten hpatch hitems hcampaigns =>
    rw [created?_of_isPatch hpatch, Option.toList_none, List.append_nil]
    exact h.congr hcampaigns
  | kept hnone hforms hcampaigns =>
    rw [hnone, Option.toList_none, List.append_nil]
    exact h.congr hcampaigns

/-- After every run the tables hold the campaigns that it has created. -/
theorem holdsCampaigns_of_run (ops : List Operation) :
    ∃ s, (runAll ops fresh).2 = .ready s ∧ s.HoldsCampaigns (createdCampaigns ops) := by
  refine change_induction (I := fun ops s => s.HoldsCampaigns (createdCampaigns ops))
    Store.holdsCampaigns_empty ?_ ops
  intro ops op s after h hs hchange
  rw [createdCampaigns_append ops op hs]
  exact hchange.holdsCampaigns h

theorem runAll_createCampaign {ops : List Operation} {s : Store}
    (hs : (runAll ops fresh).2 = .ready s) {c : Campaign} {shopId : Int}
    (hshop : c.shopId = some shopId) (hfits : c.Fits) (hname : Text.IsPlain c.name)
    (hfirst : 0 ≤ s.lastCampaignId) (hroom : s.lastCampaignId < Store.maxId) :
    (runAll (ops ++ [createCampaign c]) fresh).2 = .ready (s.withCampaign shopId c) ∧
      createdCampaigns (ops ++ [createCampaign c]) =
        createdCampaigns ops ++ [{ c with id := some (s.lastCampaignId + 1) }] := by
  have hrun : (createCampaign c).run (.ready s) =
      (.ok (.campaign { c with id := some (s.lastCampaignId + 1) }),
        .ready (s.withCampaign shopId c)) := by
    rw [Operation.run, perform, Session.run_map,
      Session.run_createCampaign hshop hfits hname hfirst hroom]
    rfl
  rw [runAll_concat, createdCampaigns_append ops _ hs, hs, hrun]
  exact ⟨rfl, rfl⟩

theorem representable_of_mem_createdCampaigns {ops : List Operation}
    (hops : ∀ op ∈ ops, op.IsReadable) {c : Campaign} (hc : c ∈ createdCampaigns ops) :
    c.discountValue.isRepresentable = true := by
  obtain ⟨⟨op, outcome⟩, hmem, hcreated⟩ := List.mem_filterMap.mp hc
  have hreadable := hops op (List.of_mem_zip hmem).1
  cases op with
  | createCampaign asked =>
    unfold created? at hcreated
    split at hcreated
    · rename_i heq
      cases heq
      cases hcreated
      exact hreadable asked rfl
    · cases hcreated
  | _ => cases hcreated

theorem run_listCampaigns_eq {cs : List Campaign} {s : Store} (h : s.HoldsCampaigns cs)
    (shopId : Int) :
    ((listCampaigns shopId).run (.ready s)).1 =
      (if fitsInt64 shopId then
        (cs.filter (·.shopId == some shopId)).mapM Campaign.reread
      else .error .integerTooWide).map .campaigns := by
  rw [Operation.run, perform, Session.run_map, h.run_listCampaigns]

/-- A campaign that was created is listed behind the earlier ones of its shop, as it was
given; other shops list what they listed before. -/
theorem listCampaigns_append {cs : List Campaign} {c : Campaign} {s after : Store} {last : Int}
    (hbefore : s.HoldsCampaigns cs) (hafter : after.HoldsCampaigns (cs ++ [c])) {shopId : Int}
    (hshop : c.shopId = some shopId) (hnumbered : c.IsNumbered last)
    (hvalue : c.discountValue.isRepresentable = true) :
    (∀ listed, ((listCampaigns shopId).run (.ready s)).1 = .ok (.campaigns listed) →
      ((listCampaigns shopId).run (.ready after)).1 = .ok (.campaigns (listed ++ [c]))) ∧
    ∀ other, other ≠ shopId →
      ((listCampaigns other).run (.ready after)).1 = ((listCampaigns other).run (.ready s)).1 := by
  constructor
  · intro listed hlisted
    have hown : [c].filter (·.shopId == some shopId) = [c] := by
      rw [List.filter_cons_of_pos (by rw [hshop, beq_self_eq_true]), List.filter_nil]
    rw [run_listCampaigns_eq hbefore] at hlisted
    rw [run_listCampaigns_eq hafter, List.filter_append, hown,
      mapM_concat_ok _ (hnumbered.reread hvalue)]
    cases hfits : fitsInt64 shopId with
    | false =>
      rw [hfits] at hlisted
      cases hlisted
    | true =>
      rw [hfits, if_pos rfl] at hlisted
      cases hread : (cs.filter (·.shopId == some shopId)).mapM Campaign.reread with
      | error e =>
        rw [hread] at hlisted
        cases hlisted
      | ok read =>
        rw [hread] at hlisted
        cases hlisted
        rfl
  · intro other hne
    have hnone : [c].filter (·.shopId == some other) = [] := by
      rw [List.filter_cons_of_neg (by rw [hshop]; simpa using hne.symm), List.filter_nil]
    rw [run_listCampaigns_eq hbefore, run_listCampaigns_eq hafter, List.filter_append, hnone,
      List.append_nil]

/-- Campaigns are kept as they were given. After every run a campaign whose integers can be
stored is created as long as there are numbers left, unless there is half of a surrogate pair
in its name: then it is refused. Its number is larger than any before, it is listed behind
the earlier campaigns of its shop with all that it was given, and the lists of other shops
stay as they were. -/
theorem created_campaign_is_listed (ops : List Operation) {c : Campaign} {shopId : Int}
    (hshop : c.shopId = some shopId) (hfits : c.Fits)
    (hvalue : c.discountValue.isRepresentable = true) :
    (Text.IsPlain c.name → (createdCampaigns ops).length < Store.maxId → ∃ created,
      ((createCampaign c).run (runAll ops fresh).2).1 = .ok (.campaign created)) ∧
    (¬ Text.IsPlain c.name →
      ((createCampaign c).run (runAll ops fresh).2).1 = .error (.textUnencodable c.name)) ∧
    ((∀ op ∈ ops, op.IsReadable) → ∃ listed,
      ((listCampaigns shopId).run (runAll ops fresh).2).1 = .ok (.campaigns listed)) ∧
    ∀ created, ((createCampaign c).run (runAll ops fresh).2).1 = .ok (.campaign created) →
      (∃ id, created = { c with id := some id } ∧
        ∀ earlier ∈ createdCampaigns ops, ∃ n, earlier.id = some n ∧ n < id) ∧
      (∀ listed,
        ((listCampaigns shopId).run (runAll ops fresh).2).1 = .ok (.campaigns listed) →
        ((listCampaigns shopId).run (runAll (ops ++ [createCampaign c]) fresh).2).1 =
          .ok (.campaigns (listed ++ [created]))) ∧
      ∀ other, other ≠ shopId →
        ((listCampaigns other).run (runAll (ops ++ [createCampaign c]) fresh).2).1 =
          ((listCampaigns other).run (runAll ops fresh).2).1 := by
  obtain ⟨s, hs, hholds⟩ := holdsCampaigns_of_run ops
  have hshopFits : fitsInt64 shopId = true := by
    rw [Campaign.Fits, hshop] at hfits
    exact List.all_eq_true.mp hfits shopId List.mem_cons_self
  rw [runAll_concat, hs]
  refine ⟨fun hname hroom => ?_, fun hhalf => ?_, fun hreadable => ?_, fun created hcreated => ?_⟩
  · rw [← hholds.count] at hroom
    refine ⟨{ c with id := some (s.lastCampaignId + 1) }, ?_⟩
    rw [Operation.run, perform, Session.run_map,
      Session.run_createCampaign hshop hfits hname hholds.first hroom]
    rfl
  · rw [Operation.run, perform, Session.run_map,
      Session.run_createCampaign_of_not_plain hshop hshopFits hhalf]
    rfl
  · refine ⟨(createdCampaigns ops).filter (·.shopId == some shopId), ?_⟩
    have hall : ∀ c ∈ (createdCampaigns ops).filter (·.shopId == some shopId),
        c.reread = .ok c := by
      intro c hc
      have hmem := (List.mem_filter.mp hc).1
      exact (hholds.numbered c hmem).reread (representable_of_mem_createdCampaigns hreadable hmem)
    rw [run_listCampaigns_eq hholds, if_pos hshopFits,
      mapM_eq_ok_iff.mpr (List.forall₂_same.mpr hall)]
    rfl
  · obtain ⟨after, hafter, hchange⟩ := change_of_run (createCampaign c) s
    rw [hcreated] at hchange
    cases hchange with
    | created howner _ _ hroom =>
      obtain rfl := Option.some.inj (howner.symm.trans hshop)
      have hlater := hholds.withCampaign hshop hfits hroom
      have hmem : { c with id := some (s.lastCampaignId + 1) } ∈
          createdCampaigns ops ++ [{ c with id := some (s.lastCampaignId + 1) }] :=
        List.mem_append_right _ List.mem_cons_self
      rw [hafter]
      refine ⟨⟨s.lastCampaignId + 1, rfl, fun earlier hearlier => ?_⟩,
        listCampaigns_append hholds hlater hshop (hlater.numbered _ hmem) hvalue⟩
      obtain ⟨n, hn, -, hle⟩ := (hholds.numbered earlier hearlier).number
      exact ⟨n, hn, by omega⟩
    | replaced hnone => cases hnone
    | overwritten hpatch => cases hpatch
    | kept hnone => cases hnone

/-- Twelve and a half percent in March, with an item that is named twice. -/
def marchCampaign : Campaign :=
  { shopId := some 1
    name := "March"
    discountType := .percentage
    discountValue := ⟨false, 1250, -2⟩
    startDate := ⟨2024, 3, 1, by decide⟩
    endDate := ⟨2024, 3, 31, by decide⟩
    associations := { shootingCategoryIds := [7], categoryIds := [30, 10], itemIds := [300, 300] } }

/-- After a campaign of another shop and one of the same shop it is the third, and is
listed with its digits and with both mentions of the item. -/
theorem march_campaign_is_listed :
    ∃ id listed, 2 < id ∧
      ((listCampaigns 1).run (runAll [createCampaign { marchCampaign with shopId := some 2 },
        createCampaign { marchCampaign with discountValue := ⟨false, 1, 2⟩ }] fresh).2).1 =
        .ok (.campaigns listed) ∧
      ((listCampaigns 1).run (runAll ([createCampaign { marchCampaign with shopId := some 2 },
        createCampaign { marchCampaign with discountValue := ⟨false, 1, 2⟩ }] ++
          [createCampaign marchCampaign]) fresh).2).1 =
        .ok (.campaigns (listed ++ [{ marchCampaign with id := some id }])) := by
  have hfits : marchCampaign.Fits := by decide
  have hvalue : marchCampaign.discountValue.isRepresentable = true := by decide
  obtain ⟨hcreates, -, hlists, hcreated⟩ := created_campaign_is_listed
    [createCampaign { marchCampaign with shopId := some 2 },
      createCampaign { marchCampaign with discountValue := ⟨false, 1, 2⟩ }] rfl hfits hvalue
  obtain ⟨created, hrun⟩ := hcreates (by decide) (by decide)
  obtain ⟨listed, hlisted⟩ := hlists fun op hop => by
    simp only [List.mem_cons, List.not_mem_nil, or_false] at hop
    rcases hop with rfl | rfl <;> rintro c ⟨⟩ <;> decide
  obtain ⟨⟨id, rfl, hlarger⟩, hown, -⟩ := hcreated created hrun
  refine ⟨id, listed, ?_, hlisted, hown listed hlisted⟩
  obtain ⟨n, hn, hless⟩ := hlarger { marchCampaign with
    id := some 2, discountValue := ⟨false, 1, 2⟩ } (List.mem_cons_of_mem _ List.mem_cons_self)
  cases hn
  exact hless

end Operation

end StudioQuote
