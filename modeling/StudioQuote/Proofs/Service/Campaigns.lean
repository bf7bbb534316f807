import StudioQuote.Proofs.Calendar
import StudioQuote.Proofs.Number.DecimalText
import StudioQuote.Proofs.Service.Run

/-!
# Campaigns read back

The row of a campaign holds its days and its discount as texts. They are read back as
long as the discount is a decimal within the limits, as every discount is that has been
read. So the campaigns of a shop can always be listed.
-/

namespace StudioQuote

open Json Number

theorem DiscountType.read_name (t : DiscountType) :
    Reader.name ofName? (.str t.name) = .ok t := by
  refine Reader.name_of_ofName? ?_ (ofName?_name t)
  cases t <;> decide

theorem Number.Decimal.reader_text {d : Decimal} (h : d.isRepresentable = true) :
    Reader.decimal (.str d.text) = .ok d := by
  rw [Reader.decimal, Reader.decimalOfText, read_text h]

theorem Number.Decimal.of_reader_text {d read : Decimal}
    (h : Reader.decimal (.str d.text) = .ok read) : d.isRepresentable = true ∧ read = d := by
  rw [Reader.decimal, Reader.decimalOfText, read_text_eq] at h
  cases hd : d.isRepresentable with
  | true =>
    rw [hd] at h
    cases h
    exact ⟨rfl, rfl⟩
  | false =>
    rw [hd] at h
    cases h

/-- All of a campaign but its discount is read back in any case. -/
theorem CampaignRow.read_ofRecord_eq (id shopId : Int) (c : Campaign)
    (associations : Associations) :
    (ofRecord id shopId c).read associations =
      (fun discountValue =>
        { c with id := some id, shopId := some shopId, discountValue, associations }) <$>
        (Reader.decimal (.str c.discountValue.text)).under (.key "discount_value") := by
  change (fun c : Campaign => { c with associations }) <$> Campaign.ofMembers [("id", .int id),
    ("shop_id", .int shopId), ("name", .str c.name), ("start_date", .str c.startDate.text),
    ("end_date", .str c.endDate.text), ("discount_type", .str c.discountType.name),
    ("discount_value", .str c.discountValue.text), ("is_active", .bool c.isActive)] = _
  cases hvalue : Reader.decimal (.str c.discountValue.text) with
  | ok d =>
    simp [Campaign.ofMembers, Members.required, Members.optional, Members.defaulted,
      List.lookup_cons, Date.read_text, DiscountType.read_name, hvalue, Reader.bool]
  | failed ps =>
    simp [Campaign.ofMembers, Members.required, Members.optional, Members.defaulted,
      List.lookup_cons, Date.read_text, DiscountType.read_name, hvalue, Reader.bool]
    rfl

theorem CampaignRow.read_ofRecord (id shopId : Int) {c : Campaign}
    (h : c.discountValue.isRepresentable = true) (associations : Associations) :
    (ofRecord id shopId c).read associations =
      .ok { c with id := some id, shopId := some shopId, associations } := by
  rw [read_ofRecord_eq, Decimal.reader_text h]
  rfl

/-- What is read from the row of a campaign is that campaign, whatever its discount. -/
theorem CampaignRow.of_read_ofRecord {id shopId : Int} {c read : Campaign}
    {associations : Associations} (h : (ofRecord id shopId c).read associations = .ok read) :
    c.discountValue.isRepresentable = true ∧
      read = { c with id := some id, shopId := some shopId, associations } := by
  rw [read_ofRecord_eq, Reading.map_eq_ok_iff] at h
  obtain ⟨discountValue, hvalue, rfl⟩ := h
  obtain ⟨hrepresentable, rfl⟩ := Decimal.of_reader_text (Reading.under_eq_ok_iff.mp hvalue)
  exact ⟨hrepresentable, rfl⟩

namespace Store

def ReadableCampaigns (s : Store) : Prop :=
  ∀ r ∈ s.campaigns, ∃ id shopId c, r = .ofRecord id shopId c ∧
    c.discountValue.isRepresentable = true

end Store

namespace Operation

/-- Whether an operation creates no campaign with a discount beyond the limits of decimals. -/
def IsReadable (op : Operation) : Prop :=
  ∀ c, op = .createCampaign c → c.discountValue.isRepresentable = true

theorem Step.readableCampaigns {s after : Store} {op : Operation}
    {outcome : Except Failure Answer} (hstep : Step s op outcome after) (hop : op.IsReadable)
    (h : s.ReadableCampaigns) : after.ReadableCampaigns := by
  cases hstep with
  | createdShootingCategory hinsert =>
    obtain ⟨-, -, -, -, rfl⟩ := Store.insertShootingCategory_eq_ok hinsert
    exact h
  | @createdCampaign c shopId hshop =>
    intro r hr
    rcases List.mem_append.mp hr with hold | hnew
    · exact h r hold
    · obtain rfl := List.mem_singleton.mp hnew
      exact ⟨_, shopId, c, rfl, hop c rfl⟩
  | _ => exact h

theorem readableCampaigns_of_run (ops : List Operation) (hops : ∀ op ∈ ops, op.isService = true)
    (hreadable : ∀ op ∈ ops, op.IsReadable) {s : Store}
    (hs : (runAll ops fresh).2 = .ready s) : s.ReadableCampaigns := by
  obtain ⟨s', hs', h⟩ := run_induction
    (I := fun ops s => (∀ op ∈ ops, op.IsReadable) → s.ReadableCampaigns)
    (fun _ => List.forall_mem_nil _)
    (fun ops op s after ih _ hstep hall => hstep.readableCampaigns
      (hall op (List.mem_append_right _ List.mem_cons_self))
      (ih fun op hop => hall op (List.mem_append_left _ hop)))
    ops hops
  obtain rfl := Database.ready.inj (hs'.symm.trans hs)
  exact h hreadable

end Operation

namespace Session

theorem exists_run_mapM {α ρ : Type} {read : ρ → Session α} {db : Database} {rows : List ρ}
    (h : ∀ r ∈ rows, ∃ a, (read r).run db = (.ok a, db)) :
    ∃ as, (rows.mapM read).run db = (.ok as, db) := by
  induction rows with
  | nil => exact ⟨[], rfl⟩
  | cons r rows ih =>
    rw [List.forall_mem_cons] at h
    obtain ⟨a, ha⟩ := h.1
    obtain ⟨as, has⟩ := ih h.2
    refine ⟨a :: as, ?_⟩
    rw [List.mapM_cons, run_bind_ok ha, run_bind_ok has]
    rfl

theorem exists_run_listCampaigns {s : Store} (h : s.ReadableCampaigns) {shopId : Int}
    (hfits : fitsInt64 shopId = true) :
    ∃ cs, (listCampaigns shopId).run (.ready s) = (.ok cs, .ready s) := by
  have hquery := run_query_ready .campaigns [shopId]
    (fun s => (s.campaignsOf shopId).map fun r => (r, s.associationsOf r.id)) s
  rw [if_pos (by simp [hfits])] at hquery
  have hrows : ∀ r ∈ (s.campaignsOf shopId).map fun r => (r, s.associationsOf r.id),
      ∃ c, (reading (r.1.read r.2)).run (.ready s) = (.ok c, .ready s) := by
    intro r hr
    obtain ⟨row, hrow, rfl⟩ := List.mem_map.mp hr
    obtain ⟨id, shop, c, rfl, hc⟩ := h row (List.mem_filter.mp hrow).1
    rw [CampaignRow.read_ofRecord id shop hc]
    exact ⟨_, rfl⟩
  obtain ⟨cs, hcs⟩ := exists_run_mapM hrows
  exact ⟨cs, (run_bind_ok hquery).trans hcs⟩

end Session

end StudioQuote
