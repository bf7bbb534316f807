import StudioQuote.Proofs.Http.Body
import StudioQuote.Proofs.Publish.Loaded

/-!
# Endpoints without a store

A client that has loaded a form can ask which of its sections are visible and what a
selection costs by sending back the records of the form. They are read as they were
loaded, so the answers are those of the quote that is made from the store.
-/

namespace StudioQuote

open Json Number

/-- The answers that a selection adds are read back if the given ones are. -/
theorem Answers.isReadBack_ofSelection (categories : List Category) {selected : List Item}
    (hids : ∀ i ∈ selected, IsShort i.id) {values : Answers} {k : Nat}
    (h : (Json.obj values).IsReadBack ⟨false, k + 1⟩) :
    (Json.obj (ofSelection categories selected values)).IsReadBack ⟨false, k + 1⟩ := by
  rw [isReadBack_obj_iff] at h ⊢
  refine ⟨nodup_keys_ofSelection categories selected h.1, fun m hm => ?_⟩
  rcases List.mem_append.mp hm with hgiven | hadded
  · exact h.2 m hgiven
  · obtain ⟨i, hi, rfl⟩ := exists_item_of_mem_recorded (List.mem_filter.mp hadded).1
    have hregular : Regular True 0 (.int i.id) := .int i.id
    have hwhole : (Json.int i.id).HasWholeTexts := List.forall_mem_nil _
    exact ⟨(Text.isPlain_of_isUnmarked (isUnmarked_answerField _)).isWhole,
      (hregular.isReadBack_iff (Nat.zero_le k)).mpr
        ⟨hasShortIntegers_int.mpr (hids i hi), hwhole⟩⟩

/-! ## Visible sections -/

namespace SectionsRequest

/-- The members of the body that asks for the sections of a form. -/
def members (categories : List Category) (answers : Answers) : Members :=
  [("categories", Json.ofList Category.toJson categories), ("values", .obj answers)]

theorem read_members {f : PublishedForm} (h : f.IsExact) (answers : Answers) :
    read (.obj (members f.categories answers)) = .ok ⟨f.categories, answers⟩ := by
  have hcategories : Reader.list Category.read (Json.ofList Category.toJson f.categories) =
      .ok f.categories :=
    Reader.list_ofList_of_forall fun c hc => h.read_category hc
  simp [read, members, Reader.record, ofMembers, Members.required, Members.defaulted,
    List.lookup_cons, hcategories, Reader.dictionary]

/-- A client may send all answers that it could send by themselves. -/
theorem isReadBack_members {n : Nesting} {categories : List Category}
    (hshort : ∀ c ∈ categories, c.toJson.HasShortIntegers)
    (htexts : ∀ c ∈ categories, c.toJson.IsSendable) {selected : List Item}
    (hids : ∀ i ∈ selected, IsShort i.id) {values : Answers}
    (hvalues : (Json.obj [("values", .obj values)]).IsReadBack (.loose n)) :
    (Json.obj (members categories (Answers.ofSelection categories selected values))).IsReadBack
      (.loose n) := by
  obtain ⟨k, hk, hdepth⟩ := n.exists_depth_eq
  rw [Dialect.loose, hdepth] at hvalues ⊢
  have hkey : ∀ key ∈ ["categories", "values"], Text.IsWhole key := fun key hkey =>
    (Text.isPlain_of_isUnmarked (List.all_eq_true.mp (by decide) key hkey)).isWhole
  have hgiven := (isReadBack_obj_iff.mp hvalues).2 _ List.mem_cons_self
  have hcategories : (Json.ofList Category.toJson categories).IsReadBack ⟨false, k + 1⟩ :=
    ((Regular.ofList Category.regular_toJson categories).isReadBack_iff (by omega)).mpr
      ⟨hasShortIntegers_ofList.mpr hshort, (isSendable_ofList.mpr htexts).texts.hasWholeTexts⟩
  have hanswers := Answers.isReadBack_ofSelection categories hids hgiven.2
  have hnodup : ["categories", "values"].Nodup := by decide
  refine isReadBack_obj_iff.mpr ⟨hnodup, ?_⟩
  simp only [members, List.forall_mem_cons]
  exact ⟨⟨hkey _ (by decide), hcategories⟩, ⟨hkey _ (by decide), hanswers⟩, List.forall_mem_nil _⟩

end SectionsRequest

theorem VisibleSections.isSendable_group {categories : List Category}
    (h : ∀ c ∈ categories, c.toJson.IsSendable) (answers : Answers) :
    (group categories answers).toJson.IsSendable := by
  have hshown : ∀ c ∈ shown categories answers, c.toJson.IsSendable :=
    fun c hc => h c (List.mem_filter.mp hc).1
  have hfinal : ∀ c ∈ (group categories answers).commonFinal, c.toJson.IsSendable := by
    rw [group]
    split
    · exact fun c hc => hshown c (List.mem_filter.mp hc).1
    · exact List.forall_mem_nil _
  rw [toJson, isSendable_record ["has_trigger", "trigger", "conditional", "common_final"] rfl
    (by decide)]
  simp only [List.forall_mem_cons, isSendable_bool, isSendable_ofList, true_and]
  exact ⟨fun c hc => hshown c (List.mem_filter.mp hc).1,
    fun c hc => hshown c (List.mem_filter.mp hc).1, hfinal, List.forall_mem_nil _⟩

/-! ## Prices -/

namespace PriceRequest

theorem read_toJson {r : PriceRequest}
    (h : ∀ c ∈ r.campaigns, c.discountValue.isRepresentable = true) : read r.toJson = .ok r := by
  have hids := Reader.list_ofList Reader.int_int r.selectedItemIds
  have hitems := Reader.list_ofList Item.read_toJson r.items
  have hcampaigns := Reader.list_ofList_of_forall fun c hc => Campaign.read_toJson (h c hc)
  have hkey := Reader.nullable_ofOption Reader.int Json.int (fun _ => rfl) r.shootingCategoryId
  have hdate : ∀ d : Date, Reader.nullable Reader.date (.str d.text) = .ok (some d) := by
    intro d
    change Reading.map some (Reader.date (.str d.text)) = .ok (some d)
    rw [Date.read_text]
    rfl
  have htoday := Reader.nullable_ofOption Reader.date (fun d : Date => .str d.text) hdate r.today
  simp [read, toJson, Reader.record, ofMembers, Members.defaulted, Members.optional,
    List.lookup_cons, hids, hitems, hcampaigns, hkey, htoday]

theorem regular_toJson (r : PriceRequest) : Regular True 5 r.toJson := by
  refine .obj (by simp) ?_
  have hids := Regular.ofList (Regular.int : ∀ n, Regular True 3 (.int n)) r.selectedItemIds
  have hitems := Regular.ofList (Item.regular_toJson 2) r.items
  have hcampaigns := Regular.ofList (Campaign.regular_toJson 0) r.campaigns
  simp [Regular.int, Regular.str, Regular.ofOption, hids, hitems, hcampaigns]

theorem isReadBack_toJson {r : PriceRequest} (hids : ∀ id ∈ r.selectedItemIds, IsShort id)
    (hitems : ∀ i ∈ r.items, i.toJson.HasShortIntegers ∧ i.toJson.IsSendable)
    (hcampaigns : ∀ c ∈ r.campaigns, c.toJson.HasShortIntegers ∧ c.toJson.IsSendable)
    (hkey : ∀ key, r.shootingCategoryId = some key → IsShort key) (n : Nesting) :
    r.toJson.IsReadBack (.loose n) := by
  have hshort : r.toJson.HasShortIntegers := by
    rw [toJson, hasShortIntegers_obj]
    simpa using ⟨hids, fun i hi => (hitems i hi).1, fun c hc => (hcampaigns c hc).1, hkey⟩
  have hsendable : r.toJson.IsSendable := by
    rw [toJson, isSendable_record
      ["selected_item_ids", "items", "campaigns", "shooting_category_id", "today"] rfl (by decide)]
    simpa using ⟨fun i hi => (hitems i hi).2, fun c hc => (hcampaigns c hc).2⟩
  exact (r.regular_toJson.isReadBack_loose_iff (by decide) n).mpr
    ⟨hshort, hsendable.texts.hasWholeTexts⟩

end PriceRequest

theorem PriceBreakdown.isSendable_toJson {p : PriceBreakdown}
    (h : ∀ c, p.appliedCampaign = some c → c.toJson.IsSendable) : p.toJson.IsSendable := by
  rw [toJson, isSendable_record ["subtotal", "discount", "tax", "total", "applied_campaign"] rfl
    (by decide)]
  simpa using h

/-! ## Answers to what was loaded -/

namespace PublishedForm

/-- Whether the records of a form can be sent and are read as they were sent. -/
structure IsResendable (f : PublishedForm) : Prop extends f.IsExact where
  short : f.toJson.HasShortIntegers
  sendable : f.toJson.IsSendable

namespace IsResendable

variable {f : PublishedForm} (h : f.IsResendable)

include h

theorem category {c : Category} (hc : c ∈ f.categories) :
    c.toJson.HasShortIntegers ∧ c.toJson.IsSendable :=
  ⟨(hasShortIntegers_toJson_iff.mp h.short).1 c hc, (isSendable_toJson_iff.mp h.sendable).1 c hc⟩

theorem item {i : Item} (hi : i ∈ f.items) : i.toJson.HasShortIntegers ∧ i.toJson.IsSendable :=
  ⟨(hasShortIntegers_toJson_iff.mp h.short).2.1 i hi,
    (isSendable_toJson_iff.mp h.sendable).2.1 i hi⟩

theorem campaign {c : Campaign} (hc : c ∈ f.campaigns) :
    c.toJson.HasShortIntegers ∧ c.toJson.IsSendable :=
  ⟨(hasShortIntegers_toJson_iff.mp h.short).2.2 c hc,
    (isSendable_toJson_iff.mp h.sendable).2.2 c hc⟩

theorem isReadBack_category {c : Category} (hc : c ∈ f.categories) :
    (∀ n, c.toJson.IsReadBack (.loose n)) ∧ Category.read c.toJson = .ok c :=
  ⟨fun n => (c.regular_toJson.isReadBack_loose_iff (by decide) n).mpr
    ⟨(h.category hc).1, (h.category hc).2.texts.hasWholeTexts⟩, h.read_category hc⟩

theorem isReadBack_item {i : Item} (hi : i ∈ f.items) :
    (∀ n, i.toJson.IsReadBack (.loose n)) ∧ Item.read i.toJson = .ok i :=
  ⟨fun n => ((i.regular_toJson 0).isReadBack_loose_iff (by decide) n).mpr
    ⟨(h.item hi).1, (h.item hi).2.texts.hasWholeTexts⟩, i.read_toJson⟩

theorem isReadBack_campaign {c : Campaign} (hc : c ∈ f.campaigns) :
    (∀ n, c.toJson.IsReadBack (.loose n)) ∧ Campaign.read c.toJson = .ok c :=
  ⟨fun n => ((c.regular_toJson 0).isReadBack_loose_iff (by decide) n).mpr
    ⟨(h.campaign hc).1, (h.campaign hc).2.texts.hasWholeTexts⟩, h.read_campaign hc⟩

theorem isShort_id {id : Int} (hid : ∃ i ∈ f.items, i.id = id) : IsShort id := by
  obtain ⟨i, hi, rfl⟩ := hid
  have hshort := (h.item hi).1
  rw [Item.toJson, hasShortIntegers_obj] at hshort
  exact hasShortIntegers_int.mp (hshort ("id", .int i.id) List.mem_cons_self)

end IsResendable

end PublishedForm

namespace Http

theorem onPath_visibleSections :
    Endpoint.onPath (segments "/api/sections/visible") = [(.visibleSections, [])] := by
  have hsegments : segments "/api/sections/visible" = ["api", "sections", "visible"] := by
    decide +kernel
  rw [hsegments]
  rfl

theorem onPath_price : Endpoint.onPath (segments "/api/price") = [(.price, [])] := by
  have hsegments : segments "/api/price" = ["api", "price"] := by
    decide +kernel
  rw [hsegments]
  rfl

/-- Whether a posted value is answered with another one, however it is laid out and whatever
is stored, and nothing is changed. -/
def IsAnswered (c : Conditions) (target : String) (body answer : Json) : Prop :=
  ∀ l : Layout, l.Readable → ∀ (requestId : Option String) (db : Database),
    serve c (.post target l body requestId) db =
      (⟨200, some (RequestId.choose c.freshId requestId), .json answer⟩, db)

variable {f : PublishedForm} {c : Conditions} {ids : List Int}

theorem command_visibleSections (hexact : f.IsExact) (answers : Answers) :
    Endpoint.command c [] (some (.obj (SectionsRequest.members f.categories answers)))
      .visibleSections = .ok (.reply (VisibleSections.group f.categories answers).toJson) := by
  rw [Endpoint.command, Endpoint.readBody, Option.map_some, SectionsRequest.read_members hexact]
  rfl

theorem isAnswered_visibleSections (h : f.IsResendable) {values : Answers}
    (hvalues : (Json.obj [("values", .obj values)]).IsReadBack (.loose c.bodyNesting)) :
    IsAnswered c "/api/sections/visible"
      (.obj (SectionsRequest.members f.categories (Quote.answers f values ids)))
      (VisibleSections.group f.categories (Quote.answers f values ids)).toJson := by
  intro l hl requestId db
  have hselected : ∀ i ∈ Item.resolve ids f.items, IsShort i.id := fun i hi =>
    h.isShort_id ⟨i, Item.mem_of_mem_resolve hi, rfl⟩
  exact serve_post onPath_visibleSections rfl rfl
    (VisibleSections.isSendable_group (fun c hc => (h.category hc).2) _)
    (SectionsRequest.isReadBack_members (fun c hc => (h.category hc).1)
      (fun c hc => (h.category hc).2) hselected hvalues)
    (command_visibleSections h.toIsExact _) hl requestId db

section Price

variable {key : Int} {today : Date} {p : PriceBreakdown}
  (hprice : PriceBreakdown.ofSelection? (Item.resolve ids f.items) f.campaigns (some key) today
    c.taxRate = .ok p)

include hprice

theorem command_price (hexact : f.IsExact) :
    Endpoint.command c []
      (some (PriceRequest.toJson ⟨ids, f.items, f.campaigns, some key, some today⟩)) .price =
        .ok (.reply p.toJson) := by
  rw [Endpoint.command, Endpoint.readBody, Option.map_some,
    PriceRequest.read_toJson hexact.discounts]
  have hcommand : Endpoint.priceCommand c ⟨ids, f.items, f.campaigns, some key, some today⟩ =
      .reply p.toJson := by
    rw [Endpoint.priceCommand, PriceRequest.price?, Option.getD_some, hprice]
  exact congrArg Reading.ok hcommand

theorem isAnswered_price (h : f.IsResendable) (hids : ∀ id ∈ ids, ∃ i ∈ f.items, i.id = id)
    (hkey : IsShort key) :
    IsAnswered c "/api/price"
      (PriceRequest.toJson ⟨ids, f.items, f.campaigns, some key, some today⟩) p.toJson := by
  intro l hl requestId db
  have happlied : ∀ campaign, p.appliedCampaign = some campaign →
      campaign.toJson.IsSendable := by
    intro campaign hcampaign
    obtain rfl := PriceBreakdown.eq_of_ofSelection? hprice
    exact (h.campaign (List.mem_of_find?_eq_some hcampaign)).2
  have hread : (PriceRequest.toJson
      ⟨ids, f.items, f.campaigns, some key, some today⟩).IsReadBack (.loose c.bodyNesting) := by
    refine PriceRequest.isReadBack_toJson (fun id hid => h.isShort_id (hids id hid))
      (fun i hi => h.item hi) (fun c hc => h.campaign hc) (fun k hk => ?_) c.bodyNesting
    obtain rfl := Option.some.inj hk
    exact hkey
  exact serve_post onPath_price rfl rfl (PriceBreakdown.isSendable_toJson happlied) hread
    (command_price hprice h.toIsExact) hl requestId db

end Price

end Http

namespace Operation

variable {n : Nesting} {shopId key : Int} {data : PublishedForm}

theorem execute_loadForm {db : Database}
    (hload : ((loadForm n shopId key).run db).1 = .ok (.form data))
    (hsendable : data.toJson.IsSendable) (id : String) :
    Http.execute id (.perform (.loadForm n shopId key)) db =
      (⟨200, some id, .json data.toJson⟩, db) := by
  have hrun : (loadForm n shopId key).run db = (.ok (.form data), db) :=
    Prod.ext hload ((Session.readOnly_loadForm n shopId key).map _ db)
  have hreply : Http.Response.reply? id (Answer.form data).toJson =
      some ⟨200, some id, .json data.toJson⟩ := by
    have hjson : (Answer.form data).toJson = data.toJson := rfl
    rw [hjson, Http.Response.reply?, hsendable.finitePart, if_pos hsendable.isShowable]
  rw [Http.execute, hrun]
  simp only [hreply, Option.getD_some]

/-- The endpoints that need no store agree with quotes. After every run in which no column is
overwritten by hand, a form that can be sent is the answer to the request for it, and each of
its records is read as it was sent. The sections that are visible for the answers of a
selection are then those of the quote on that selection, and the price of the items that the
quote charges is that of the quote. -/
theorem stateless_endpoints_agree (ops : List Operation) (hops : ∀ op ∈ ops, op.isPatch = false)
    (hload : ((loadForm n shopId key).run (runAll ops fresh).2).1 = .ok (.form data))
    (hsendable : data.toJson.IsSendable) :
    (∀ id, Http.execute id (.perform (.loadForm n shopId key)) (runAll ops fresh).2 =
        (⟨200, some id, .json data.toJson⟩, (runAll ops fresh).2)) ∧
      (∀ c ∈ data.categories,
        (∀ m, c.toJson.IsReadBack (.loose m)) ∧ Category.read c.toJson = .ok c) ∧
      (∀ i ∈ data.items, (∀ m, i.toJson.IsReadBack (.loose m)) ∧ Item.read i.toJson = .ok i) ∧
      (∀ c ∈ data.campaigns,
        (∀ m, c.toJson.IsReadBack (.loose m)) ∧ Campaign.read c.toJson = .ok c) ∧
      ∀ (c : Http.Conditions) (values : Answers) (ids : List Int) (today : Date) (q : Quote),
        ((quote n shopId key values ids today c.taxRate).run (runAll ops fresh).2).1 =
          .ok (.quote q) →
        let answers := Answers.ofSelection data.categories (Item.resolve ids data.items) values
        let body := Json.obj (SectionsRequest.members data.categories answers)
        Http.Endpoint.command c [] (some body) .visibleSections = .ok (.reply q.sections.toJson) ∧
          ((Json.obj [("values", .obj values)]).IsReadBack (.loose c.bodyNesting) →
            Http.IsAnswered c "/api/sections/visible" body q.sections.toJson) ∧
          Http.IsAnswered c "/api/price"
            (PriceRequest.toJson
              ⟨q.selectedItemIds, data.items, data.campaigns, some key, some today⟩)
            q.price.toJson := by
  obtain ⟨hfits, hexact, hshort⟩ := loadForm_of_run ops hops hload
  have hdata : data.IsResendable := ⟨hexact, hshort, hsendable⟩
  refine ⟨execute_loadForm hload hsendable, fun c hc => hdata.isReadBack_category hc,
    fun i hi => hdata.isReadBack_item hi, fun c hc => hdata.isReadBack_campaign hc, ?_⟩
  intro c values ids today q hquote
  obtain ⟨form, after, hform, hbuild⟩ := quote_eq_ok hquote
  obtain rfl : form = data := by
    rw [Operation.run, perform, Session.run_map, hform] at hload
    cases hload
    rfl
  have hprice := Quote.price_of_build? _ _ _ _ _ _ hbuild
  obtain rfl := Quote.eq_build_of_build? _ _ _ _ _ _ hbuild
  have hkey : IsShort key :=
    isShort_of_fits (List.all_eq_true.mp hfits key (by simp))
  exact ⟨Http.command_visibleSections hexact _,
    fun hvalues => Http.isAnswered_visibleSections hdata hvalues,
    Http.isAnswered_price hprice hdata (fun id hid => Quote.exists_item_of_mem_pricedIds hid) hkey⟩

theorem isSendable_campaignForm {items : List Item}
    (hperm : items.Perm portraitDraft.customerForm.items) :
    (PublishedForm.mk portraitDraft.customerForm.categories items
      [{ winterCampaign with id := some 1 },
        { springCampaign with id := some 2 }]).toJson.IsSendable := by
  have hcategories : ∀ c ∈ portraitDraft.customerForm.categories,
      c.toJson.texts.all Text.isUnmarked = true ∧ c.toJson.HasFiniteFloats := by decide +kernel
  have hitems : ∀ i ∈ portraitDraft.customerForm.items,
      i.toJson.texts.all Text.isUnmarked = true ∧ i.toJson.HasFiniteFloats := by decide +kernel
  have hcampaigns : ∀ c ∈ [{ winterCampaign with id := some 1 },
      { springCampaign with id := some 2 }],
      c.toJson.texts.all Text.isUnmarked = true ∧ c.toJson.HasFiniteFloats := by decide +kernel
  refine PublishedForm.isSendable_toJson_iff.mpr ⟨fun c hc => ?_, fun i hi => ?_, fun c hc => ?_⟩
  · exact isSendable_of_forall (hcategories c hc).1 (hcategories c hc).2
  · have hi := hperm.mem_iff.mp hi
    exact isSendable_of_forall (hitems i hi).1 (hitems i hi).2
  · exact isSendable_of_forall (hcampaigns c hc).1 (hcampaigns c hc).2

def visitConditions : Http.Conditions where
  taxRate := standardTaxRate
  today := visitDay
  freshId := "visit"
  bodyNesting := default
  ruleNesting := default
  draws := []

/-- A client that has loaded the form of portraits is told what the quote on the day of the visit
says. -/
theorem spring_quote_is_answered :
    ∃ data, ((loadForm default 1 7).run (runAll campaignRun fresh).2).1 = .ok (.form data) ∧
      Http.IsAnswered visitConditions "/api/sections/visible"
        (.obj (SectionsRequest.members data.categories
          (Answers.ofSelection data.categories (Item.resolve [100, 101, 200] data.items) [])))
        (portraitDraft.sections [100, 101, 200]).toJson ∧
      Http.IsAnswered visitConditions "/api/price"
        (PriceRequest.toJson ⟨[100, 101, 200], data.items, data.campaigns, some 7, some visitDay⟩)
        (PriceBreakdown.mk 16000 500 1550 17050
          (some { springCampaign with id := some 2 })).toJson := by
  obtain ⟨items, hperm, hload⟩ := loadForm_campaignRun default
  have hform : ((loadForm default 1 7).run (runAll campaignRun fresh).2).1 =
      .ok (.form ⟨portraitDraft.customerForm.categories, items,
        [{ winterCampaign with id := some 1 }, { springCampaign with id := some 2 }]⟩) := by
    rw [Operation.run, perform, Session.run_map, hload]
    rfl
  have hvalues : (Json.obj [("values", .obj [])]).IsReadBack (.loose default) :=
    isReadBack_iff.mpr ⟨rfl, rfl⟩
  obtain ⟨-, -, -, -, hagree⟩ := stateless_endpoints_agree campaignRun
    (by simp [campaignRun, isPatch]) hform (isSendable_campaignForm hperm)
  obtain ⟨-, hsections, hprice⟩ := hagree visitConditions []
    [100, 101, 200] visitDay _ quote_campaignRun
  exact ⟨_, hform, hsections hvalues, hprice⟩

end Operation

end StudioQuote
