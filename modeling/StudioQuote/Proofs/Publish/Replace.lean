import StudioQuote.Proofs.Store.Bindable

/-!
# Replacing a published form

Rows are inserted one by one, and the first one that cannot be stored or whose id is taken
ends the transaction. So a form is replaced exactly if its rules can be written, every integer
and every name in it can be stored, its ids are distinct, and none of them is left in the
tables once its old rows are deleted.
-/

namespace StudioQuote

open Number

/-- Whether new ids are distinct and none of them is taken. -/
def Fresh (taken new : List Int) : Prop :=
  new.Nodup ∧ ∀ id ∈ new, id ∉ taken

instance (taken new : List Int) : Decidable (Fresh taken new) :=
  inferInstanceAs (Decidable (_ ∧ _))

theorem fresh_nil (taken : List Int) : Fresh taken [] :=
  ⟨List.nodup_nil, List.forall_mem_nil _⟩

theorem fresh_cons {taken new : List Int} {id : Int} :
    Fresh taken (id :: new) ↔ id ∉ taken ∧ Fresh (taken ++ [id]) new := by
  simp only [Fresh, List.nodup_cons, List.forall_mem_cons, List.mem_append, List.mem_singleton,
    not_or]
  constructor
  · rintro ⟨⟨hid, hnew⟩, htaken, hall⟩
    exact ⟨htaken, hnew, fun id' h => ⟨hall id' h, fun heq => hid (heq ▸ h)⟩⟩
  · rintro ⟨htaken, hnew, hall⟩
    exact ⟨⟨fun h => (hall id h).2 rfl, hnew⟩, htaken, fun id' h => (hall id' h).1⟩

namespace Store

def withoutForm (s : Store) (shopId form : Int) : Store :=
  (s.deleteFormItems shopId form).deleteFormCategories shopId form

def withForm (s : Store) (shopId form : Int) (r : FormRecords) : Store :=
  { s with
    categories := (s.withoutForm shopId form).categories ++
      r.categories.map (CategoryRow.ofRecord shopId form)
    items := (s.withoutForm shopId form).items ++ r.items.map (ItemRow.ofRecord shopId) }

/-- Whether the ids of a form are distinct and not those of rows of another form. -/
def Accepts (s : Store) (shopId form : Int) (r : FormRecords) : Prop :=
  Fresh ((s.withoutForm shopId form).categories.map CategoryRow.id)
    (r.categories.map Category.id) ∧
  Fresh ((s.withoutForm shopId form).items.map ItemRow.id) (r.items.map Item.id)

end Store

/-- Whether everything in the records of a form can be stored. -/
structure FormRecords.Fits (shopId form : Int) (r : FormRecords) : Prop where
  key : [shopId, form].all fitsInt64 = true
  category : ∀ c ∈ r.categories, (c.parameters shopId form).all fitsInt64 = true
  item : ∀ i ∈ r.items, (i.parameters shopId).all fitsInt64 = true
  categoryNames : ∀ c ∈ r.categories, ∀ s ∈ c.names, Text.IsPlain s
  itemNames : ∀ i ∈ r.items, ∀ s ∈ i.names, Text.IsPlain s
  rules : ∀ c ∈ r.categories, ∀ rule ∈ c.rule, rule.toStoredJson.HasShortIntegers

/-- With a key and rules that can be stored, the records can be if all cells of their rows can. -/
theorem FormRecords.fits_iff {shopId form : Int} {r : FormRecords}
    (hkey : [shopId, form].all fitsInt64 = true)
    (hrules : ∀ c ∈ r.categories, ∀ rule ∈ c.rule, rule.toStoredJson.HasShortIntegers) :
    r.Fits shopId form ↔
      (∀ row ∈ r.categories.map (CategoryRow.ofRecord shopId form),
        ∀ cell ∈ row.cells, cell.IsBindable) ∧
      ∀ row ∈ r.items.map (ItemRow.ofRecord shopId), ∀ cell ∈ row.cells, cell.IsBindable := by
  simp only [List.forall_mem_map, CategoryRow.isBindable_ofRecord_iff,
    ItemRow.isBindable_ofRecord_iff]
  constructor
  · intro h
    exact ⟨fun c hc => ⟨h.category c hc, h.categoryNames c hc⟩,
      fun i hi => ⟨h.item i hi, h.itemNames i hi⟩⟩
  · rintro ⟨hcategories, hitems⟩
    exact ⟨hkey, fun c hc => (hcategories c hc).1, fun i hi => (hitems i hi).1,
      fun c hc => (hcategories c hc).2, fun i hi => (hitems i hi).2, hrules⟩

namespace Session

/-- How a session ends that stores rows: with all of them stored, at one that cannot be stored,
or at one whose id is taken. -/
inductive Stores (x : Session Unit) (s after : Store) (fits accepts : Prop) : Prop where
  | stored (hrun : x.run (.ready s) = (.ok (), .ready after)) (hfits : fits) (haccepts : accepts)
  | unstorable {e : Failure} {db : Database} (hrun : x.run (.ready s) = (.error e, db))
      (he : e.IsUnstorable) (hunfit : ¬ fits)
  | taken {table : Table} {db : Database}
      (hrun : x.run (.ready s) = (.error (.storage .formPublishing (.idTaken table)), db))
      (htaken : ¬ accepts)

namespace Stores

variable {x y : Session Unit} {s middle after : Store} {fits accepts fits' accepts' : Prop}

theorem congr (h : Stores x s after fits accepts) (hfits : fits ↔ fits')
    (haccepts : accepts ↔ accepts') : Stores x s after fits' accepts' := by
  rwa [← propext hfits, ← propext haccepts]

/-- Rows that are stored after others. -/
theorem bind (hx : Stores x s middle fits accepts) (hy : Stores y middle after fits' accepts') :
    Stores (x >>= fun _ => y) s after (fits ∧ fits') (accepts ∧ accepts') := by
  cases hx with
  | stored hrun hfits haccepts =>
    cases hy with
    | stored hrun' hfits' haccepts' =>
      exact .stored ((run_bind_ok hrun).trans hrun') ⟨hfits, hfits'⟩ ⟨haccepts, haccepts'⟩
    | unstorable hrun' he hunfit =>
      exact .unstorable ((run_bind_ok hrun).trans hrun') he fun h => hunfit h.2
    | taken hrun' htaken => exact .taken ((run_bind_ok hrun).trans hrun') fun h => htaken h.2
  | unstorable hrun he hunfit => exact .unstorable (run_bind_error hrun) he fun h => hunfit h.1
  | taken hrun htaken => exact .taken (run_bind_error hrun) fun h => htaken h.1

end Stores

theorem stores_attempt {first table : Table} {cells : List Cell}
    {f : Store → Except StorageFault Store} {s after : Store} {taken : Prop}
    [Decidable taken] (hf : f s = if taken then .error (.idTaken table) else .ok after) :
    Stores (attempt .formPublishing first cells fun s => (f s).map ((), ·)) s after
      (∀ c ∈ cells, c.IsBindable) (¬ taken) := by
  by_cases hbind : ∀ c ∈ cells, c.IsBindable
  · have hattempt := run_attempt_of_bindable hbind .formPublishing first
      (fun s => (f s).map ((), ·)) s
    rw [hf] at hattempt
    by_cases htaken : taken
    · rw [if_pos htaken] at hattempt
      exact .taken hattempt (not_not_intro htaken)
    · rw [if_neg htaken] at hattempt
      exact .stored hattempt hbind htaken
  · obtain ⟨c, -, e, he, hattempt⟩ := run_attempt_of_not_bindable hbind .formPublishing first
      (fun s => (f s).map ((), ·)) s
    exact .unstorable hattempt (isUnstorable_of_bindFailure? he) hbind

/-- Rows that are inserted one by one are all stored if their ids are fresh. -/
theorem stores_forM {ρ : Type} {first table : Table} (cells : ρ → List Cell) {id : ρ → Int}
    {insert : Store → ρ → Except StorageFault Store} (rows : Store → List ρ)
    (put : Store → List ρ → Store)
    (hinsert : ∀ s r, insert s r =
      if (rows s).any (id · == id r) then .error (.idTaken table) else .ok (put s (rows s ++ [r])))
    (hrows : ∀ s l, rows (put s l) = l) (hput : ∀ s l l', put (put s l) l' = put s l')
    (hself : ∀ s, put s (rows s) = s) (new : List ρ) (s : Store) :
    Stores (new.forM fun r => attempt .formPublishing first (cells r) fun s =>
        (insert s r).map ((), ·)) s (put s (rows s ++ new))
      (∀ r ∈ new, ∀ c ∈ cells r, c.IsBindable) (Fresh ((rows s).map id) (new.map id)) := by
  induction new generalizing s with
  | nil =>
    rw [List.append_nil, hself]
    exact .stored rfl (List.forall_mem_nil _) (fresh_nil _)
  | cons r new ih =>
    have htaken : ¬ (rows s).any (id · == id r) = true ↔ id r ∉ (rows s).map id := by
      simp only [List.any_eq_true, beq_iff_eq, List.mem_map]
    have hfirst : Stores (attempt .formPublishing first (cells r) fun s =>
        (insert s r).map ((), ·)) s (put s (rows s ++ [r])) (∀ c ∈ cells r, c.IsBindable)
        (¬ (rows s).any (id · == id r) = true) := stores_attempt (f := (insert · r)) (hinsert s r)
    have hrest := ih (put s (rows s ++ [r]))
    rw [hrows, hput, List.append_assoc, List.singleton_append] at hrest
    refine (hfirst.bind hrest).congr ?_ ?_
    · rw [List.forall_mem_cons]
    · rw [htaken, List.map_cons, fresh_cons, List.map_append]
      rfl

theorem stores_categoryRows (new : List CategoryRow) (s : Store) :
    Stores (new.forM insertCategoryRow) s { s with categories := s.categories ++ new }
      (∀ r ∈ new, ∀ c ∈ r.cells, c.IsBindable)
      (Fresh (s.categories.map CategoryRow.id) (new.map CategoryRow.id)) :=
  stores_forM CategoryRow.cells Store.categories (fun s l => { s with categories := l })
    (fun _ _ => rfl) (fun _ _ => rfl) (fun _ _ _ => rfl) (fun _ => rfl) new s

theorem stores_itemRows (new : List ItemRow) (s : Store) :
    Stores (new.forM insertItemRow) s { s with items := s.items ++ new }
      (∀ r ∈ new, ∀ c ∈ r.cells, c.IsBindable)
      (Fresh (s.items.map ItemRow.id) (new.map ItemRow.id)) :=
  stores_forM ItemRow.cells Store.items (fun s l => { s with items := l })
    (fun _ _ => rfl) (fun _ _ => rfl) (fun _ _ _ => rfl) (fun _ => rfl) new s

def insertRows (shopId form : Int) (r : FormRecords) : Session Unit := do
  let rows ← writable (categoryRows? shopId form r.categories)
  rows.forM insertCategoryRow
  (r.items.map (ItemRow.ofRecord shopId)).forM insertItemRow

/-- The rows of a form are stored after its old ones are deleted, unless a rule cannot be
written, and then not even the first row is. -/
theorem stores_insertRows {shopId form : Int} (hkey : [shopId, form].all fitsInt64 = true)
    (r : FormRecords) (s : Store) :
    Stores (insertRows shopId form r) (s.withoutForm shopId form) (s.withForm shopId form r)
      (r.Fits shopId form) (s.Accepts shopId form r) := by
  rw [insertRows, categoryRows?]
  by_cases hrules : ∀ c ∈ r.categories, ∀ rule ∈ c.rule, rule.toStoredJson.HasShortIntegers
  · have hcategories := stores_categoryRows (r.categories.map (CategoryRow.ofRecord shopId form))
      (s.withoutForm shopId form)
    have hitems := stores_itemRows (r.items.map (ItemRow.ofRecord shopId))
      { s.withoutForm shopId form with
        categories := (s.withoutForm shopId form).categories ++
          r.categories.map (CategoryRow.ofRecord shopId form) }
    rw [List.map_map] at hcategories hitems
    rw [if_pos hrules]
    exact (hcategories.bind hitems).congr (r.fits_iff hkey hrules).symm Iff.rfl
  · rw [if_neg hrules]
    exact .unstorable (e := .integerTooLong) rfl trivial fun hfits => hrules hfits.rules

theorem run_replacePublishedForm (shopId form : Int) (r : FormRecords) (s : Store) :
    ((replacePublishedForm shopId form r.categories r.items).run (.ready s) =
        (.ok (), .ready (s.withForm shopId form r)) ∧
      r.Fits shopId form ∧ s.Accepts shopId form r) ∨
    (∃ e, (replacePublishedForm shopId form r.categories r.items).run (.ready s) =
        (.error e, .ready s) ∧ e.IsUnstorable ∧ ¬ r.Fits shopId form) ∨
    ∃ table, (replacePublishedForm shopId form r.categories r.items).run (.ready s) =
        (.error (.publishConflict form (.idTaken table)), .ready s) ∧
      ¬ s.Accepts shopId form r := by
  have hreplace : replacePublishedForm shopId form r.categories r.items =
      relabelled (replacePublishedForm.relabel form) (transaction do
        write .formPublishing .items [shopId, form] (·.deleteFormItems shopId form)
        write .formPublishing .productCategories [shopId, form]
          (·.deleteFormCategories shopId form)
        insertRows shopId form r) :=
    rfl
  rw [hreplace, run_relabelled, run_transaction]
  have hitems := run_write_ready .formPublishing .items [shopId, form]
    (·.deleteFormItems shopId form) s
  have hcategories := run_write_ready .formPublishing .productCategories [shopId, form]
    (·.deleteFormCategories shopId form) (s.deleteFormItems shopId form)
  by_cases hkey : [shopId, form].all fitsInt64 = true
  · rw [if_pos hkey] at hitems hcategories
    rw [run_bind_ok hitems, run_bind_ok hcategories, ← Store.withoutForm]
    cases stores_insertRows hkey r s with
    | stored hrun hfits haccepts =>
      rw [hrun]
      exact Or.inl ⟨rfl, hfits, haccepts⟩
    | @unstorable e db hrun he hunfit =>
      have hrelabel : replacePublishedForm.relabel form e = e := by
        cases e with
        | storage task fault => cases he
        | _ => rfl
      rw [hrun]
      exact Or.inr (Or.inl ⟨e, congrArg (Except.error ·, Database.ready s) hrelabel, he, hunfit⟩)
    | @taken table db hrun htaken =>
      rw [hrun]
      exact Or.inr (Or.inr ⟨table, rfl, htaken⟩)
  · rw [if_neg hkey] at hitems
    rw [run_bind_error hitems]
    exact Or.inr (Or.inl ⟨.integerTooWide, rfl, trivial, fun hfits => hkey hfits.key⟩)

end Session

end StudioQuote
