import StudioQuote.Proofs.Session

/-!
# Failed operations

Every operation is atomic: whatever part of it fails, the database is as it was. So an
operation that fails can be left out of a run, and every other operation of the run has
the same outcome.
-/

namespace StudioQuote

open Number

namespace Session

theorem atomic_initSchema : initSchema.Atomic := by
  intro db e he
  cases db with
  | unopenable => rfl
  | blank => cases he
  | ready s => rfl

theorem atomic_createShootingCategory (c : ShootingCategory) (draws : List Nat) :
    (createShootingCategory c draws).Atomic := by
  rw [createShootingCategory]
  exact (atomic_attempt _ _ _ _).bind_pure fun id => { c with id := some id }

theorem readOnly_listShootingCategories (shopId : Int) :
    (listShootingCategories shopId).ReadOnly :=
  readOnly_query _ _ _

theorem readOnly_getShootingCategory (shopId id : Int) :
    (getShootingCategory shopId id).ReadOnly :=
  readOnly_query _ _ _

theorem readOnly_readCategory (n : Json.Nesting) (r : CategoryRow) :
    (readCategory n r).ReadOnly := by
  rw [readCategory]
  cases r.storedRule n with
  | error fault => exact readOnly_throw _
  | ok rule => exact readOnly_reading _

theorem readOnly_listCategories (n : Json.Nesting) (shopId : Int) (form : Option Int) :
    (listCategories n shopId form).ReadOnly :=
  (readOnly_query _ _ _).bind fun rows => ReadOnly.mapM (readOnly_readCategory n) rows

theorem readOnly_listItems (shopId : Int) (categoryId : Option Int) :
    (listItems shopId categoryId).ReadOnly :=
  (readOnly_query _ _ _).bind fun rows => ReadOnly.mapM (fun r => readOnly_reading r.read) rows

theorem readOnly_listCampaigns (shopId : Int) : (listCampaigns shopId).ReadOnly :=
  (readOnly_query _ _ _).bind fun rows =>
    ReadOnly.mapM (fun r => readOnly_reading (r.1.read r.2)) rows

theorem atomic_createCampaign (c : Campaign) : (createCampaign c).Atomic :=
  atomic_transaction _

theorem atomic_replacePublishedForm (shopId form : Int) (categories : List Category)
    (items : List Item) : (replacePublishedForm shopId form categories items).Atomic :=
  (atomic_transaction _).relabelled _

theorem readOnly_getDraft (shopId form : Int) : (getDraft shopId form).ReadOnly := by
  refine (readOnly_query _ _ _).bind fun text => ?_
  cases text with
  | none => exact readOnly_pure none
  | some text => exact (readOnly_reading _).bind fun d => readOnly_pure (some d)

theorem readOnly_draftText (d : Draft) : (draftText d).ReadOnly := by
  rw [draftText]
  split
  · exact readOnly_pure _
  · exact readOnly_throw _

theorem atomic_saveDraft (d : Draft) : (saveDraft d).Atomic := by
  rw [saveDraft]
  cases d.shopId with
  | none => exact (readOnly_throw _).atomic
  | some shopId =>
    exact (readOnly_draftText d).bind_atomic fun _ => (atomic_attempt _ _ _ _).bind_pure fun _ => d

theorem readOnly_loadDraft (shopId form : Int) : (loadDraft shopId form).ReadOnly := by
  refine (readOnly_getDraft shopId form).bind fun d => ?_
  cases d with
  | none => exact readOnly_throw _
  | some d => exact readOnly_pure d

theorem readOnly_newDraftName (shopId form : Int) (name : String) :
    (newDraftName shopId form name).ReadOnly := by
  rw [newDraftName]
  split
  · exact readOnly_pure name
  · exact (readOnly_getShootingCategory shopId form).bind fun c => readOnly_pure _

theorem readOnly_loadOrInitDraft (shopId form : Int) (name : String) :
    (loadOrInitDraft shopId form name).ReadOnly := by
  refine (readOnly_getDraft shopId form).bind fun d => ?_
  cases d with
  | none => exact (readOnly_newDraftName shopId form name).bind fun n => readOnly_pure _
  | some d => exact readOnly_pure d

theorem atomic_addStep (shopId form : Int) (type : FormSection) (category : DraftCategory)
    (condition : Option DraftCondition) : (addStep shopId form type category condition).Atomic :=
  (readOnly_loadOrInitDraft shopId form "").bind_atomic fun _ =>
    (readOnly_edit _).bind_atomic fun d => atomic_saveDraft d

theorem atomic_removeStep (shopId form position : Int) :
    (removeStep shopId form position).Atomic :=
  (readOnly_loadDraft shopId form).bind_atomic fun _ => atomic_saveDraft _

theorem readOnly_previewDraft (shopId form : Int) : (previewDraft shopId form).ReadOnly :=
  (readOnly_loadDraft shopId form).bind fun _ => readOnly_writable _

/-- The draft is loaded, checked and flattened before the transaction begins. -/
theorem atomic_publish (shopId form : Int) : (publish shopId form).Atomic := by
  have hreplace : ∀ d : Draft, (do
      let records ← writable d.customerForm?
      replacePublishedForm shopId form records.categories records.items
      pure records : Session FormRecords).Atomic := fun d =>
    (readOnly_writable _).bind_atomic fun records =>
      (atomic_replacePublishedForm _ _ _ _).bind_pure fun _ => records
  refine (readOnly_loadDraft shopId form).bind_atomic fun d => ?_
  split
  · exact (readOnly_throw _).bind_atomic fun _ => hreplace d
  · exact hreplace d

theorem readOnly_loadForm (n : Json.Nesting) (shopId form : Int) :
    (loadForm n shopId form).ReadOnly :=
  (readOnly_listCategories n shopId (some form)).bind fun _ =>
    (readOnly_listItems shopId none).bind fun _ =>
      (readOnly_listCampaigns shopId).bind fun _ => readOnly_pure _

theorem readOnly_quote (n : Json.Nesting) (shopId form : Int) (values : Answers)
    (selected : List Int) (today : Date) (rate : Number.Decimal) :
    (quote n shopId form values selected today rate).ReadOnly := by
  refine (readOnly_loadForm n shopId form).bind fun data => ?_
  cases Quote.build? data values selected (some form) today rate with
  | ok q => exact readOnly_pure q
  | error fault => exact readOnly_throw _

end Session

namespace Operation

open Session

/-- Every way in which an operation may fail leaves no trace. -/
theorem atomic_perform (op : Operation) : op.perform.Atomic := by
  cases op with
  | initSchema => exact atomic_initSchema.bind_pure fun _ => Answer.done
  | createShootingCategory c draws => exact (atomic_createShootingCategory c draws).map _
  | listShootingCategories shopId => exact (readOnly_listShootingCategories shopId).atomic.map _
  | getShootingCategory shopId id => exact (readOnly_getShootingCategory shopId id).atomic.map _
  | createCampaign c => exact (atomic_createCampaign c).map _
  | listCampaigns shopId => exact (readOnly_listCampaigns shopId).atomic.map _
  | listCategories n shopId form => exact (readOnly_listCategories n shopId form).atomic.map _
  | listItems shopId categoryId => exact (readOnly_listItems shopId categoryId).atomic.map _
  | replacePublishedForm shopId form categories items =>
    exact (atomic_replacePublishedForm shopId form categories items).bind_pure fun _ => Answer.done
  | getDraft shopId form => exact (readOnly_getDraft shopId form).atomic.map _
  | deleteDraft shopId form => exact (atomic_write _ _ _ _).bind_pure fun _ => Answer.done
  | loadDraft shopId form => exact (readOnly_loadDraft shopId form).atomic.map _
  | loadOrInitDraft shopId form name =>
    exact (readOnly_loadOrInitDraft shopId form name).atomic.map _
  | saveDraft d => exact (atomic_saveDraft d).map _
  | addStep shopId form type category condition =>
    exact (atomic_addStep shopId form type category condition).map _
  | removeStep shopId form position => exact (atomic_removeStep shopId form position).map _
  | validateDraft shopId form => exact (readOnly_loadDraft shopId form).atomic.map _
  | previewDraft shopId form => exact (readOnly_previewDraft shopId form).atomic.map _
  | publish shopId form => exact (atomic_publish shopId form).map _
  | loadForm n shopId form => exact (readOnly_loadForm n shopId form).atomic.map _
  | quote n shopId form values selected today rate =>
    exact (readOnly_quote n shopId form values selected today rate).atomic.map _
  | setCategoryColumn id column value =>
    exact (atomic_attempt _ _ _ _).bind_pure fun _ => Answer.done
  | setItemColumn id column value =>
    exact (atomic_attempt _ _ _ _).bind_pure fun _ => Answer.done
  | putDraftText shopId form text =>
    exact (atomic_attempt _ _ _ _).bind_pure fun _ => Answer.done

theorem run_of_error {op : Operation} {db : Database} {e : Failure}
    (h : (op.run db).1 = .error e) : (op.run db).2 = db :=
  atomic_perform op db e h

end Operation

end StudioQuote
