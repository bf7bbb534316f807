import Mathlib.Logic.Function.Iterate
import StudioQuote.Proofs.Service.DraftMap

/-!
# Adding a step, access by access

A request to add a step makes up to three accesses to the database: it loads the draft, looks
up a name for a new one if there is none, and saves the draft with the step. Between them it
keeps only what it has seen. Made one right after the other, its accesses are the operation.
If others come in between, it still saves the draft that it has loaded, with its step at the
end.
-/

namespace StudioQuote

/-- What a request adds to the draft of a key. -/
structure Addition where
  type : FormSection
  category : DraftCategory
  condition : Option DraftCondition := none

/-- How far a request has come before its next access. -/
inductive Stage where
  | loading
  | naming
  | saving (d : Draft)
  | ended (outcome : Except Failure Draft)

/-- What comes after an access: it depends on what was seen, and a failure ends the request. -/
def Stage.next {α : Type} (go : α → Stage) : Except Failure α → Stage
  | .ok a => go a
  | .error e => .ended (.error e)

namespace Addition

def step (a : Addition) : DraftStep :=
  ⟨a.type, a.category, if a.type = .conditional then a.condition else none⟩

/-- The change of a draft that was loaded, for which no access is needed. -/
def change (a : Addition) (d : Draft) : Stage :=
  match d.addStep a.type a.category a.condition with
  | .ok changed => .saving changed
  | .error e => .ended (.error (.ofEdit e))

/-- The next access of a request; one that has ended leaves everything as it is. -/
def access (shopId form : Int) (a : Addition) : Stage → Database → Stage × Database
  | .loading, db =>
    ((Session.getDraft shopId form).run db).map
      (Stage.next fun found => (found.map a.change).getD .naming) id
  | .naming, db =>
    ((Session.newDraftName shopId form "").run db).map
      (Stage.next fun name => a.change (Draft.empty form name (some shopId))) id
  | .saving d, db => ((Session.saveDraft d).run db).map .ended id
  | .ended outcome, db => (.ended outcome, db)

end Addition

namespace Session

variable {shopId form : Int} {db : Database}

/-- What is loaded depends on the draft that is found and on the name for a new one. -/
theorem outcome_loadOrInitDraft (shopId form : Int) (db : Database) :
    ((loadOrInitDraft shopId form "").run db).1 =
      match ((getDraft shopId form).run db).1 with
      | .error e => .error e
      | .ok (some d) => .ok d
      | .ok none => ((newDraftName shopId form "").run db).1.map fun name =>
        Draft.empty form name (some shopId) := by
  have hsame := readOnly_getDraft shopId form db
  rcases hget : (getDraft shopId form).run db with ⟨e | found, after⟩
  · rw [loadOrInitDraft, run_bind_error hget]
  · obtain rfl : after = db := by rwa [hget] at hsame
    rw [loadOrInitDraft, run_bind_ok hget]
    cases found with
    | some d => rfl
    | none => exact congrArg Prod.fst (run_map _ (newDraftName shopId form "") after)

/-- Without tables nothing is saved. -/
theorem saveDraft_ne_ok_of_not_ready {d saved : Draft} {db after : Database}
    (hdb : ∀ s, db ≠ .ready s) : (saveDraft d).run db ≠ (.ok saved, after) := by
  intro h
  rw [saveDraft] at h
  split at h
  · cases h
  · obtain ⟨text, middle, htext, hput⟩ := bind_eq_ok h
    obtain ⟨-, rfl, rfl⟩ := draftText_eq_ok htext
    cases middle with
    | ready s => exact hdb s rfl
    | unopenable => cases hput
    | blank => cases hput

/-- Saving a draft fails without a trace, or it puts the draft, which then consists of
characters, under the key that it names. -/
theorem run_saveDraft_cases (d : Draft) (db : Database) :
    (∃ e, (saveDraft d).run db = (.error e, db)) ∨
      d.toJson.HasPlainTexts ∧ ∃ owner s, d.shopId = some owner ∧ db = .ready s ∧
        (saveDraft d).run db =
          (.ok d, .ready (s.putDraftText owner d.shootingCategoryId d.toText)) := by
  rcases hsave : (saveDraft d).run db with ⟨e | saved, after⟩
  · have hatomic := atomic_saveDraft d db e
    rw [hsave] at hatomic
    exact .inl ⟨e, Prod.ext rfl (hatomic rfl)⟩
  · cases db with
    | ready s =>
      obtain ⟨rfl, hplain, owner, howner, rfl⟩ := saveDraft_eq_ok hsave
      exact .inr ⟨hplain, owner, s, howner, rfl, rfl⟩
    | unopenable => exact absurd hsave (saveDraft_ne_ok_of_not_ready nofun)
    | blank => exact absurd hsave (saveDraft_ne_ok_of_not_ready nofun)

end Session

namespace Addition

variable {shopId form : Int} (a : Addition)

/-! ## The accesses of one request -/

/-- A changed draft is saved, unless the change was refused. -/
theorem access_change (d : Draft) (db : Database) :
    a.access shopId form (a.change d) db =
      ((Session.edit (d.addStep a.type a.category a.condition) >>= Session.saveDraft).run db).map
        .ended id := by
  rw [change]
  cases d.addStep a.type a.category a.condition with
  | error e => rfl
  | ok changed => rfl

/-- Three accesses in a row are the operation. -/
theorem iterate_access_eq_addStep (shopId form : Int) (db : Database) :
    (fun t : Stage × Database => a.access shopId form t.1 t.2)^[3] (.loading, db) =
      ((Session.addStep shopId form a.type a.category a.condition).run db).map .ended id := by
  let access (t : Stage × Database) := a.access shopId form t.1 t.2
  let save (d : Draft) :=
    Session.edit (d.addStep a.type a.category a.condition) >>= Session.saveDraft
  change access (access (access (.loading, db))) =
    ((Session.loadOrInitDraft shopId form "" >>= save).run db).map Stage.ended id
  have hloading : access (.loading, db) = (Stage.next
      (fun found => (found.map a.change).getD .naming)
      ((Session.getDraft shopId form).run db).1, db) :=
    Prod.ext rfl (Session.readOnly_getDraft shopId form db)
  have hnaming : access (.naming, db) = (Stage.next
      (fun name => a.change (Draft.empty form name (some shopId)))
      ((Session.newDraftName shopId form "").run db).1, db) :=
    Prod.ext rfl (Session.readOnly_newDraftName shopId form "" db)
  have hload : (Session.loadOrInitDraft shopId form "").run db = (_, db) :=
    Prod.ext (Session.outcome_loadOrInitDraft shopId form db)
      (Session.readOnly_loadOrInitDraft shopId form "" db)
  have hsave : ∀ d, access (a.change d, db) = ((save d).run db).map Stage.ended id :=
    fun d => a.access_change d db
  rw [hloading, Session.run_bind, hload]
  cases ((Session.getDraft shopId form).run db).1 with
  | error e => rfl
  | ok found =>
    cases found with
    | some d =>
      change access (access (a.change d, db)) = ((save d).run db).map Stage.ended id
      rw [hsave]
      rfl
    | none =>
      change access (access (.naming, db)) = _
      rw [hnaming]
      cases ((Session.newDraftName shopId form "").run db).1 with
      | error e => rfl
      | ok name => exact hsave _

theorem change_ne_ended (d saved : Draft) : a.change d ≠ .ended (.ok saved) := by
  rw [change]
  cases d.addStep a.type a.category a.condition with
  | error e => nofun
  | ok changed => nofun

/-- An access either saves the draft of a request, under the key that the draft names, or it
leaves the database as it is, and then no request comes to a good end by it. -/
theorem access_cases (shopId form : Int) (stage : Stage) (db : Database) :
    (∃ d owner s, stage = .saving d ∧ d.toJson.HasPlainTexts ∧ d.shopId = some owner ∧
      db = .ready s ∧ a.access shopId form stage db =
        (.ended (.ok d), .ready (s.putDraftText owner d.shootingCategoryId d.toText))) ∨
    ((a.access shopId form stage db).2 = db ∧
      ∀ d, (a.access shopId form stage db).1 = .ended (.ok d) ↔ stage = .ended (.ok d)) := by
  cases stage with
  | loading =>
    refine .inr ⟨Session.readOnly_getDraft shopId form db, fun d => iff_of_false ?_ nofun⟩
    rw [access, Prod.map_fst]
    cases ((Session.getDraft shopId form).run db).1 with
    | error e => nofun
    | ok found =>
      cases found with
      | none => nofun
      | some old => exact a.change_ne_ended old d
  | naming =>
    refine .inr ⟨Session.readOnly_newDraftName shopId form "" db, fun d => iff_of_false ?_ nofun⟩
    rw [access, Prod.map_fst]
    cases ((Session.newDraftName shopId form "").run db).1 with
    | error e => nofun
    | ok name => exact a.change_ne_ended _ d
  | saving d =>
    rw [access]
    rcases Session.run_saveDraft_cases d db with
      ⟨e, hsave⟩ | ⟨hplain, owner, s, howner, rfl, hsave⟩
    · rw [hsave]
      exact .inr ⟨rfl, fun d => iff_of_false nofun nofun⟩
    · rw [hsave]
      exact .inl ⟨d, owner, s, rfl, hplain, howner, rfl, rfl⟩
  | ended outcome => exact .inr ⟨rfl, fun d => Iff.rfl⟩

/-! ## What a request goes by -/

/-- Whether a request at some stage goes by the draft, or the want of one, in a database. -/
def GoesBy (shopId form : Int) (db : Database) : Stage → Prop
  | .loading => False
  | .naming => ((Session.getDraft shopId form).run db).1 = .ok none
  | .saving d | .ended (.ok d) =>
    ∃ old, ((Session.loadOrInitDraft shopId form "").run db).1 = .ok old ∧ d = old.append a.step
  | .ended (.error _) => True

theorem goesBy_change {db : Database} {old : Draft}
    (h : ((Session.loadOrInitDraft shopId form "").run db).1 = .ok old) :
    a.GoesBy shopId form db (a.change old) := by
  rw [change]
  cases hadd : old.addStep a.type a.category a.condition with
  | error e => trivial
  | ok changed => exact ⟨old, h, Draft.addStep_eq_ok hadd⟩

/-- The first access settles what a request goes by. -/
theorem goesBy_access_loading (shopId form : Int) (db : Database) :
    a.GoesBy shopId form db (a.access shopId form .loading db).1 := by
  rw [access, Prod.map_fst]
  cases hget : ((Session.getDraft shopId form).run db).1 with
  | error e => trivial
  | ok found =>
    cases found with
    | none => exact hget
    | some old =>
      apply a.goesBy_change
      rw [Session.outcome_loadOrInitDraft, hget]

/-- Later accesses do not change what a request goes by, as long as a new draft would still get
the same name. -/
theorem goesBy_access {first db : Database} {stage : Stage} (h : a.GoesBy shopId form first stage)
    (hname : ((Session.newDraftName shopId form "").run db).1 =
      ((Session.newDraftName shopId form "").run first).1) :
    a.GoesBy shopId form first (a.access shopId form stage db).1 := by
  cases stage with
  | loading => cases h
  | naming =>
    have hget : ((Session.getDraft shopId form).run first).1 = .ok none := h
    rw [access, Prod.map_fst, hname]
    cases hnamed : ((Session.newDraftName shopId form "").run first).1 with
    | error e => trivial
    | ok name =>
      apply a.goesBy_change
      rw [Session.outcome_loadOrInitDraft, hget, hnamed]
      rfl
  | saving d =>
    rw [access, Prod.map_fst]
    rcases Session.run_saveDraft_cases d db with ⟨e, hsave⟩ | ⟨-, owner, s, -, -, hsave⟩
    · rw [hsave]
      trivial
    · rw [hsave]
      exact h
  | ended outcome => exact h

end Addition

end StudioQuote
