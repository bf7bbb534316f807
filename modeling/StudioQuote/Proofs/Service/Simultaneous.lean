import Mathlib.Data.List.Nodup
import Mathlib.Data.List.Perm.Basic
import StudioQuote.Proofs.Service.Accesses

/-!
# Requests at the same time

Requests that are served at the same time take turns at the database, in any order. Each saves
the whole draft that it has loaded, with its step added, so a step that another request has
saved in the meantime is lost: the last one to save has the last word. Nothing but the order
of its first access and of the other saves decides what it keeps.
-/

namespace StudioQuote

open Json

/-- The stage after which a draft was saved, if it was. -/
def Stage.saved? : Stage → Stage → Option Draft
  | .saving _, .ended (.ok d) => some d
  | _, _ => none

theorem Stage.saved?_eq_none {before after : Stage}
    (h : ∀ d, after = .ended (.ok d) ↔ before = .ended (.ok d)) : before.saved? after = none := by
  rw [saved?.eq_def]
  split
  · cases (h _).mp rfl
  · rfl

/-- Requests to add a step each to the draft of one key. -/
structure Requests (ι : Type) where
  shopId : Int
  form : Int
  addition : ι → Addition

/-- How far some requests have come, with the drafts they have saved so far, in their order. -/
structure Progress (ι : Type) where
  db : Database
  stage : ι → Stage := fun _ => .loading
  saved : List (ι × Draft) := []

/-- The store with a draft under the key that it names. -/
def Store.putDraft (s : Store) (d : Draft) : Store :=
  match d.shopId with
  | some owner => s.putDraftText owner d.shootingCategoryId d.toText
  | none => s

theorem Store.putDraft_of_shopId (s : Store) {d : Draft} {owner : Int} (h : d.shopId = some owner) :
    s.putDraft d = s.putDraftText owner d.shootingCategoryId d.toText := by
  rw [putDraft, h]

theorem Store.shootingCategories_putDraft (s : Store) (d : Draft) :
    (s.putDraft d).shootingCategories = s.shootingCategories := by
  rw [putDraft]
  cases d.shopId with
  | none => rfl
  | some owner => rfl

def Database.putDraft : Database → Draft → Database
  | .ready s, d => .ready (s.putDraft d)
  | db, _ => db

theorem eq_nil_of_begins {ι α : Type} {saved rest : List (ι × α)} {c : ι} {a : α}
    (hbegins : saved <+: (c, a) :: rest) (hnew : ∀ e ∈ saved, e.1 ≠ c) : saved = [] := by
  rcases List.prefix_cons_iff.mp hbegins with hnil | ⟨more, rfl, -⟩
  · exact hnil
  · exact absurd rfl (hnew (c, a) List.mem_cons_self)

theorem nodup_keys_concat {ι α : Type} {saved : List (ι × α)} {c : ι}
    (h : (saved.map Prod.fst).Nodup) (hnew : ∀ a, (c, a) ∉ saved) (a : α) :
    ((saved ++ [(c, a)]).map Prod.fst).Nodup := by
  rw [List.map_append, List.nodup_append]
  refine ⟨h, List.nodup_singleton c, ?_⟩
  rintro b hb _ hc rfl
  obtain rfl := List.mem_singleton.mp hc
  obtain ⟨e, he, rfl⟩ := List.mem_map.mp hb
  exact hnew e.2 he

/-- Whether the saved drafts account for the progress: they have been put into the database, and
each is the answer to its request. A draft that was saved names a shop and consists of
characters. -/
structure Progress.Accounted {ι : Type} (db : Database) (v : Progress ι) : Prop where
  db_eq : v.db = (v.saved.map Prod.snd).foldl Database.putDraft db
  mem_iff : ∀ c d, (c, d) ∈ v.saved ↔ v.stage c = .ended (.ok d)
  nodup : (v.saved.map Prod.fst).Nodup
  owned : ∀ e ∈ v.saved, ∃ owner, e.2.shopId = some owner
  plain : ∀ e ∈ v.saved, e.2.toJson.HasPlainTexts

namespace Draft

/-! ## The key that a draft names -/

@[simp] theorem shopId_append (d : Draft) (s : DraftStep) : (d.append s).shopId = d.shopId := rfl

@[simp] theorem shootingCategoryId_append (d : Draft) (s : DraftStep) :
    (d.append s).shootingCategoryId = d.shootingCategoryId := rfl

end Draft

namespace Session

/-- A new draft gets the same name whatever other drafts are saved. -/
theorem outcome_newDraftName_putDraft (shopId form : Int) (db : Database) (d : Draft) :
    ((newDraftName shopId form "").run (db.putDraft d)).1 =
      ((newDraftName shopId form "").run db).1 := by
  cases db with
  | unopenable => rfl
  | blank => rfl
  | ready s =>
    have hfound : (s.putDraft d).shootingCategory? shopId form =
        s.shootingCategory? shopId form := by
      rw [Store.shootingCategory?, s.shootingCategories_putDraft, Store.shootingCategory?]
    rw [Database.putDraft, newDraftName, if_neg (by simp), run_bind, run_bind,
      run_getShootingCategory, run_getShootingCategory, hfound]
    by_cases hfits : [shopId, form].all fitsInt64 = true
    · rw [if_pos hfits]
      rfl
    · rw [if_neg hfits]

theorem ready_of_loadOrInitDraft {shopId form : Int} {db : Database} {d : Draft}
    (h : ((loadOrInitDraft shopId form "").run db).1 = .ok d) : ∃ s, db = .ready s := by
  rw [outcome_loadOrInitDraft] at h
  cases db with
  | unopenable => cases h
  | blank => cases h
  | ready s => exact ⟨s, rfl⟩

/-- A request that comes after a draft was saved finds it if that draft is for its key, and
otherwise it finds what it would have found before. -/
theorem loaded_of_putDraft {shopId form owner : Int} {db : Database} {d old seen : Draft}
    (hold : ((loadOrInitDraft shopId form "").run db).1 = .ok old)
    (howner : d.shopId = some owner) (hplain : d.toJson.HasPlainTexts)
    (hseen : ((loadOrInitDraft shopId form "").run (db.putDraft d)).1 = .ok seen) :
    seen = if shopId = owner ∧ form = d.shootingCategoryId then d else old := by
  obtain ⟨s, rfl⟩ := ready_of_loadOrInitDraft hold
  rw [outcome_loadOrInitDraft, run_getDraft] at hold
  rw [outcome_loadOrInitDraft, outcome_newDraftName_putDraft, Database.putDraft,
    s.putDraft_of_shopId howner, run_getDraft, Store.storedDraft_putDraftText] at hseen
  by_cases hkey : shopId = owner ∧ form = d.shootingCategoryId
  · rw [if_pos hkey] at hseen ⊢
    by_cases hfits : [shopId, form].all fitsInt64 = true
    · rw [if_pos hfits, Draft.ofText_toText_of_hasPlainTexts hplain] at hseen
      by_cases hshort : d.toJson.HasShortIntegers
      · rw [if_pos hshort] at hseen
        exact (Except.ok.inj hseen).symm
      · rw [if_neg hshort] at hseen
        cases hseen
    · rw [if_neg hfits] at hseen
      cases hseen
  · rw [if_neg hkey] at hseen ⊢
    exact Except.ok.inj (hseen.symm.trans hold)

end Session

namespace Requests

variable {ι : Type} [DecidableEq ι] (r : Requests ι)

def turn (v : Progress ι) (c : ι) : Progress ι :=
  let after := (r.addition c).access r.shopId r.form (v.stage c) v.db
  { db := after.2
    stage := Function.update v.stage c after.1
    saved := v.saved ++ ((v.stage c).saved? after.1).toList.map (c, ·) }

/-- What comes of requests that take their turns in some order. -/
def serve (db : Database) (turns : List ι) : Progress ι :=
  turns.foldl r.turn { db }

variable {r}

/-! ## One turn -/

theorem stage_turn_of_ne {b c : ι} (h : b ≠ c) (v : Progress ι) :
    (r.turn v c).stage b = v.stage b :=
  Function.update_of_ne h _ _

theorem stage_turn_self (v : Progress ι) (c : ι) :
    (r.turn v c).stage c = ((r.addition c).access r.shopId r.form (v.stage c) v.db).1 :=
  Function.update_self _ _ _

theorem turn_eq {v : Progress ι} {c : ι} {stage : Stage} {db : Database}
    (h : (r.addition c).access r.shopId r.form (v.stage c) v.db = (stage, db)) :
    r.turn v c =
      { db
        stage := Function.update v.stage c stage
        saved := v.saved ++ ((v.stage c).saved? stage).toList.map (c, ·) } := by
  rw [turn, h]

/-- The turn of a request that is about to save a draft that can be stored. -/
theorem turn_of_saving {v : Progress ι} {c : ι} {d : Draft} {owner : Int} {s : Store}
    (hstage : v.stage c = .saving d) (hdb : v.db = .ready s) (howner : d.shopId = some owner)
    (hfits : [owner, d.shootingCategoryId].all fitsInt64 = true)
    (hplain : d.toJson.HasPlainTexts) :
    r.turn v c =
      { db := .ready (s.putDraftText owner d.shootingCategoryId d.toText)
        stage := Function.update v.stage c (.ended (.ok d))
        saved := v.saved ++ [(c, d)] } := by
  have haccess : (r.addition c).access r.shopId r.form (v.stage c) v.db =
      (.ended (.ok d), .ready (s.putDraftText owner d.shootingCategoryId d.toText)) := by
    rw [hstage, hdb, Addition.access, Session.run_saveDraft_ok howner hfits hplain]
    rfl
  rw [turn_eq haccess, hstage]
  rfl

/-- A turn saves a draft, or it is without effect on the database and on who has been answered. -/
theorem turn_cases (r : Requests ι) (v : Progress ι) (c : ι) :
    (∃ d owner, v.stage c = .saving d ∧ d.toJson.HasPlainTexts ∧ d.shopId = some owner ∧
      r.turn v c =
        { db := v.db.putDraft d
          stage := Function.update v.stage c (.ended (.ok d))
          saved := v.saved ++ [(c, d)] }) ∨
    ((r.turn v c).db = v.db ∧ (r.turn v c).saved = v.saved ∧
      ∀ b d, (r.turn v c).stage b = .ended (.ok d) ↔ v.stage b = .ended (.ok d)) := by
  rcases (r.addition c).access_cases r.shopId r.form (v.stage c) v.db with
    ⟨d, owner, s, hstage, hplain, howner, hdb, haccess⟩ | ⟨hdb, hended⟩
  · refine .inl ⟨d, owner, hstage, hplain, howner, ?_⟩
    rw [turn_eq haccess, hstage, hdb, Database.putDraft, s.putDraft_of_shopId howner]
    rfl
  · refine .inr ⟨hdb, ?_, ?_⟩
    · have hnone : (v.stage c).saved?
          ((r.addition c).access r.shopId r.form (v.stage c) v.db).1 = none :=
        Stage.saved?_eq_none hended
      rw [turn, hnone]
      exact List.append_nil _
    · intro b d
      by_cases hb : b = c
      · subst hb
        rw [stage_turn_self]
        exact hended d
      · rw [stage_turn_of_ne hb]

/-! ## All turns -/

theorem serve_concat (db : Database) (turns : List ι) (c : ι) :
    r.serve db (turns ++ [c]) = r.turn (r.serve db turns) c := by
  rw [serve, List.foldl_append]
  rfl

theorem accounted_turn {db : Database} {v : Progress ι} (h : v.Accounted db) (c : ι) :
    (r.turn v c).Accounted db := by
  rcases r.turn_cases v c with
    ⟨d, owner, hstage, hplain, howner, hturn⟩ | ⟨hdb, hsaved, hended⟩
  · have hnew : ∀ d', (c, d') ∉ v.saved := by
      intro d' hd'
      cases hstage.symm.trans ((h.mem_iff c d').mp hd')
    rw [hturn]
    constructor
    · simp [h.db_eq]
    · intro b d'
      rw [List.mem_append, List.mem_singleton, Prod.mk.injEq]
      dsimp only
      by_cases hb : b = c
      · subst hb
        rw [Function.update_self, Stage.ended.injEq, Except.ok.injEq]
        simp [hnew d', eq_comm]
      · rw [Function.update_of_ne hb, ← h.mem_iff]
        simp [hb]
    · exact nodup_keys_concat h.nodup hnew d
    · rw [List.forall_mem_append, List.forall_mem_singleton]
      exact ⟨h.owned, owner, howner⟩
    · rw [List.forall_mem_append, List.forall_mem_singleton]
      exact ⟨h.plain, hplain⟩
  · constructor
    · rw [hdb, hsaved, h.db_eq]
    · intro b d
      rw [hsaved, hended, h.mem_iff]
    · rw [hsaved]
      exact h.nodup
    · rw [hsaved]
      exact h.owned
    · rw [hsaved]
      exact h.plain

theorem accounted_serve (db : Database) (turns : List ι) :
    (r.serve db turns).Accounted db := by
  induction turns using List.reverseRecOn with
  | nil =>
    exact ⟨rfl, fun c d => iff_of_false List.not_mem_nil nofun, List.nodup_nil, nofun, nofun⟩
  | append_singleton turns c ih =>
    rw [serve_concat]
    exact accounted_turn ih c

theorem db_serve_of_saved {db : Database} {turns : List ι} {saved : List (ι × Draft)}
    (h : (r.serve db turns).saved = saved) :
    (r.serve db turns).db = (saved.map Prod.snd).foldl Database.putDraft db := by
  rw [← h]
  exact (accounted_serve db turns).db_eq

/-- What has been saved stays on record. -/
theorem saved_serve_begins (db : Database) (before after : List ι) :
    (r.serve db before).saved <+: (r.serve db (before ++ after)).saved := by
  induction after using List.reverseRecOn with
  | nil => exact (List.append_nil before).symm ▸ List.prefix_rfl
  | append_singleton after c ih =>
    rw [← List.append_assoc, serve_concat]
    exact ih.trans (List.prefix_append _ _)

theorem stage_serve_of_notMem (db : Database) {turns : List ι} {c : ι} (h : c ∉ turns) :
    (r.serve db turns).stage c = .loading := by
  induction turns using List.reverseRecOn with
  | nil => rfl
  | append_singleton turns b ih =>
    rw [List.mem_append, List.mem_singleton, not_or] at h
    rw [serve_concat, stage_turn_of_ne h.2, ih h.1]

theorem outcome_newDraftName_serve (db : Database) (turns : List ι) :
    ((Session.newDraftName r.shopId r.form "").run (r.serve db turns).db).1 =
      ((Session.newDraftName r.shopId r.form "").run db).1 := by
  rw [db_serve_of_saved rfl]
  generalize (r.serve db turns).saved.map Prod.snd = saved
  induction saved generalizing db with
  | nil => rfl
  | cons d saved ih => rw [List.foldl_cons, ih, Session.outcome_newDraftName_putDraft]

/-- A request goes by what it finds at its first access, whatever the turns after that. -/
theorem goesBy_serve (db : Database) {before : List ι} {c : ι} (h : c ∉ before) (after : List ι) :
    (r.addition c).GoesBy r.shopId r.form (r.serve db before).db
      ((r.serve db (before ++ c :: after)).stage c) := by
  induction after using List.reverseRecOn with
  | nil =>
    rw [serve_concat, stage_turn_self, stage_serve_of_notMem db h]
    exact (r.addition c).goesBy_access_loading r.shopId r.form _
  | append_singleton after b ih =>
    rw [← List.cons_append, ← List.append_assoc, serve_concat]
    by_cases hb : c = b
    · subst hb
      rw [stage_turn_self]
      apply (r.addition c).goesBy_access ih
      rw [outcome_newDraftName_serve, outcome_newDraftName_serve]
    · rw [stage_turn_of_ne hb]
      exact ih

/-- What is answered to a request is the draft that it found at its first access, with its step. -/
theorem exists_first_access {db : Database} {turns : List ι} {c : ι} {d : Draft}
    (h : (r.serve db turns).stage c = .ended (.ok d)) :
    ∃ before after old, turns = before ++ c :: after ∧ c ∉ before ∧
      ((Session.loadOrInitDraft r.shopId r.form "").run (r.serve db before).db).1 = .ok old ∧
      d = old.append (r.addition c).step ∧
      (r.serve db before).saved <+: (r.serve db turns).saved ∧
      ∀ e ∈ (r.serve db before).saved, e.1 ≠ c := by
  have hc : c ∈ turns := by
    by_contra hc
    cases h.symm.trans (stage_serve_of_notMem db hc)
  obtain ⟨before, after, rfl, hbefore⟩ := List.eq_append_cons_of_mem hc
  obtain ⟨old, hold, hd⟩ : (r.addition c).GoesBy r.shopId r.form (r.serve db before).db
      (.ended (.ok d)) := by
    rw [← h]
    exact goesBy_serve db hbefore after
  refine ⟨before, after, old, rfl, hbefore, hold, hd, saved_serve_begins db before _, ?_⟩
  rintro ⟨b, saved⟩ he rfl
  have hended := ((accounted_serve db before).mem_iff b saved).mp he
  cases hended.symm.trans (stage_serve_of_notMem db hbefore)

/-- What a request finds that begins when no other one than the first has saved its draft. -/
theorem found_of_begins {db : Database} {before : List ι} {first last : ι}
    {saved d old found : Draft} {owner : Int}
    (hold : ((Session.loadOrInitDraft r.shopId r.form "").run db).1 = .ok old)
    (hfound : ((Session.loadOrInitDraft r.shopId r.form "").run (r.serve db before).db).1 =
      .ok found)
    (howner : saved.shopId = some owner) (hplain : saved.toJson.HasPlainTexts)
    (hbegins : (r.serve db before).saved <+: [(first, saved), (last, d)])
    (hnew : ∀ e ∈ (r.serve db before).saved, e.1 ≠ last) :
    found = if (r.serve db before).saved ≠ [] ∧ r.shopId = owner ∧
      r.form = saved.shootingCategoryId then saved else old := by
  rcases List.prefix_cons_iff.mp hbegins with hnone | ⟨rest, hsome, hrest⟩
  · rw [db_serve_of_saved hnone] at hfound
    rw [if_neg fun h => h.1 hnone]
    exact Except.ok.inj (hfound.symm.trans hold)
  · rw [hsome] at hnew ⊢
    obtain rfl := eq_nil_of_begins hrest fun e he => hnew e (List.mem_cons_of_mem _ he)
    have hput : (r.serve db before).db = db.putDraft saved := db_serve_of_saved hsome
    rw [hput] at hfound
    rw [Session.loaded_of_putDraft hold howner hplain hfound]
    exact if_congr (by simp) rfl rfl

end Requests

/-! ## Two requests -/

inductive Client where
  | first
  | second
  deriving DecidableEq

def Client.other : Client → Client
  | .first => .second
  | .second => .first

theorem Client.eq_other_of_ne {b c : Client} (h : b ≠ c) : b = c.other := by
  cases b with
  | first =>
    cases c with
    | first => exact absurd rfl h
    | second => rfl
  | second =>
    cases c with
    | first => rfl
    | second => exact absurd rfl h

/-- When both of two requests are answered, one of them was the last to save its draft. -/
theorem Progress.Accounted.exists_last {db : Database} {v : Progress Client} (h : v.Accounted db)
    {answers : Client → Draft} (hanswered : ∀ c, v.stage c = .ended (.ok (answers c))) :
    ∃ last : Client, v.saved = [(last.other, answers last.other), (last, answers last)] := by
  have hperm : (v.saved.map Prod.fst).Perm [.first, .second] := by
    rw [List.perm_ext_iff_of_nodup h.nodup (by decide)]
    intro c
    refine iff_of_true (List.mem_map.mpr ⟨(c, answers c), ?_, rfl⟩) ?_
    · exact (h.mem_iff c (answers c)).mpr (hanswered c)
    · cases c with
      | first => exact List.mem_cons_self
      | second => exact List.mem_cons_of_mem _ List.mem_cons_self
  have hlength : v.saved.length = 2 := by
    rw [← List.length_map Prod.fst]
    exact hperm.length_eq
  obtain ⟨⟨b, d⟩, ⟨c, e⟩, hsaved⟩ := List.length_eq_two.mp hlength
  have hb := (h.mem_iff b d).mp (by simp [hsaved])
  have hc := (h.mem_iff c e).mp (by simp [hsaved])
  cases (hanswered b).symm.trans hb
  cases (hanswered c).symm.trans hc
  have hne : b ≠ c := by
    have hnodup := h.nodup
    rw [hsaved] at hnodup
    simpa using hnodup
  refine ⟨c, ?_⟩
  rw [← Client.eq_other_of_ne hne, hsaved]

namespace Requests

/-- Of two requests to add a step to the draft of a key, both of which are answered without an
error, the one that saves its draft last decides what is stored. It keeps the steps that were
there before, and the step of the other one if and only if that one had saved its draft before
the first access of the last one. A draft that stands under a key other than the one it names
is not found again once it was saved. -/
theorem last_save_decides {r : Requests Client} {db : Database} {turns : List Client}
    {answers : Client → Draft}
    (hanswered : ∀ c, (r.serve db turns).stage c = .ended (.ok (answers c))) :
    ∃ (last : Client) (before after : List Client) (old : Draft) (owner : Int),
      (r.serve db turns).saved.map Prod.fst = [last.other, last] ∧
      turns = before ++ last :: after ∧ last ∉ before ∧
      ((Session.loadOrInitDraft r.shopId r.form "").run db).1 = .ok old ∧
      old.shopId = some owner ∧
      answers last.other = old.append (r.addition last.other).step ∧
      answers last =
        Draft.append
          (if (r.serve db before).saved ≠ [] ∧ r.shopId = owner ∧ r.form = old.shootingCategoryId
            then answers last.other
            else old)
          (r.addition last).step ∧
      ∃ s, (r.serve db turns).db = .ready s ∧
        s.draftText? owner old.shootingCategoryId = some (answers last).toText := by
  have haccounted : (r.serve db turns).Accounted db := accounted_serve db turns
  obtain ⟨last, hsaved⟩ := haccounted.exists_last hanswered
  obtain ⟨owner, howner⟩ := haccounted.owned (last.other, answers last.other) (by simp [hsaved])
  have hplain := haccounted.plain (last.other, answers last.other) (by simp [hsaved])
  -- The other one was first to save, so that it has found what was there at the beginning.
  obtain ⟨_, _, old, -, -, hold, hother, hbegins, hnew⟩ :=
    exists_first_access (hanswered last.other)
  rw [db_serve_of_saved (eq_nil_of_begins (hsaved ▸ hbegins) hnew)] at hold
  have hshop : old.shopId = some owner := by rwa [hother, Draft.shopId_append] at howner
  have hform : (answers last.other).shootingCategoryId = old.shootingCategoryId := by
    rw [hother, Draft.shootingCategoryId_append]
  obtain ⟨before, after, found, hturns, hbefore, hload, hlast, hbegins, hnew⟩ :=
    exists_first_access (hanswered last)
  have hfound := found_of_begins hold hload howner hplain (hsaved ▸ hbegins) hnew
  rw [hform] at hfound
  have hkey : (answers last).shopId = some owner ∧
      (answers last).shootingCategoryId = old.shootingCategoryId := by
    rw [hlast, Draft.shopId_append, Draft.shootingCategoryId_append, hfound]
    split
    · exact ⟨howner, hform⟩
    · exact ⟨hshop, rfl⟩
  refine ⟨last, before, after, old, owner, by simp [hsaved], hturns, hbefore, hold, hshop, hother,
    hfound ▸ hlast, ?_⟩
  obtain ⟨s, rfl⟩ := Session.ready_of_loadOrInitDraft hold
  refine ⟨(s.putDraft (answers last.other)).putDraft (answers last), db_serve_of_saved hsaved, ?_⟩
  rw [Store.putDraft_of_shopId _ hkey.1, Store.draftText?_putDraftText, hkey.2, if_pos ⟨rfl, rfl⟩]

/-- One request asks for the location, the other one for the weekday. -/
def portraitRequests : Requests Client where
  shopId := 1
  form := 7
  addition
    | .first => { type := .trigger, category := Operation.locationStep.category }
    | .second =>
      { type := .trigger
        category := ⟨11, "weekday", "Weekday", none, .plan, [⟨110, "Sunday", 0, none⟩]⟩ }

/-- The draft of some steps that the two of them add. -/
def portraitDraft (added : List Client) : Draft where
  shopId := some 1
  shootingCategoryId := 7
  shootingCategoryName := ""
  steps := added.map fun c => (portraitRequests.addition c).step

theorem hasPlainTexts_portraitDraft (added : List Client) :
    (portraitDraft added).toJson.HasPlainTexts := by
  have hname : Text.isUnmarked "" = true := rfl
  refine (Draft.hasPlainTexts_toJson _).mpr ⟨Text.isPlain_of_isUnmarked hname, ?_⟩
  rw [portraitDraft, List.forall_mem_map]
  intro c _
  apply hasPlainTexts_of_isUnmarked
  cases c with
  | first => decide
  | second => decide

theorem run_getDraft_portraitDraft (added : List Client)
    (hfits : (portraitDraft added).toJson.integers.all fitsInt64 = true) (s : Store) :
    (Session.getDraft 1 7).run (.ready (s.putDraftText 1 7 (portraitDraft added).toText)) =
      (.ok (some (portraitDraft added)),
        .ready (s.putDraftText 1 7 (portraitDraft added).toText)) := by
  rw [Session.run_getDraft, if_pos (by decide), Store.storedDraft_putDraftText,
    if_pos ⟨rfl, rfl⟩, Draft.ofText_toText_of_hasPlainTexts (hasPlainTexts_portraitDraft added),
    if_pos (hasShortIntegers_of_fits hfits)]
  rfl

/-- The turn that saves one of the drafts above. -/
theorem turn_portraitDraft (added : List Client) {v : Progress Client} {c : Client} {s : Store}
    (hstage : v.stage c = .saving (portraitDraft added)) (hdb : v.db = .ready s) :
    portraitRequests.turn v c =
      { db := .ready (s.putDraftText 1 7 (portraitDraft added).toText)
        stage := Function.update v.stage c (.ended (.ok (portraitDraft added)))
        saved := v.saved ++ [(c, portraitDraft added)] } := by
  have hfits : [1, 7].all fitsInt64 = true := by decide
  exact turn_of_saving hstage hdb rfl hfits (hasPlainTexts_portraitDraft added)

/-- Both requests look for a draft before one of them has saved its own. -/
theorem overtaken_step_is_lost :
    let turns := [.first, .second, .first, .second, .first, .second]
    (∀ c, (portraitRequests.serve Operation.fresh turns).stage c =
      .ended (.ok (portraitDraft [c]))) ∧
    ((Session.getDraft 1 7).run (portraitRequests.serve Operation.fresh turns).db).1 =
      .ok (some (portraitDraft [.second])) ∧
    (portraitRequests.addition .first).step ∉ (portraitDraft [.second]).steps := by
  intro turns
  let v := portraitRequests.serve Operation.fresh [.first, .second, .first, .second]
  have hfirst := turn_portraitDraft [.first] (v := v) (c := .first) rfl rfl
  have hserve : portraitRequests.serve Operation.fresh turns =
      portraitRequests.turn (portraitRequests.turn v .first) .second := rfl
  rw [hserve, hfirst, turn_portraitDraft [.second] rfl rfl]
  refine ⟨?_, ?_, by decide⟩
  · intro c
    cases c with
    | first => rfl
    | second => rfl
  · rw [run_getDraft_portraitDraft [.second] (by decide)]

/-- The answers when the second request begins after the first one was answered. -/
def serialAnswer : Client → Draft
  | .first => portraitDraft [.first]
  | .second => portraitDraft [.first, .second]

theorem stage_serial (c : Client) :
    (portraitRequests.serve Operation.fresh [.first, .first, .first, .second, .second]).stage c =
      .ended (.ok (serialAnswer c)) := by
  let v := portraitRequests.serve Operation.fresh [.first, .first]
  have hfirst := turn_portraitDraft [.first] (v := v) (c := .first) rfl rfl
  have hserve : portraitRequests.serve Operation.fresh
      [.first, .first, .first, .second, .second] =
      portraitRequests.turn (portraitRequests.turn (portraitRequests.turn v .first) .second)
        .second := rfl
  have hget := run_getDraft_portraitDraft [.first] (by decide) .empty
  have hload : (portraitRequests.addition .second).access portraitRequests.shopId
      portraitRequests.form ((portraitRequests.turn v .first).stage .second)
      (portraitRequests.turn v .first).db =
        (.saving (serialAnswer .second), (portraitRequests.turn v .first).db) := by
    rw [hfirst]
    change (portraitRequests.addition .second).access 1 7 .loading
      (.ready (Store.empty.putDraftText 1 7 (portraitDraft [.first]).toText)) = _
    rw [Addition.access, hget]
    rfl
  rw [hserve, turn_eq hload, hfirst, turn_portraitDraft [.first, .second] rfl rfl]
  cases c with
  | first => rfl
  | second => rfl

/-- The second request finds the draft of the first one, so nothing is lost. -/
theorem later_step_is_added :
    (∀ c, (portraitRequests.serve Operation.fresh
      [.first, .first, .first, .second, .second]).stage c = .ended (.ok (serialAnswer c))) ∧
    ∃ s, (portraitRequests.serve Operation.fresh
        [.first, .first, .first, .second, .second]).db = .ready s ∧
      s.draftText? 1 7 = some (portraitDraft [.first, .second]).toText := by
  refine ⟨stage_serial, ?_⟩
  obtain ⟨last, _, _, old, owner, -, -, -, hold, howner, hother, -, s, hdb, htext⟩ :=
    last_save_decides stage_serial
  obtain rfl : old = portraitDraft [] := (Except.ok.inj hold).symm
  cases howner
  cases last with
  | first => exact absurd hother (by decide)
  | second => exact ⟨s, hdb, htext⟩

end Requests

end StudioQuote
