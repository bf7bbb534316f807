import Mathlib.Data.List.Forall2
import StudioQuote.Proofs.Publish.Listing
import StudioQuote.Proofs.Quote.Picks

/-!
# Defects and publishing

The defects of a draft are a missing trigger step and, in the order of the steps, each step
without items. A stored draft with defects is not published, and publishing fails with these
before it comes to the published forms; a draft without defects never fails in this way.
-/

namespace StudioQuote

open Number

namespace DraftDefect

theorem message_noItems (position : Nat) (displayName : String) :
    (noItems position displayName).message =
      "Step " ++ toString (position + 1) ++ " (" ++ displayName ++
        ") has no items; add at least one choice" := by
  rw [message, intText_eq_toString]
  rfl

theorem message_eq_noTriggerStep_iff {e : DraftDefect} :
    e.message = noTriggerStep.message ↔ e = .noTriggerStep := by
  cases e with
  | noTriggerStep => exact iff_of_true rfl rfl
  | noItems position displayName =>
    refine iff_of_false (fun heq => ?_) nofun
    have hchars := congrArg String.toList heq
    rw [message, message, String.toList_append, String.toList_append, String.toList_append,
      String.toList_append] at hchars
    cases hchars

end DraftDefect

namespace Draft

/-- The positions of the steps without items, counted from zero. -/
def barePositions (d : Draft) : List Nat :=
  (d.steps.zipIdx.filter fun s => s.1.category.items.isEmpty).map Prod.snd

variable {d : Draft}

theorem mem_barePositions_iff {position : Nat} :
    position ∈ d.barePositions ↔ ∃ s, d.steps[position]? = some s ∧ s.category.items = [] := by
  rw [barePositions, List.mem_map]
  constructor
  · rintro ⟨⟨s, k⟩, hmem, rfl⟩
    obtain ⟨hstep, hbare⟩ := List.mem_filter.mp hmem
    exact ⟨s, List.mk_mem_zipIdx_iff_getElem?.mp hstep, List.isEmpty_iff.mp hbare⟩
  · rintro ⟨s, hstep, hbare⟩
    refine ⟨(s, position), List.mem_filter.mpr ⟨?_, List.isEmpty_iff.mpr hbare⟩, rfl⟩
    exact List.mk_mem_zipIdx_iff_getElem?.mpr hstep

theorem pairwise_barePositions (d : Draft) : d.barePositions.Pairwise (· < ·) := by
  have hall : (d.steps.zipIdx.map Prod.snd).Pairwise (· < ·) := by
    rw [List.zipIdx_map_snd]
    exact List.pairwise_lt_range'
  exact hall.sublist (List.filter_sublist.map Prod.snd)

theorem filterMap_stepDefect? (steps : List (DraftStep × Nat)) :
    steps.filterMap stepDefect? =
      (steps.filter fun s => s.1.category.items.isEmpty).map fun s =>
        .noItems s.2 s.1.category.displayName := by
  rw [← List.filterMap_eq_map, List.filterMap_filter]
  rfl

/-- The defects of steps are those of the positions without items, in their order. -/
theorem forall₂_stepDefects (d : Draft) :
    List.Forall₂ (fun position defect => ∃ s, d.steps[position]? = some s ∧
        defect = DraftDefect.noItems position s.category.displayName)
      d.barePositions (d.steps.zipIdx.filterMap stepDefect?) := by
  rw [barePositions, filterMap_stepDefect?, List.forall₂_map_left_iff, List.forall₂_map_right_iff,
    List.forall₂_same]
  rintro ⟨s, position⟩ hmem
  exact ⟨s, List.mk_mem_zipIdx_iff_getElem?.mp (List.mem_filter.mp hmem).1, rfl⟩

theorem hasTriggerStep_iff : d.hasTriggerStep = true ↔ ∃ s ∈ d.steps, s.type = .trigger := by
  simp only [hasTriggerStep, DraftStep.isTrigger, List.any_eq_true, decide_eq_true_eq]

theorem defects_eq (d : Draft) :
    d.defects = (if ∃ s ∈ d.steps, s.type = .trigger then [] else [.noTriggerStep]) ++
      d.steps.zipIdx.filterMap stepDefect? := by
  rw [defects, if_congr hasTriggerStep_iff rfl rfl]

theorem head?_defects_iff :
    d.defects.head? = some .noTriggerStep ↔ ∀ s ∈ d.steps, s.type ≠ .trigger := by
  rw [defects_eq]
  by_cases htrigger : ∃ s ∈ d.steps, s.type = .trigger
  · rw [if_pos htrigger, List.nil_append]
    constructor
    · intro hhead
      have hmem := List.mem_of_head? hhead
      rw [filterMap_stepDefect?, List.mem_map] at hmem
      obtain ⟨s, -, heq⟩ := hmem
      cases heq
    · intro hnone
      obtain ⟨s, hs, htype⟩ := htrigger
      exact absurd htype (hnone s hs)
  · rw [if_neg htrigger]
    refine iff_of_true rfl fun s hs htype => htrigger ⟨s, hs, htype⟩

theorem isValid_iff : d.isValid = true ↔ d.defects = [] :=
  List.isEmpty_iff

end Draft

namespace Session

variable {s : Store} {d : Draft} {shopId form : Int}

/-- A draft with defects ends publishing as soon as it is loaded. -/
theorem run_publish_of_defects (hfits : [shopId, form].all fitsInt64 = true)
    (hd : s.storedDraft shopId form = .ok (some d)) (hvalid : d.isValid = false) :
    (publish shopId form).run (.ready s) = (.error (.draftInvalid d.defects), .ready s) := by
  rw [publish, run_bind_ok (run_loadDraft_ok hfits hd), hvalid]
  rfl

theorem run_publish_draftInvalid_iff (hfits : [shopId, form].all fitsInt64 = true)
    (hd : s.storedDraft shopId form = .ok (some d)) {defects : List DraftDefect} :
    ((publish shopId form).run (.ready s)).1 = .error (.draftInvalid defects) ↔
      d.isValid = false ∧ defects = d.defects := by
  cases hvalid : d.isValid with
  | false =>
    rw [run_publish_of_defects hfits hd hvalid]
    constructor
    · intro heq
      cases heq
      exact ⟨rfl, rfl⟩
    · rintro ⟨-, rfl⟩
      rfl
  | true =>
    rw [run_publish hfits hd hvalid]
    refine iff_of_false ?_ nofun
    cases d.customerForm? with
    | none => exact nofun
    | some r =>
      dsimp only
      rcases run_replacePublishedForm shopId form r s with ⟨hrun, -⟩ | ⟨e, hrun, he, -⟩ |
        ⟨table, hrun, -⟩
      · rw [hrun]
        exact nofun
      · rw [hrun]
        rintro ⟨⟩
        exact he
      · rw [hrun]
        exact nofun

end Session

namespace Operation

theorem loadDraft_eq_ok {s : Store} {d : Draft} {shopId form : Int}
    (h : ((loadDraft shopId form).run (.ready s)).1 = .ok (.draft d)) :
    [shopId, form].all fitsInt64 = true ∧ s.storedDraft shopId form = .ok (some d) := by
  rw [Operation.run, perform, Session.run_map] at h
  rcases hload : (Session.loadDraft shopId form).run (.ready s) with ⟨e | loaded, after⟩
  · rw [hload] at h
    cases h
  · rw [hload] at h
    cases h
    obtain ⟨hfits, hd, -⟩ := Session.loadDraft_eq_ok hload
    exact ⟨hfits, hd⟩

theorem publish_eq_error_iff {s : Store} {shopId form : Int} {e : Failure} :
    ((publish shopId form).run (.ready s)).1 = .error e ↔
      ((Session.publish shopId form).run (.ready s)).1 = .error e := by
  rw [Operation.run, perform, Session.run_map]
  cases ((Session.publish shopId form).run (.ready s)).1 with
  | error e' => simp only [Except.map, Except.error.injEq]
  | ok r => simp only [Except.map, reduceCtorEq]

/-- Every defect of a draft is reported once: first that no step is a trigger, if none is, and
then one for each step without items, in the order of the steps, by its position counted from
one and its name. A draft is valid if there is nothing to report. What is reported of a stored
draft is what publishing fails with, exactly if the draft is not valid, and whatever the tables
of published forms hold then has no part in it and stays as it is. -/
theorem defects_are_reported_once (d : Draft) :
    (∃ (positions : List Nat) (reports : List String),
      d.report.errors =
        (if ∃ s ∈ d.steps, s.type = .trigger then []
          else ["Add a trigger step: at least one trigger step is required"]) ++ reports ∧
      positions.Pairwise (· < ·) ∧
      (∀ position, position ∈ positions ↔
        ∃ s, d.steps[position]? = some s ∧ s.category.items = []) ∧
      List.Forall₂ (fun position report => ∃ s, d.steps[position]? = some s ∧
        report = "Step " ++ toString (position + 1) ++ " (" ++ s.category.displayName ++
          ") has no items; add at least one choice") positions reports) ∧
    (d.report.errors.head? =
        some "Add a trigger step: at least one trigger step is required" ↔
      ∀ s ∈ d.steps, s.type ≠ .trigger) ∧
    (d.report.isValid = true ↔ d.report.errors = []) ∧
    ∀ (shopId form : Int) (s : Store),
      ((loadDraft shopId form).run (.ready s)).1 = .ok (.draft d) →
      ((validateDraft shopId form).run (.ready s)).1 = .ok (.report d.report) ∧
      (∀ defects, ((publish shopId form).run (.ready s)).1 = .error (.draftInvalid defects) →
        d.report.isValid = false ∧ defects.map DraftDefect.message = d.report.errors) ∧
      (d.report.isValid = false → ∃ defects,
        defects.map DraftDefect.message = d.report.errors ∧
        ∀ categories items, (publish shopId form).run (.ready { s with categories, items }) =
          (.error (.draftInvalid defects), .ready { s with categories, items })) := by
  have herrors : d.report.errors = d.defects.map DraftDefect.message := rfl
  have hvalid : d.report.isValid = d.isValid := rfl
  refine ⟨⟨d.barePositions, (d.steps.zipIdx.filterMap Draft.stepDefect?).map DraftDefect.message,
    ?_, d.pairwise_barePositions, fun _ => Draft.mem_barePositions_iff, ?_⟩, ?_, ?_, ?_⟩
  · rw [herrors, d.defects_eq, List.map_append]
    split
    · rfl
    · rfl
  · rw [List.forall₂_map_right_iff]
    refine d.forall₂_stepDefects.imp ?_
    rintro position _ ⟨s, hs, rfl⟩
    exact ⟨s, hs, DraftDefect.message_noItems position s.category.displayName⟩
  · rw [herrors, List.head?_map, ← Draft.head?_defects_iff]
    cases d.defects.head? with
    | none => exact iff_of_false nofun nofun
    | some e =>
      rw [Option.map_some, Option.some_inj, Option.some_inj]
      exact DraftDefect.message_eq_noTriggerStep_iff
  · rw [herrors, hvalid, List.map_eq_nil_iff, Draft.isValid_iff]
  · intro shopId form s hload
    obtain ⟨hfits, hd⟩ := loadDraft_eq_ok hload
    rw [hvalid, herrors]
    refine ⟨?_, fun defects hpublish => ?_, fun hdefects => ⟨d.defects, rfl, ?_⟩⟩
    · rw [Operation.run, perform, Session.run_map, Session.run_loadDraft_ok hfits hd]
      rfl
    · obtain ⟨hdefects, rfl⟩ :=
        (Session.run_publish_draftInvalid_iff hfits hd).mp (publish_eq_error_iff.mp hpublish)
      exact ⟨hdefects, rfl⟩
    · intro categories items
      have hkept : Store.storedDraft { s with categories, items } shopId form = .ok (some d) := hd
      rw [Operation.run, perform, Session.run_map,
        Session.run_publish_of_defects hfits hkept hdefects]
      rfl

/-- A form without a trigger step, in which two steps have no items, one of them of a category
of another form and one of a category whose id cannot be stored. -/
def bareDraft : Draft where
  shopId := some 1
  shootingCategoryId := 8
  shootingCategoryName := "Wedding"
  steps := [
    { type := .conditional
      category := ⟨10, "makeup", "Makeup", none, .optionSingle, []⟩ },
    { type := .commonFinal
      category := ⟨31, "album", "Album", none, .optionMulti, [⟨310, "Small", 2000, none⟩]⟩ },
    { type := .commonFinal
      category := ⟨2 ^ 63, "prints", "Prints", none, .optionMulti, []⟩ }]

/-- The form is refused for its defects, not for its ids. -/
theorem bare_form_is_refused :
    let s := (portraitStore.withForm 1 7 portraitDraft.customerForm).putDraftText 1 8
      bareDraft.toText
    ((loadDraft 1 8).run (.ready s)).1 = .ok (.draft bareDraft) ∧
      ∃ defects, defects.map DraftDefect.message =
        ["Add a trigger step: at least one trigger step is required",
          "Step 1 (Makeup) has no items; add at least one choice",
          "Step 3 (Prints) has no items; add at least one choice"] ∧
        (publish 1 8).run (.ready s) = (.error (.draftInvalid defects), .ready s) := by
  intro s
  have hread := Json.check_strict_eq_ok_iff (bareDraft.regular_toJson 0) (by decide)
  have hsound : bareDraft.IsSound :=
    ⟨Json.hasPlainTexts_of_isUnmarked (by decide), (hread.mp rfl).1⟩
  have hstored : s.storedDraft 1 8 = .ok (some bareDraft) :=
    Store.storedDraft_putDraftText_ok (d := bareDraft)
      (portraitStore.withForm 1 7 portraitDraft.customerForm) 1 hsound
  have hload : ((loadDraft 1 8).run (.ready s)).1 = .ok (.draft bareDraft) := by
    rw [Operation.run, perform, Session.run_map, Session.run_loadDraft_ok (by decide) hstored]
    rfl
  obtain ⟨defects, hreported, hrun⟩ :=
    ((defects_are_reported_once bareDraft).2.2.2 1 8 s hload).2.2 (by decide)
  exact ⟨hload, defects, hreported, hrun s.categories s.items⟩

end Operation

end StudioQuote
