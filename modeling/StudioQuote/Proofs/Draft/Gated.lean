import Mathlib.Data.List.Induction
import StudioQuote.Draft.Records
import StudioQuote.Draft.Validate

/-!
# Gates of conditional steps

A conditional step is added only when a trigger step that its condition names is already
there. What is added later stands behind it and changes nothing, but a removal does not
look at conditions: it keeps all gates exactly if no trigger step is taken away that is
the only one for a conditional step behind it.
-/

namespace StudioQuote

theorem split_append {α : Type} {xs ys front back : List α} {a : α}
    (h : xs ++ ys = front ++ a :: back) :
    (∃ between, front = xs ++ between ∧ ys = between ++ a :: back) ∨
      ∃ between, xs = front ++ a :: between := by
  rcases List.append_eq_append_iff.mp h with ⟨between, hfront, hys⟩ | ⟨between, hxs, hback⟩
  · exact .inl ⟨between, hfront, hys⟩
  · rcases List.cons_eq_append_iff.mp hback with ⟨rfl, hys⟩ | ⟨rest, rfl, -⟩
    · exact .inl ⟨[], by rw [hxs, List.append_nil, List.append_nil], hys⟩
    · exact .inr ⟨rest, hxs⟩

/-- Whether a step, if it is conditional, has a condition that names an earlier trigger step. -/
def DraftStep.IsGatedBy (earlier : List DraftStep) (s : DraftStep) : Prop :=
  s.type = .conditional →
    ∃ c, s.condition = some c ∧ ∃ t ∈ earlier, t.type = .trigger ∧ t.category.id = c.fieldId

namespace Draft

def IsGated (d : Draft) : Prop :=
  ∀ before s after, d.steps = before ++ s :: after → s.IsGatedBy before

/-- Whether the step at a position, if it is a trigger step, can be spared: for each conditional
step behind it whose condition names it there is another one. -/
def Spares (d : Draft) (position : Int) : Prop :=
  ∀ before t between s after, d.steps = before ++ t :: (between ++ s :: after) →
    position = before.length → t.type = .trigger → s.type = .conditional →
      ∀ c, s.condition = some c → t.category.id = c.fieldId →
        ∃ u ∈ before ++ between, u.type = .trigger ∧ u.category.id = c.fieldId

def editAll (d : Draft) (edits : List DraftEdit) : Draft :=
  edits.foldl edited d

theorem editAll_concat (d : Draft) (edits : List DraftEdit) (e : DraftEdit) :
    d.editAll (edits ++ [e]) = (d.editAll edits).edited e := by
  rw [editAll, List.foldl_append]
  rfl

variable {d : Draft}

/-! ## One edit -/

theorem hasTrigger_iff {categoryId : Int} :
    d.hasTrigger categoryId = true ↔
      ∃ t ∈ d.steps, t.type = .trigger ∧ t.category.id = categoryId := by
  simp only [hasTrigger, DraftStep.isTrigger, List.any_eq_true, Bool.and_eq_true,
    decide_eq_true_eq, beq_iff_eq]

/-- An edit adds a gated step at the end, or removes a step, or changes nothing. -/
theorem edited_cases (d : Draft) (e : DraftEdit) :
    d.edited e = d ∨ (∃ s, s.IsGatedBy d.steps ∧ d.edited e = d.append s) ∨
      ∃ position, e = .remove position ∧ d.edited e = d.removeStep position := by
  cases e with
  | addTrigger category =>
    refine .inr (.inl ⟨_, ?_, rfl⟩)
    intro htype
    cases htype
  | addCommonFinal category =>
    refine .inr (.inl ⟨_, ?_, rfl⟩)
    intro htype
    cases htype
  | remove position => exact .inr (.inr ⟨position, rfl, rfl⟩)
  | addConditional category condition =>
    rw [edited, edit]
    cases hadd : d.addConditional category condition with
    | error e => exact .inl rfl
    | ok added =>
      obtain ⟨hnamed, rfl⟩ := addConditional_eq_ok hadd
      refine .inr (.inl ⟨_, ?_, rfl⟩)
      intro _
      exact ⟨condition, rfl, hasTrigger_iff.mp hnamed⟩

theorem removeStep_cases (d : Draft) (position : Int) :
    d.removeStep position = d ∨
      ∃ before t after, d.steps = before ++ t :: after ∧ position = before.length ∧
        (d.removeStep position).steps = before ++ after := by
  rw [removeStep]
  split
  · next hposition =>
    by_cases hlength : position.toNat < d.steps.length
    · refine .inr ⟨d.steps.take position.toNat, d.steps[position.toNat],
        d.steps.drop (position.toNat + 1), ?_, ?_, ?_⟩
      · rw [List.getElem_cons_drop, List.take_append_drop]
      · rw [List.length_take]
        omega
      · exact List.eraseIdx_eq_take_drop_succ ..
    · left
      rw [List.eraseIdx_of_length_le (Nat.le_of_not_lt hlength)]
  · exact .inl rfl

theorem steps_removeStep {before after : List DraftStep} {t : DraftStep}
    (h : d.steps = before ++ t :: after) :
    (d.removeStep before.length).steps = before ++ after := by
  rw [removeStep, if_pos (Int.natCast_nonneg _), Int.toNat_natCast, h,
    List.eraseIdx_append_of_length_le (Nat.le_refl _), Nat.sub_self]
  rfl

theorem mem_of_mem_steps_removeStep {position : Int} {s : DraftStep}
    (hs : s ∈ (d.removeStep position).steps) : s ∈ d.steps := by
  rw [removeStep] at hs
  split at hs
  · exact List.mem_of_mem_eraseIdx hs
  · exact hs

theorem IsGated.append (h : d.IsGated) {s : DraftStep} (hs : s.IsGatedBy d.steps) :
    (d.append s).IsGated := by
  intro before x after heq
  rcases split_append heq with ⟨between, rfl, hlast⟩ | ⟨between, hsteps⟩
  · rcases List.singleton_eq_append_iff.mp hlast with ⟨rfl, hx⟩ | ⟨-, hnil⟩
    · cases hx
      rw [List.append_nil]
      exact hs
    · cases hnil
  · exact h before x between hsteps

theorem IsGated.removeStep (h : d.IsGated) {position : Int} (hspares : d.Spares position) :
    (d.removeStep position).IsGated := by
  rcases removeStep_cases d position with hsame | ⟨before, t, after, hsteps, hposition, hremoved⟩
  · rw [hsame]
    exact h
  intro front s back heq htype
  rw [hremoved] at heq
  rcases split_append heq with ⟨between, rfl, hafter⟩ | ⟨between, hbefore⟩
  · -- the step stands behind the removed one, which may have been its gate
    rw [hafter] at hsteps
    have hs := h (before ++ t :: between) s back (by rw [hsteps, List.append_assoc]; rfl) htype
    obtain ⟨c, hc, u, hu, htrigger, hfield⟩ := hs
    refine ⟨c, hc, ?_⟩
    rcases List.mem_append.mp hu with hu | hu
    · exact ⟨u, List.mem_append_left _ hu, htrigger, hfield⟩
    · rcases List.mem_cons.mp hu with rfl | hu
      · exact hspares before u between s back hsteps hposition htrigger htype c hc hfield
      · exact ⟨u, List.mem_append_right _ hu, htrigger, hfield⟩
  · refine h front s (between ++ t :: after) ?_ htype
    rw [hsteps, hbefore, List.append_assoc]
    rfl

theorem spares_of_isGated_removeStep {position : Int} (h : (d.removeStep position).IsGated) :
    d.Spares position := by
  intro before t between s after hsteps hposition _ htype c hc _
  subst hposition
  have hremoved := steps_removeStep hsteps
  rw [← List.append_assoc] at hremoved
  obtain ⟨c', hc', hgate⟩ := h (before ++ between) s after hremoved htype
  rw [hc] at hc'
  cases hc'
  exact hgate

theorem IsGated.edited (h : d.IsGated) {e : DraftEdit}
    (hremoves : ∀ position, e = .remove position → d.Spares position) : (d.edited e).IsGated := by
  rcases edited_cases d e with hsame | ⟨s, hs, happend⟩ | ⟨position, rfl, hremove⟩
  · rw [hsame]
    exact h
  · rw [happend]
    exact h.append hs
  · rw [hremove]
    exact h.removeStep (hremoves position rfl)

theorem hasCondition_edited (h : ∀ s ∈ d.steps, s.type = .conditional → ∃ c, s.condition = some c)
    (e : DraftEdit) :
    ∀ s ∈ (d.edited e).steps, s.type = .conditional → ∃ c, s.condition = some c := by
  intro s hs htype
  rcases edited_cases d e with hsame | ⟨x, hx, happend⟩ | ⟨position, -, hremove⟩
  · rw [hsame] at hs
    exact h s hs htype
  · rw [happend] at hs
    rcases List.mem_append.mp hs with hs | hs
    · exact h s hs htype
    · rw [List.mem_singleton.mp hs] at htype ⊢
      obtain ⟨c, hc, -⟩ := hx htype
      exact ⟨c, hc⟩
  · rw [hremove] at hs
    exact h s (mem_of_mem_steps_removeStep hs) htype

/-! ## Runs of edits -/

section Runs

variable (shootingCategoryId : Int) (name : String) (shopId : Option Int)

theorem hasCondition_editAll (edits : List DraftEdit) :
    ∀ s ∈ ((empty shootingCategoryId name shopId).editAll edits).steps,
      s.type = .conditional → ∃ c, s.condition = some c := by
  induction edits using List.reverseRecOn with
  | nil =>
    intro s hs
    cases hs
  | append_singleton edits e ih =>
    rw [editAll_concat]
    exact hasCondition_edited ih e

theorem isGated_empty : (empty shootingCategoryId name shopId).IsGated := by
  intro before s after heq
  cases before <;> cases heq

/-- Every conditional step that edits lead to has a condition, and throughout the edits it
names an earlier trigger step exactly if no removal takes the only such trigger step away. -/
theorem steps_stay_gated_iff (edits : List DraftEdit) :
    (∀ s ∈ ((empty shootingCategoryId name shopId).editAll edits).steps,
      s.type = .conditional → ∃ c, s.condition = some c) ∧
    ((∀ done, done <+: edits → ((empty shootingCategoryId name shopId).editAll done).IsGated) ↔
      ∀ done position, done ++ [.remove position] <+: edits →
        ((empty shootingCategoryId name shopId).editAll done).Spares position) := by
  refine ⟨hasCondition_editAll shootingCategoryId name shopId edits, ?_, ?_⟩
  · -- the draft after the removal is one of those that are gated
    intro h done position hprefix
    have hgated := h _ hprefix
    rw [editAll_concat] at hgated
    exact spares_of_isGated_removeStep hgated
  · -- edit by edit from the empty draft: only a removal can take a gate away
    intro h done hprefix
    induction done using List.reverseRecOn with
    | nil => exact isGated_empty shootingCategoryId name shopId
    | append_singleton done e ih =>
      have hgated := ih ((List.prefix_append done [e]).trans hprefix)
      rw [editAll_concat]
      refine hgated.edited ?_
      rintro position rfl
      exact h done position hprefix

end Runs

/-- Makeup is offered at the studio; then the question for the location is taken back. -/
def locationTakenBack : List DraftEdit := [
  .addTrigger ⟨10, "location", "Location", none, .plan,
    [⟨100, "Studio", 5000, none⟩, ⟨101, "Outdoor", 8000, none⟩]⟩,
  .addTrigger ⟨11, "weekday", "Day of the week", none, .plan, [⟨110, "Weekday", 0, none⟩]⟩,
  .addConditional ⟨20, "makeup", "Makeup", none, .optionSingle, [⟨200, "Standard", 3000, none⟩]⟩
    ⟨10, "location", "Studio"⟩,
  .remove 0]

/-- The makeup stays, the draft is still found valid, and no rule gates the makeup any more in
the form made from it. -/
theorem makeup_stays_without_location :
    ¬((empty 1 "" none).editAll locationTakenBack).IsGated ∧
      ((empty 1 "" none).editAll locationTakenBack).isValid = true ∧
      ((empty 1 "" none).editAll locationTakenBack).customerForm.categories.map
        (fun c => (c.id, c.rule)) = [(11, none), (20, none)] := by
  refine ⟨?_, by decide, by decide⟩
  intro h
  obtain ⟨c, hc, t, ht, -, hfield⟩ := h _ _ [] (rfl : _ = [_] ++ [_]) rfl
  cases hc
  rw [List.mem_singleton.mp ht] at hfield
  exact absurd hfield (by decide)

end Draft

end StudioQuote
