import Mathlib.Data.List.Basic
import StudioQuote.Visibility

/-!
# More answers show more

A condition needs an answer to its field, whatever its operator. So a condition that holds
still holds when further fields are answered, and with it every rule that holds and every
section that is shown; categories keep their order.
-/

namespace StudioQuote

open Json

/-- Whether every answer stands, unchanged, among further ones. -/
def Answers.Within (answers more : Answers) : Prop :=
  ∀ field v, answers.lookup field = some v → more.lookup field = some v

namespace Category

theorem isShown_of_trigger {c : Category} (hactive : c.isActive = true)
    (htrigger : c.isIn .trigger = true) (answers : Answers) : c.isShown answers = true := by
  rw [isShown, hactive, htrigger]
  simp

end Category

section Growth

variable {answers more : Answers} (h : answers.Within more)

include h

theorem Condition.holds_of_within {c : Condition} (hc : c.holds answers = true) :
    c.holds more = true := by
  rw [holds] at hc ⊢
  cases hanswer : answers.lookup c.field with
  | none =>
    rw [hanswer] at hc
    cases hc
  | some v =>
    rw [h c.field v hanswer]
    rw [hanswer] at hc
    exact hc

theorem Clause.holds_of_within {k : Clause} (hk : k.holds answers = true) :
    k.holds more = true := by
  cases k with
  | item c => exact Condition.holds_of_within h hk
  | group cs =>
    apply List.all_eq_true.mpr
    intro c hc
    exact Condition.holds_of_within h (List.all_eq_true.mp hk c hc)

theorem Rule.holds_of_within {r : Rule} (hr : r.holds answers = true) : r.holds more = true := by
  obtain ⟨allOf, anyOf⟩ := r
  cases allOf with
  | some ks =>
    apply List.all_eq_true.mpr
    intro k hk
    exact Clause.holds_of_within h (List.all_eq_true.mp hr k hk)
  | none =>
    cases anyOf with
    | some ks =>
      obtain ⟨k, hk, hholds⟩ := List.any_eq_true.mp hr
      exact List.any_eq_true.mpr ⟨k, hk, Clause.holds_of_within h hholds⟩
    | none => cases hr

namespace Category

theorem isOpen_of_within {c : Category} (hc : c.isOpen answers = true) :
    c.isOpen more = true := by
  rw [isOpen] at hc ⊢
  cases hrule : c.rule with
  | none => rfl
  | some r =>
    rw [hrule] at hc
    exact Rule.holds_of_within h hc

theorem isShown_of_within {c : Category} (hc : c.isShown answers = true) :
    c.isShown more = true := by
  simp only [isShown, Bool.and_eq_true, Bool.or_eq_true] at hc ⊢
  obtain ⟨hactive, hsection | ⟨hconditional, hopen⟩⟩ := hc
  · exact ⟨hactive, .inl hsection⟩
  · exact ⟨hactive, .inr ⟨hconditional, isOpen_of_within h hopen⟩⟩

end Category

end Growth

namespace VisibleSections

theorem mem_trigger_group {categories : List Category} {c : Category}
    (hc : c ∈ categories) (hactive : c.isActive = true) (htrigger : c.isIn .trigger = true)
    (answers : Answers) : c ∈ (group categories answers).trigger := by
  refine List.mem_filter.mpr ⟨List.mem_filter.mpr ⟨hc, ?_⟩, ?_⟩
  · exact Category.isShown_of_trigger hactive htrigger answers
  · rw [Category.isIn, beq_iff_eq] at htrigger
    rw [Category.isIn, Category.isIn, htrigger]
    decide

/-- Whether each section holds, in its order, the categories of a smaller one. -/
structure Within (s t : VisibleSections) : Prop where
  trigger : s.trigger.Sublist t.trigger
  conditional : s.conditional.Sublist t.conditional
  commonFinal : s.commonFinal.Sublist t.commonFinal

theorem Within.categories_sublist {s t : VisibleSections} (h : s.Within t) :
    s.categories.Sublist t.categories :=
  (h.trigger.append h.conditional).append h.commonFinal

section Growth

variable {answers more : Answers} (h : answers.Within more) (categories : List Category)

include h

theorem shown_sublist : (shown categories answers).Sublist (shown categories more) := by
  apply List.monotone_filter_right
  intro c hc
  exact Category.isShown_of_within h hc

theorem showsCommonFinal_of_within (hshows : showsCommonFinal categories answers = true) :
    showsCommonFinal categories more = true := by
  rw [showsCommonFinal, Bool.or_eq_true] at hshows ⊢
  rcases hshows with hnone | hsome
  · exact .inl hnone
  · obtain ⟨c, hc, hshown⟩ := List.any_eq_true.mp hsome
    exact .inr (List.any_eq_true.mpr ⟨c, hc, Category.isShown_of_within h hshown⟩)

theorem group_within : (group categories answers).Within (group categories more) where
  trigger := (shown_sublist h categories).filter _
  conditional := (shown_sublist h categories).filter _
  commonFinal := by
    change List.Sublist (if showsCommonFinal categories answers then _ else [])
      (if showsCommonFinal categories more then _ else [])
    cases hshows : showsCommonFinal categories answers with
    | false => exact List.nil_sublist _
    | true =>
      rw [if_pos rfl, if_pos (showsCommonFinal_of_within h categories hshows)]
      exact (shown_sublist h categories).filter _

end Growth

/-- What is shown under some answers is shown under more of them, and rules that hold go on
holding, as they are read and as they are stored. -/
theorem more_answers_hide_nothing {answers more : Answers} (h : answers.Within more) :
    (∀ categories, (group categories answers).Within (group categories more)) ∧
      (∀ r : Rule, r.holds answers = true → r.holds more = true) ∧
      ∀ stored : Json, (Rule.load? stored).any (·.holds answers) = true →
        (Rule.load? stored).any (·.holds more) = true := by
  refine ⟨group_within h, fun _ => Rule.holds_of_within h, ?_⟩
  intro stored hstored
  obtain ⟨r, hr, hholds⟩ := (Option.any_eq_true _ _).mp hstored
  exact (Option.any_eq_true _ _).mpr ⟨r, hr, Rule.holds_of_within h hholds⟩

/-- Prints come at the end, once the lights are offered: on a known day other than a holiday, for
any plan but the outdoor one. -/
def lightsForm : List Category := [
  { id := 10, name := "plan", formSection := some "trigger" },
  { id := 20, name := "lights", formSection := some "conditional"
    rule := some {
      allOf := some [
        .group [⟨"plan", "NOT_IN", .list [.text "Outdoor"]⟩, ⟨"day", "!=", .scalar (.int 25)⟩]] } },
  { id := 30, name := "prints", formSection := some "common_final" }]

/-- Without the day the comparison fails, though it asks for a difference. -/
theorem naming_the_day_shows_prints :
    Answers.Within [("plan", .str "Studio")] [("day", .null), ("plan", .str "Studio")] ∧
      (group lightsForm [("plan", .str "Studio")]).Within
        (group lightsForm [("day", .null), ("plan", .str "Studio")]) ∧
      (group lightsForm [("plan", .str "Studio")]).commonFinal = [] ∧
      (group lightsForm [("day", .null), ("plan", .str "Studio")]).commonFinal.map Category.id =
        [30] := by
  have hwithin : Answers.Within [("plan", .str "Studio")]
      [("day", .null), ("plan", .str "Studio")] := by
    intro field v h
    rw [List.lookup_cons, List.lookup_nil] at h
    cases hfield : field == "plan" with
    | true =>
      rw [hfield] at h
      rw [beq_iff_eq.mp hfield]
      exact h
    | false =>
      rw [hfield] at h
      cases h
  refine ⟨hwithin, (more_answers_hide_nothing hwithin).1 lightsForm, ?_, ?_⟩
  · decide +kernel
  · decide +kernel

end VisibleSections

end StudioQuote
