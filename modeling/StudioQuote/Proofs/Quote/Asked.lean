import StudioQuote.Proofs.Quote.Charged

/-!
# Fields that are asked for

A form asks for the fields that the rules of its active conditional categories compare, each
rule in the group that decides it. Nothing else in the answers has any effect: two sets of
answers that agree on these fields, be it that they leave one of them out, show the same
sections, and with the same selection they get the same quote.
-/

namespace StudioQuote

open Number

theorem all_congr_of_mem {α : Type} {as : List α} {p q : α → Bool} (h : ∀ a ∈ as, p a = q a) :
    as.all p = as.all q := by
  rw [Bool.eq_iff_iff, List.all_eq_true, List.all_eq_true]
  exact forall₂_congr fun a ha => by rw [h a ha]

theorem any_congr_of_mem {α : Type} {as : List α} {p q : α → Bool} (h : ∀ a ∈ as, p a = q a) :
    as.any p = as.any q := by
  rw [Bool.eq_iff_iff, List.any_eq_true, List.any_eq_true]
  exact exists_congr fun a => and_congr_right fun ha => by rw [h a ha]

/-- Whether two sets of answers give the same value, or none, for each of some fields. -/
def Answers.AgreeOn (fields : List String) (values others : Answers) : Prop :=
  ∀ field ∈ fields, values.lookup field = others.lookup field

def Clause.fields : Clause → List String
  | .item c => [c.field]
  | .group cs => cs.map Condition.field

/-- The fields compared in the group that decides a rule. -/
def Rule.fields (r : Rule) : List String :=
  ((r.allOf.or r.anyOf).getD []).flatMap Clause.fields

namespace Category

def fields (c : Category) : List String :=
  (c.rule.map Rule.fields).getD []

def askedFields (categories : List Category) : List String :=
  (categories.filter fun c => c.isActive && c.isIn .conditional).flatMap fields

end Category

section Agreement

variable {values others : Answers}

theorem Answers.AgreeOn.of_mem {α : Type} {as : List α} {fieldsOf : α → List String}
    (h : AgreeOn (as.flatMap fieldsOf) values others) {a : α} (ha : a ∈ as) :
    AgreeOn (fieldsOf a) values others :=
  fun field hfield => h field (List.mem_flatMap_of_mem ha hfield)

theorem Condition.holds_congr {c : Condition}
    (h : values.lookup c.field = others.lookup c.field) : c.holds values = c.holds others := by
  rw [holds, holds, h]

theorem Clause.holds_congr {k : Clause} (h : Answers.AgreeOn k.fields values others) :
    k.holds values = k.holds others := by
  cases k with
  | item c => exact Condition.holds_congr (h c.field (List.mem_singleton_self _))
  | group cs =>
    apply all_congr_of_mem
    intro c hc
    exact Condition.holds_congr (h c.field (List.mem_map_of_mem hc))

theorem Rule.holds_congr {r : Rule} (h : Answers.AgreeOn r.fields values others) :
    r.holds values = r.holds others := by
  have hclause : ∀ k ∈ (r.allOf.or r.anyOf).getD [], k.holds values = k.holds others := by
    intro k hk
    exact Clause.holds_congr (h.of_mem hk)
  obtain ⟨allOf, anyOf⟩ := r
  cases allOf with
  | some ks => exact all_congr_of_mem hclause
  | none =>
    cases anyOf with
    | some ks => exact any_congr_of_mem hclause
    | none => rfl

namespace Category

theorem isOpen_congr {c : Category} (h : Answers.AgreeOn c.fields values others) :
    c.isOpen values = c.isOpen others := by
  rw [isOpen, isOpen]
  rw [fields] at h
  cases hrule : c.rule with
  | none => rfl
  | some r =>
    rw [hrule] at h
    exact Rule.holds_congr h

/-- Only the gate of an active conditional category looks at the answers. -/
theorem isShown_congr {c : Category}
    (h : c.isActive = true → c.isIn .conditional = true → c.isOpen values = c.isOpen others) :
    c.isShown values = c.isShown others := by
  rw [isShown, isShown]
  cases hactive : c.isActive with
  | false => rfl
  | true =>
    cases hconditional : c.isIn .conditional with
    | false => rfl
    | true => rw [h hactive hconditional]

theorem isShown_congr_of_asked {categories : List Category} {c : Category} (hc : c ∈ categories)
    (h : Answers.AgreeOn (askedFields categories) values others) :
    c.isShown values = c.isShown others := by
  refine isShown_congr fun hactive hconditional => isOpen_congr (h.of_mem ?_)
  rw [List.mem_filter, hactive, hconditional]
  exact ⟨hc, rfl⟩

end Category

namespace VisibleSections

theorem showsCommonFinal_congr {categories : List Category}
    (h : ∀ c ∈ categories, c.isShown values = c.isShown others) :
    showsCommonFinal categories values = showsCommonFinal categories others := by
  have hany := any_congr_of_mem fun c (hc : c ∈ categories.filter fun c =>
    c.isActive && c.isIn .conditional) => h c (List.mem_of_mem_filter hc)
  rw [showsCommonFinal, showsCommonFinal, hany]

/-- Answers that show the same categories show them in the same sections. -/
theorem group_congr {categories : List Category}
    (h : ∀ c ∈ categories, c.isShown values = c.isShown others) :
    group categories values = group categories others := by
  have hshown : shown categories values = shown categories others := List.filter_congr h
  rw [group, group, hshown, showsCommonFinal_congr h]

end VisibleSections

/-- Explicit answers that agree do so beside the answers that a selection gives. -/
theorem Answers.AgreeOn.ofSelection {fields : List String} (h : AgreeOn fields values others)
    (categories : List Category) (selected : List Item) :
    AgreeOn fields (Answers.ofSelection categories selected values)
      (Answers.ofSelection categories selected others) := by
  intro field hfield
  rw [lookup_ofSelection, lookup_ofSelection, h field hfield]

end Agreement

namespace Quote

/-- Answers to fields that no rule of a form asks for change neither what is shown nor the
quote. -/
theorem unasked_answers_do_not_matter (values others : Answers) :
    (∀ categories, Answers.AgreeOn (Category.askedFields categories) values others →
      VisibleSections.group categories values = VisibleSections.group categories others) ∧
    ∀ (form : PublishedForm) (ids : List Int) (shootingCategoryId : Option Int) (today : Date)
      (rate : Decimal), Answers.AgreeOn (Category.askedFields form.categories) values others →
      build? form values ids shootingCategoryId today rate =
        build? form others ids shootingCategoryId today rate := by
  have hgroup : ∀ categories (values others : Answers),
      Answers.AgreeOn (Category.askedFields categories) values others →
      VisibleSections.group categories values = VisibleSections.group categories others := by
    intro categories values others h
    exact VisibleSections.group_congr fun c hc => Category.isShown_congr_of_asked hc h
  refine ⟨fun categories h => hgroup categories values others h, ?_⟩
  intro form ids shootingCategoryId today rate h
  have hsections := hgroup form.categories _ _
    (h.ofSelection form.categories (Item.resolve ids form.items))
  refine build?_congr Iff.rfl ?_
  rw [build, build, answers, answers, hsections]

/-- The form asks for the location. An answer to its prints, or what a customer says beside the
form, does not matter to it, but the location does. -/
theorem location_is_all_that_matters :
    Category.askedFields makeupForm.categories = [answerField 10] ∧
      build? makeupForm [("hair", .str "red"), (answerField 10, .int 100)] [200] (some 7)
          shootingDay standardTaxRate =
        build? makeupForm [(answerField 10, .int 100), (answerField 30, .null)] [200] (some 7)
          shootingDay standardTaxRate ∧
      (build makeupForm [(answerField 10, .int 100)] [200] (some 7) shootingDay
        standardTaxRate).selectedItemIds = [200, 300] ∧
      (build makeupForm [(answerField 10, .int 101)] [200] (some 7) shootingDay
        standardTaxRate).selectedItemIds = [300] := by
  have hasked : Category.askedFields makeupForm.categories = [answerField 10] := by
    decide +kernel
  have hagree : Answers.AgreeOn (Category.askedFields makeupForm.categories)
      [("hair", .str "red"), (answerField 10, .int 100)]
      [(answerField 10, .int 100), (answerField 30, .null)] := by
    rw [hasked, Answers.AgreeOn, List.forall_mem_singleton]
    rfl
  refine ⟨hasked, ?_, by decide +kernel, by decide +kernel⟩
  exact (unasked_answers_do_not_matter _ _).2 makeupForm [200] (some 7) shootingDay
    standardTaxRate hagree

end Quote

end StudioQuote
