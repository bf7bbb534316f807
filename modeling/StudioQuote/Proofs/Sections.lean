import StudioQuote.Proofs.Visibility

/-!
# Sections partition what is shown

A category stands in one section at most: the one that it names, or the first one if it names
none. Each section of a form holds the shown categories that stand in it, in the order of the
form and as often as there, but the common-final section is empty as long as it is held back.
So no category is lost or shown twice, and what is inactive or in no known section is not shown.
-/

namespace StudioQuote

namespace FormSection

theorem ofName?_eq_some_iff {name : String} {s : FormSection} :
    ofName? name = some s ↔ name = s.name := by
  constructor
  · intro h
    have hname := List.find?_some h
    exact (beq_iff_eq.mp hname).symm
  · rintro rfl
    exact ofName?_name s

end FormSection

namespace Category

/-- The section in which a category stands. -/
def section? (c : Category) : Option FormSection :=
  match c.formSection with
  | none => some .trigger
  | some name => FormSection.ofName? name

theorem section?_eq_some_iff {c : Category} {s : FormSection} :
    c.section? = some s ↔ c.formSection = some s.name ∨ c.formSection = none ∧ s = .trigger := by
  rw [section?]
  cases c.formSection with
  | none => simp [eq_comm]
  | some name => simp [FormSection.ofName?_eq_some_iff]

theorem section?_beq_trigger (c : Category) :
    (c.section? == some .trigger) = (c.formSection == some "trigger" || c.formSection == none) := by
  rw [Bool.eq_iff_iff]
  simp only [Bool.or_eq_true, beq_iff_eq, section?_eq_some_iff, and_true]
  rfl

theorem section?_beq (c : Category) (s : FormSection) (h : s ≠ .trigger) :
    (c.section? == some s) = c.isIn s := by
  rw [Bool.eq_iff_iff, isIn, beq_iff_eq, beq_iff_eq, section?_eq_some_iff]
  simp only [h, and_false, or_false]

theorem isIn_iff {c : Category} {s : FormSection} : c.isIn s = true ↔ c.formSection = some s.name :=
  beq_iff_eq

/-- Only the conditional section looks at the answers. -/
theorem isShown_iff {c : Category} {answers : Answers} :
    c.isShown answers = true ↔ c.isActive = true ∧
      ∃ s, c.section? = some s ∧ (s = .conditional → c.isOpen answers = true) := by
  rw [isShown, Bool.and_eq_true]
  simp only [section?_eq_some_iff, Bool.or_eq_true, Bool.and_eq_true, isIn_iff,
    Option.isNone_iff_eq_none]
  refine and_congr_right fun _ => ?_
  constructor
  · rintro (((h | h) | h) | ⟨h, hopen⟩)
    · exact ⟨.trigger, .inr ⟨h, rfl⟩, fun hne => by cases hne⟩
    · exact ⟨.trigger, .inl h, fun hne => by cases hne⟩
    · exact ⟨.commonFinal, .inl h, fun hne => by cases hne⟩
    · exact ⟨.conditional, .inl h, fun _ => hopen⟩
  · rintro ⟨s, h | ⟨h, rfl⟩, hopen⟩
    · cases s with
      | trigger => exact .inl (.inl (.inr h))
      | conditional => exact .inr ⟨h, hopen rfl⟩
      | commonFinal => exact .inl (.inr h)
    · exact .inl (.inl (.inl h))

end Category

namespace VisibleSections

def inSection (v : VisibleSections) : FormSection → List Category
  | .trigger => v.trigger
  | .conditional => v.conditional
  | .commonFinal => v.commonFinal

section Group

variable (categories : List Category) (answers : Answers)

theorem inSection_group (s : FormSection) :
    (group categories answers).inSection s =
      if s = .commonFinal ∧ showsCommonFinal categories answers = false then []
      else (shown categories answers).filter (·.section? == some s) := by
  cases s with
  | trigger =>
    rw [if_neg (by simp)]
    apply List.filter_congr
    intro c hc
    rw [← Category.section?_beq c .conditional (by decide),
      ← Category.section?_beq c .commonFinal (by decide)]
    obtain ⟨-, s, hs, -⟩ := Category.isShown_iff.mp (List.mem_filter.mp hc).2
    rw [hs]
    cases s <;> rfl
  | conditional =>
    rw [if_neg (by simp)]
    exact List.filter_congr fun c _ => (Category.section?_beq c .conditional (by decide)).symm
  | commonFinal =>
    have hfinal : (shown categories answers).filter (·.isIn .commonFinal) =
        (shown categories answers).filter (·.section? == some .commonFinal) :=
      List.filter_congr fun c _ => (Category.section?_beq c .commonFinal (by decide)).symm
    change (if showsCommonFinal categories answers then _ else []) = _
    rw [hfinal]
    cases showsCommonFinal categories answers with
    | true => simp
    | false => simp

variable {categories answers} in
theorem of_mem_inSection {s : FormSection} {c : Category}
    (h : c ∈ (group categories answers).inSection s) :
    c ∈ categories ∧ c.isShown answers = true ∧ c.section? = some s ∧
      ¬ (s = .commonFinal ∧ showsCommonFinal categories answers = false) := by
  rw [inSection_group] at h
  split at h
  · cases h
  · rename_i hheld
    obtain ⟨hshown, hs⟩ := List.mem_filter.mp h
    obtain ⟨hc, hshown⟩ := List.mem_filter.mp hshown
    exact ⟨hc, hshown, beq_iff_eq.mp hs, hheld⟩

theorem count_inSection {s : FormSection} {c : Category} (hshown : c.isShown answers = true)
    (hs : c.section? = some s)
    (hheld : ¬ (s = .commonFinal ∧ showsCommonFinal categories answers = false)) :
    ((group categories answers).inSection s).count c = categories.count c := by
  have hsection : (c.section? == some s) = true := beq_iff_eq.mpr hs
  rw [inSection_group, if_neg hheld]
  refine (List.count_filter (p := fun c : Category => c.section? == some s) hsection).trans ?_
  exact List.count_filter (p := fun c : Category => c.isShown answers) hshown

theorem inSection_group_sublist (s : FormSection) :
    ((group categories answers).inSection s).Sublist categories := by
  rw [inSection_group]
  split
  · exact List.nil_sublist _
  · exact List.filter_sublist.trans List.filter_sublist

theorem shown_eq (s : FormSection) :
    (shown categories answers).filter (·.section? == some s) =
      categories.filter fun c =>
        c.isActive && c.section? == some s && (s != .conditional || c.isOpen answers) := by
  rw [shown, List.filter_filter]
  apply List.filter_congr
  intro c _
  rw [Bool.eq_iff_iff]
  simp only [Bool.and_eq_true, Bool.or_eq_true, beq_iff_eq, bne_iff_ne, Category.isShown_iff]
  constructor
  · rintro ⟨hs, hactive, t, ht, hopen⟩
    rw [hs, Option.some.injEq] at ht
    subst ht
    exact ⟨⟨hactive, hs⟩, not_or_of_imp hopen⟩
  · rintro ⟨⟨hactive, hs⟩, hopen⟩
    refine ⟨hs, hactive, s, hs, ?_⟩
    exact hopen.neg_resolve_left

theorem trigger_group : (group categories answers).trigger =
    categories.filter fun c => c.isActive &&
      (c.formSection == some "trigger" || c.formSection == none) := by
  have h := inSection_group categories answers .trigger
  rw [if_neg (by simp), shown_eq] at h
  refine h.trans (List.filter_congr fun c _ => ?_)
  rw [Category.section?_beq_trigger]
  exact Bool.and_true _

theorem conditional_group : (group categories answers).conditional =
    categories.filter fun c => c.isActive && c.formSection == some "conditional" &&
      c.rule.all (·.holds answers) := by
  have h := inSection_group categories answers .conditional
  rw [if_neg (by simp), shown_eq] at h
  refine h.trans (List.filter_congr fun c _ => ?_)
  have hopen : c.isOpen answers = c.rule.all (·.holds answers) := by
    rw [Category.isOpen]
    cases c.rule <;> rfl
  rw [Category.section?_beq c .conditional (by decide), hopen]
  rfl

theorem commonFinal_group : (group categories answers).commonFinal =
    if showsCommonFinal categories answers then
      categories.filter fun c => c.isActive && c.formSection == some "common_final"
    else [] := by
  have h := inSection_group categories answers .commonFinal
  have hfilter : categories.filter (fun c => c.isActive && c.section? == some .commonFinal &&
      (FormSection.commonFinal != .conditional || c.isOpen answers)) =
        categories.filter fun c => c.isActive && c.formSection == some "common_final" := by
    refine List.filter_congr fun c _ => ?_
    rw [Category.section?_beq c .commonFinal (by decide)]
    exact Bool.and_true _
  rw [shown_eq, hfilter] at h
  refine h.trans ?_
  cases showsCommonFinal categories answers <;> simp

theorem mem_conditional_group_iff {c : Category} :
    c ∈ (group categories answers).conditional ↔
      c ∈ categories ∧ c.isIn .conditional = true ∧ c.isShown answers = true := by
  change c ∈ (categories.filter _).filter _ ↔ _
  rw [List.mem_filter, List.mem_filter, and_assoc, and_comm (a := c.isShown answers = true)]

/-- The common-final section waits for a conditional category, if there is an active one. -/
theorem showsCommonFinal_iff :
    showsCommonFinal categories answers = true ↔
      (∀ c ∈ categories, c.isActive = true → c.formSection ≠ some "conditional") ∨
        (group categories answers).conditional ≠ [] := by
  rw [showsCommonFinal, Bool.or_eq_true]
  refine or_congr ?_ ?_
  · rw [List.isEmpty_iff, List.filter_eq_nil_iff]
    simp only [Bool.and_eq_true, not_and, Category.isIn_iff]
    rfl
  · rw [List.any_eq_true]
    simp only [List.mem_filter, Bool.and_eq_true]
    constructor
    · rintro ⟨c, ⟨hc, -, hconditional⟩, hshown⟩
      exact List.ne_nil_of_mem ((mem_conditional_group_iff _ _).mpr ⟨hc, hconditional, hshown⟩)
    · intro hne
      obtain ⟨c, hmem⟩ := List.exists_mem_of_ne_nil _ hne
      obtain ⟨hc, hconditional, hshown⟩ := (mem_conditional_group_iff _ _).mp hmem
      exact ⟨c, ⟨hc, (Category.isShown_iff.mp hshown).1, hconditional⟩, hshown⟩

end Group

/-- The three sections hold, in the order of the form, the active categories that belong there:
those whose gate is open in the conditional section, and none in the common-final section while
it is held back. A category that is shown stands in one section, as often as in the form, unless
it is held back with the others; one that is inactive or names no known section stands in none. -/
theorem sections_partition_categories (categories : List Category) (answers : Answers) :
    (group categories answers).trigger =
        categories.filter (fun c => c.isActive &&
          (c.formSection == some "trigger" || c.formSection == none)) ∧
      (group categories answers).conditional =
        categories.filter (fun c => c.isActive && c.formSection == some "conditional" &&
          c.rule.all (·.holds answers)) ∧
      (group categories answers).commonFinal =
        (if showsCommonFinal categories answers then
          categories.filter fun c => c.isActive && c.formSection == some "common_final"
        else []) ∧
      (showsCommonFinal categories answers = true ↔
        (∀ c ∈ categories, c.isActive = true → c.formSection ≠ some "conditional") ∨
          (group categories answers).conditional ≠ []) ∧
      ((group categories answers).hasTrigger = true ↔
        ∃ c ∈ categories, c.isActive = true ∧ c.formSection = some "trigger") ∧
      (∀ s, ((group categories answers).inSection s).Sublist categories) ∧
      (∀ c ∈ categories, c.isShown answers = true →
        (∃ s, ((group categories answers).inSection s).count c = categories.count c ∧
          ∀ t ≠ s, c ∉ (group categories answers).inSection t) ∨
        c.formSection = some "common_final" ∧ showsCommonFinal categories answers = false ∧
          ∀ t, c ∉ (group categories answers).inSection t) ∧
      ∀ c, c.isActive = false ∨ (∃ name, c.formSection = some name ∧
          name ∉ ["trigger", "conditional", "common_final"]) →
        ∀ t, c ∉ (group categories answers).inSection t := by
  refine ⟨trigger_group categories answers, conditional_group categories answers,
    commonFinal_group categories answers, showsCommonFinal_iff categories answers, ?_,
    inSection_group_sublist categories answers, ?_, ?_⟩
  · change categories.any _ = true ↔ _
    simp only [List.any_eq_true, Bool.and_eq_true, Category.isIn_iff]
    rfl
  · intro c hc hshown
    obtain ⟨-, s, hs, -⟩ := Category.isShown_iff.mp hshown
    have hone : ∀ t, c ∈ (group categories answers).inSection t → t = s := by
      intro t ht
      have hsection := (of_mem_inSection ht).2.2.1
      rw [hs, Option.some.injEq] at hsection
      exact hsection.symm
    by_cases hheld : s = .commonFinal ∧ showsCommonFinal categories answers = false
    · obtain ⟨rfl, hholds⟩ := hheld
      refine .inr ⟨?_, hholds, ?_⟩
      · rcases Category.section?_eq_some_iff.mp hs with hname | ⟨-, hs⟩
        · exact hname
        · cases hs
      · intro t ht
        exact (of_mem_inSection ht).2.2.2 ⟨hone t ht, hholds⟩
    · refine .inl ⟨s, count_inSection categories answers hshown hs hheld, ?_⟩
      intro t hne ht
      exact hne (hone t ht)
  · intro c h t ht
    obtain ⟨-, hshown, hs, -⟩ := of_mem_inSection ht
    rcases h with hinactive | ⟨name, hname, hunknown⟩
    · rw [(Category.isShown_iff.mp hshown).1] at hinactive
      cases hinactive
    · rw [Category.section?_eq_some_iff, hname] at hs
      rcases hs with hs | ⟨hs, -⟩
      · cases hs
        cases t <;> simp [FormSection.name] at hunknown
      · cases hs

def planCategory : Category := { id := 10, formSection := some "trigger" }

def sidebarCategory : Category := { id := 40, formSection := some "sidebar" }

/-- The plan stands in the form twice, and the albums wait for the makeup. -/
def sidebarForm : List Category := [
  planCategory,
  { id := 30, name := "albums", formSection := some "common_final" },
  { id := 20, name := "makeup", formSection := some "conditional"
    rule := some { allOf := some [.item ⟨"plan", "=", .scalar (.text "Studio")⟩] } },
  sidebarCategory,
  planCategory]

theorem plan_is_shown_twice :
    planCategory ∈ sidebarForm ∧ planCategory.isShown [] = true ∧
      (∃ s, ((group sidebarForm []).inSection s).count planCategory = 2 ∧
        ∀ t ≠ s, planCategory ∉ (group sidebarForm []).inSection t) ∧
      (∀ t, sidebarCategory ∉ (group sidebarForm []).inSection t) ∧
      (group sidebarForm []).commonFinal = [] ∧
      (group sidebarForm [("plan", .str "Studio")]).commonFinal.map Category.id = [30] := by
  obtain ⟨-, -, hfinal, -, -, -, hone, hnone⟩ := sections_partition_categories sidebarForm []
  have hmem : planCategory ∈ sidebarForm := List.mem_cons_self
  have hshown : planCategory.isShown [] = true := by decide
  have hcount : sidebarForm.count planCategory = 2 := by decide
  refine ⟨hmem, hshown, ?_, ?_, ?_, ?_⟩
  · rcases hone planCategory hmem hshown with ⟨s, hs, hother⟩ | ⟨hheld, -⟩
    · exact ⟨s, hs.trans hcount, hother⟩
    · exact absurd (Option.some.inj hheld) (by decide)
  · exact hnone sidebarCategory (.inr ⟨"sidebar", rfl, by decide⟩)
  · rw [hfinal]
    decide +kernel
  · decide +kernel

end VisibleSections

end StudioQuote
