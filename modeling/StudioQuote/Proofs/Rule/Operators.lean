import StudioQuote.Proofs.Json.Equality

/-!
# How the operators fit together

For one answer to a field, each operator is the negation of another one or is decided by the
others, whatever value is expected. Numbers are compared by what they stand for, so an integer
and a floating-point value are in exactly one order. Of what is no number nothing is less or
more, and a list only differs.
-/

namespace StudioQuote

open Json Number

namespace Json

theorem worth?_of_numberValue? {v : Json} {x : Line} (h : v.numberValue? = some x) :
    v.kind = .number ∧ v.worth? = some x := by
  cases v with
  | int n => exact ⟨rfl, h⟩
  | float y => exact ⟨rfl, h⟩
  | _ => cases h

section Numbers

variable {v w : Json} {x y : Line} (hv : v.numberValue? = some x) (hw : w.numberValue? = some y)

include hv hw

theorem order?_of_numberValue? : v.order? w = some (cmp x y) :=
  order?_eq_some_iff.mpr ⟨x, y, hv, hw, rfl⟩

theorem strictlyEqual_of_numberValue? : v.strictlyEqual w = (cmp x y == .eq) := by
  obtain ⟨hkind, hx⟩ := worth?_of_numberValue? hv
  obtain ⟨hkind', hy⟩ := worth?_of_numberValue? hw
  rw [Bool.eq_iff_iff, strictlyEqual_iff, same_number_iff hx, hy, hkind, hkind',
    Option.some.injEq, beq_iff_eq, cmp_eq_eq_iff]
  constructor
  · rintro ⟨-, -, -, rfl⟩
    rfl
  · rintro rfl
    refine ⟨nofun, ?_, rfl, rfl⟩
    rintro rfl
    cases hv

end Numbers

theorem order?_eq_none {v w : Json} (h : v.numberValue? = none ∨ w.numberValue? = none) :
    v.order? w = none := by
  rw [Option.eq_none_iff_forall_ne_some]
  intro o ho
  obtain ⟨x, y, hv, hw, -⟩ := order?_eq_some_iff.mp ho
  rw [hv, hw] at h
  cases h with
  | inl h => cases h
  | inr h => cases h

theorem strictlyEqual_arr (vs : List Json) (w : Json) : (arr vs).strictlyEqual w = false :=
  Bool.eq_false_iff.mpr fun h => (strictlyEqual_iff.mp h).1 rfl

end Json

/-! ## Operators by their names -/

namespace Operator

def name : Operator → String
  | .eq => "="
  | .ne => "!="
  | .isIn => "IN"
  | .notIn => "NOT_IN"
  | .gt => ">"
  | .ge => ">="
  | .lt => "<"
  | .le => "<="

theorem ofName?_eq_some_iff {s : String} {o : Operator} : ofName? s = some o ↔ s = o.name := by
  constructor
  · intro h
    rw [ofName?.eq_def] at h
    split at h <;> cases h <;> rfl
  · rintro rfl
    cases o <;> rfl

/-- The operator that asks for an order of two numbers. -/
def ofOrdering : Ordering → Operator
  | .lt => .lt
  | .eq => .eq
  | .gt => .gt

theorem holds_ofOrdering {v : Json} {e : Operand} {x y : Line} (hv : v.numberValue? = some x)
    (he : e.toJson.numberValue? = some y) (o : Ordering) :
    (ofOrdering o).holds v e = (cmp x y == o) := by
  cases o with
  | eq => exact strictlyEqual_of_numberValue? hv he
  | lt => rw [ofOrdering, holds, order?_of_numberValue? hv he, Option.any_some]
  | gt => rw [ofOrdering, holds, order?_of_numberValue? hv he, Option.any_some]

/-- A list differs from everything and is in no list. -/
theorem holds_arr {vs : List Json} {e : Operand} {o : Operator} :
    o.holds (.arr vs) e = true ↔ o = .ne ∨ o = .notIn ∧ ∃ es, e = .list es := by
  have horder : (Json.arr vs).order? e.toJson = none := order?_eq_none (.inl rfl)
  have hcontains : ∀ es, Operand.contains (.arr vs) es = false := by
    intro es
    rw [Operand.contains, List.any_eq_false]
    intro s _
    rw [strictlyEqual_arr]
    exact Bool.false_ne_true
  cases o with
  | eq => simp [holds, strictlyEqual_arr]
  | ne => simp [holds, strictlyEqual_arr]
  | isIn => cases e <;> simp [holds, hcontains]
  | notIn => cases e <;> simp [holds, hcontains]
  | _ => simp [holds, horder]

/-- Whether the operator of a name holds. -/
def named (answer : Json) (operator : String) (e : Operand) : Bool :=
  (ofName? operator).any (·.holds answer e)

theorem named_name (answer : Json) (o : Operator) (e : Operand) :
    named answer o.name e = o.holds answer e := by
  rw [named, ofName?_eq_some_iff.mpr rfl, Option.any_some]

theorem named_iff {answer : Json} {operator : String} {e : Operand} :
    named answer operator e = true ↔ ∃ o, operator = name o ∧ o.holds answer e = true := by
  rw [named, Option.any_eq_true]
  simp only [ofName?_eq_some_iff]

section Numbers

variable {answer : Json} {e : Operand} {x y : Line} (hx : answer.numberValue? = some x)
  (hy : e.toJson.numberValue? = some y)

include hx hy

theorem named_ofOrdering_iff (o : Ordering) :
    named answer (ofOrdering o).name e = true ↔ cmp x y = o := by
  rw [named_name, holds_ofOrdering hx hy, beq_iff_eq]

theorem existsUnique_order :
    ∃! operator, operator ∈ ["<", "=", ">"] ∧ named answer operator e = true := by
  refine ⟨(ofOrdering (cmp x y)).name, ⟨?_, (named_ofOrdering_iff hx hy _).mpr rfl⟩, ?_⟩
  · cases cmp x y <;> decide
  · rintro operator ⟨hmem, hholds⟩
    have hall : ["<", "=", ">"] = [.lt, .eq, .gt].map fun o => (ofOrdering o).name := rfl
    rw [hall] at hmem
    obtain ⟨o, -, rfl⟩ := List.mem_map.mp hmem
    rw [(named_ofOrdering_iff hx hy o).mp hholds]

theorem named_le : named answer "<=" e = (named answer "<" e || named answer "=" e) := by
  change (answer.order? e.toJson).any (· != .gt) =
    ((answer.order? e.toJson).any (· == .lt) || answer.strictlyEqual e.toJson)
  rw [order?_of_numberValue? hx hy, strictlyEqual_of_numberValue? hx hy]
  cases cmp x y <;> rfl

theorem named_ge : named answer ">=" e = (named answer ">" e || named answer "=" e) := by
  change (answer.order? e.toJson).any (· != .lt) =
    ((answer.order? e.toJson).any (· == .gt) || answer.strictlyEqual e.toJson)
  rw [order?_of_numberValue? hx hy, strictlyEqual_of_numberValue? hx hy]
  cases cmp x y <;> rfl

end Numbers

theorem named_of_no_number {answer : Json} {e : Operand}
    (h : answer.numberValue? = none ∨ e.toJson.numberValue? = none) {operator : String}
    (hoperator : operator ∈ ["<", "<=", ">", ">="]) : named answer operator e = false := by
  have horder := order?_eq_none h
  have hall : ["<", "<=", ">", ">="] = [lt, le, gt, ge].map name := rfl
  rw [hall] at hoperator
  obtain ⟨o, ho, rfl⟩ := List.mem_map.mp hoperator
  rw [named_name]
  cases o with
  | gt => rw [holds, horder, Option.any_none]
  | ge => rw [holds, horder, Option.any_none]
  | lt => rw [holds, horder, Option.any_none]
  | le => rw [holds, horder, Option.any_none]
  | _ => simp at ho

/-! ## The laws -/

/-- The laws of the operators for an answer and all values expected of it. -/
structure Laws (holds : String → Operand → Bool) (answer : Json) : Prop where
  differs : ∀ e, holds "!=" e = !holds "=" e
  among : ∀ es, holds "IN" (.list es) = true ↔ ∃ s ∈ es, holds "=" (.scalar s) = true
  notAmong : ∀ es, holds "NOT_IN" (.list es) = !holds "IN" (.list es)
  noList : ∀ s, holds "IN" (.scalar s) = false ∧ holds "NOT_IN" (.scalar s) = false
  ordered : ∀ e x y, answer.numberValue? = some x → e.toJson.numberValue? = some y →
    (holds "<" e = true ↔ x < y) ∧ (holds "=" e = true ↔ x = y) ∧ (holds ">" e = true ↔ y < x) ∧
      (∃! operator, operator ∈ ["<", "=", ">"] ∧ holds operator e = true) ∧
      holds "<=" e = (holds "<" e || holds "=" e) ∧ holds ">=" e = (holds ">" e || holds "=" e)
  unordered : ∀ e, answer.numberValue? = none ∨ e.toJson.numberValue? = none →
    ∀ operator ∈ ["<", "<=", ">", ">="], holds operator e = false
  list : ∀ vs, answer = .arr vs → ∀ operator e,
    holds operator e = true ↔ operator = "!=" ∨ operator = "NOT_IN" ∧ ∃ es, e = .list es

theorem laws (answer : Json) : Laws (named answer) answer where
  differs _ := rfl
  among es := by
    change Operand.contains answer es = true ↔ _
    rw [Operand.contains, List.any_eq_true]
    rfl
  notAmong _ := rfl
  noList _ := ⟨rfl, rfl⟩
  ordered e x y hx hy := by
    refine ⟨?_, ?_, ?_, existsUnique_order hx hy, named_le hx hy, named_ge hx hy⟩
    · exact (named_ofOrdering_iff hx hy .lt).trans (cmp_eq_lt_iff x y)
    · exact (named_ofOrdering_iff hx hy .eq).trans (cmp_eq_eq_iff x y)
    · exact (named_ofOrdering_iff hx hy .gt).trans (cmp_eq_gt_iff x y)
  unordered _ hnone _ hoperator := named_of_no_number hnone hoperator
  list vs hanswer operator e := by
    subst hanswer
    rw [named_iff]
    simp only [holds_arr]
    constructor
    · rintro ⟨o, rfl, rfl | ⟨rfl, hes⟩⟩
      · exact .inl rfl
      · exact .inr ⟨rfl, hes⟩
    · rintro (rfl | ⟨rfl, hes⟩)
      · exact ⟨.ne, rfl, .inl rfl⟩
      · exact ⟨.notIn, rfl, .inr ⟨rfl, hes⟩⟩

end Operator

namespace Condition

theorem holds_of_answer {answers : Answers} {field : String} {answer : Json}
    (h : answers.lookup field = some answer) (operator : String) (e : Operand) :
    holds answers ⟨field, operator, e⟩ = Operator.named answer operator e := by
  rw [holds, h, Operator.named]
  cases Operator.ofName? operator with
  | none => rfl
  | some o => rfl

/-- The operators obey their laws on every answer. A field without an answer satisfies nothing,
and neither does an operator of another name. -/
theorem comparisons_are_consistent (answers : Answers) (field : String) :
    (∀ answer, answers.lookup field = some answer →
      Operator.Laws (fun operator e => holds answers ⟨field, operator, e⟩) answer) ∧
    (answers.lookup field = none →
      ∀ operator e, holds answers ⟨field, operator, e⟩ = false) ∧
    ∀ operator ∉ ["=", "!=", "IN", "NOT_IN", ">", ">=", "<", "<="],
      ∀ e, holds answers ⟨field, operator, e⟩ = false := by
  refine ⟨?_, ?_, ?_⟩
  · intro answer hanswer
    have hnamed : (fun operator e => holds answers ⟨field, operator, e⟩) =
        Operator.named answer := by
      funext operator e
      exact holds_of_answer hanswer operator e
    rw [hnamed]
    exact Operator.laws answer
  · intro hnone operator e
    rw [holds, hnone]
  · intro operator hoperator e
    have hname : Operator.ofName? operator = none := by
      rw [Option.eq_none_iff_forall_ne_some]
      intro o ho
      rw [Operator.ofName?_eq_some_iff.mp ho] at hoperator
      apply hoperator
      cases o <;> decide
    rw [holds, hname]
    cases answers.lookup field <;> rfl

/-- The least integer that is no floating-point value, and a list of plans. -/
def budgetAnswers : Answers :=
  [("budget", .int 9007199254740993), ("plans", .arr [.str "Studio"])]

/-- The floating-point value next to the budget. -/
def roundedBudget : Operand := .scalar (.float (.finite false (2 ^ 52) 1075 (by decide)))

theorem budget_exceeds_rounded_budget :
    budgetAnswers.lookup "budget" = some (.int 9007199254740993) ∧
      holds budgetAnswers ⟨"budget", ">", roundedBudget⟩ = true ∧
      holds budgetAnswers ⟨"budget", ">=", roundedBudget⟩ = true ∧
      holds budgetAnswers ⟨"budget", "=", roundedBudget⟩ = false ∧
      holds budgetAnswers ⟨"budget", "!=", roundedBudget⟩ = true ∧
      budgetAnswers.lookup "plans" = some (.arr [.str "Studio"]) ∧
      holds budgetAnswers ⟨"plans", "IN", .list [.text "Studio"]⟩ = false ∧
      holds budgetAnswers ⟨"plans", "NOT_IN", .list [.text "Studio"]⟩ = true ∧
      budgetAnswers.lookup "day" = none ∧
      holds budgetAnswers ⟨"day", "!=", roundedBudget⟩ = false ∧
      holds budgetAnswers ⟨"budget", "=>", roundedBudget⟩ = false := by
  obtain ⟨hbudget, -, hnames⟩ := comparisons_are_consistent budgetAnswers "budget"
  obtain ⟨hplans, -, -⟩ := comparisons_are_consistent budgetAnswers "plans"
  obtain ⟨-, hday, -⟩ := comparisons_are_consistent budgetAnswers "day"
  have laws := hbudget _ rfl
  obtain ⟨-, -, -, hone, -, hge⟩ := laws.ordered roundedBudget _ _ rfl rfl
  have hmore : holds budgetAnswers ⟨"budget", ">", roundedBudget⟩ = true := by decide +kernel
  have hequal : holds budgetAnswers ⟨"budget", "=", roundedBudget⟩ = false := by
    refine Bool.eq_false_iff.mpr fun h => ?_
    exact absurd (hone.unique ⟨by decide, h⟩ ⟨by decide, hmore⟩) (by decide)
  have hlist := (hplans _ rfl).list _ rfl
  refine ⟨rfl, hmore, ?_, hequal, ?_, rfl, ?_, ?_, rfl, ?_, ?_⟩
  · rw [hge, hmore, Bool.true_or]
  · rw [laws.differs, hequal, Bool.not_false]
  · exact Bool.eq_false_iff.mpr fun h => by simpa using (hlist _ _).mp h
  · exact (hlist _ _).mpr (.inr ⟨rfl, _, rfl⟩)
  · exact hday rfl _ _
  · exact hnames _ (by decide) _

end Condition

end StudioQuote
