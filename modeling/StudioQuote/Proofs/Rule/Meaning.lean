import StudioQuote.Proofs.Reading
import StudioQuote.Rule.Evaluate
import StudioQuote.Rule.Reader

/-!
# What a stored rule means

Any JSON value can be stored as a rule. What it means is said here without the reader:
which conditions and groups an entry states, when an entry holds, and when the whole
value does. The lenient reader followed by the evaluation agrees with this, so an entry
that states nothing never holds and leaves the entries beside it alone.
-/

namespace StudioQuote

open Json

namespace Json

/-- The member under the first of two names that is there. -/
def Members.entry (ms : Members) (first second : String) : Option Json :=
  (ms.lookup first).or (ms.lookup second)

def Members.Gives (ms : Members) (first second : String) (v : Json) : Prop :=
  ms.entry first second = some v ∧ v ≠ .null

/-- Both texts and the value of a condition stand in the object as they are. -/
def StatesCondition (v : Json) (c : Condition) : Prop :=
  ∃ ms, v = .obj ms ∧ ms.lookup "field" = some (.str c.field) ∧
    ms.lookup "operator" = some (.str c.operator) ∧ ms.lookup "value" = some c.value.toJson

def StatesGroup (v : Json) (cs : List Condition) : Prop :=
  ∃ ms es, v = .obj ms ∧ Members.entry ms "AND" "all_of" = some (.arr es) ∧
    List.Forall₂ StatesCondition es cs

/-- A nested group is preferred to a condition, unless the group is empty. -/
inductive StatesClause (v : Json) : Clause → Prop
  | item {c : Condition} (hcondition : v.StatesCondition c)
      (hgroup : ∀ cs, v.StatesGroup cs → cs = []) : StatesClause v (.item c)
  | group {cs : List Condition} (hgroup : v.StatesGroup cs)
      (hcondition : cs = [] → ∀ c, ¬ v.StatesCondition c) : StatesClause v (.group cs)

inductive EntryHolds (answers : Answers) (v : Json) : Prop
  | item {c : Condition} (hclause : v.StatesClause (.item c))
      (hholds : c.holds answers = true)
  | group {cs : List Condition} (hclause : v.StatesClause (.group cs))
      (hholds : ∀ c ∈ cs, c.holds answers = true)

/-- If the first group is given it decides by itself, and what is no list decides no. -/
def Members.RuleHolds (ms : Members) (answers : Answers) : Prop :=
  (∃ es, ms.Gives "AND" "all_of" (.arr es) ∧ ∀ e ∈ es, EntryHolds answers e) ∨
    ((∀ v, ¬ ms.Gives "AND" "all_of" v) ∧
      ∃ es, ms.Gives "OR" "any_of" (.arr es) ∧ ∃ e ∈ es, EntryHolds answers e)

theorem Members.lookup_nameIn (ms : Members) (first second : String) :
    ms.lookup (ms.nameIn first second) = ms.entry first second := by
  rw [nameIn, entry]
  cases hfirst : ms.lookup first with
  | some v => simp [hfirst]
  | none =>
    cases hsecond : ms.lookup second with
    | some w => simp [hsecond]
    | none => simp [hfirst]

end Json

/-! ## Reading a clause -/

namespace Operand

theorem readScalar_eq_ok_iff {v : Json} {s : Scalar} : readScalar v = .ok s ↔ v = s.toJson := by
  constructor
  · intro h
    cases v with
    | bool b => cases h; rfl
    | int n => cases h; rfl
    | float x => cases h; rfl
    | str t => cases h; rfl
    | _ => cases h
  · rintro rfl
    cases s <;> rfl

theorem readList_eq_ok_iff {v : Json} {ss : List Scalar} :
    readList v = .ok ss ↔ v = Json.ofList Scalar.toJson ss := by
  have hmap : ∀ vs, List.Forall₂ (fun w s => w = Scalar.toJson s) vs ss ↔
      vs = ss.map Scalar.toJson := by
    intro vs
    rw [← List.forall₂_map_right_iff, List.forall₂_eq_eq_eq]
  rw [readList, Reader.list_eq_ok_iff fun _ _ => readScalar_eq_ok_iff]
  constructor
  · rintro ⟨vs, rfl, hvs⟩
    rw [(hmap vs).mp hvs]
    rfl
  · rintro rfl
    exact ⟨_, rfl, (hmap _).mpr rfl⟩

theorem read_eq_ok_iff {v : Json} {o : Operand} : read v = .ok o ↔ v = o.toJson := by
  constructor
  · intro h
    rw [read] at h
    cases hscalar : readScalar v with
    | ok s =>
      simp only [hscalar] at h
      cases h
      exact readScalar_eq_ok_iff.mp hscalar
    | failed ps =>
      cases hlist : readList v with
      | ok elements =>
        simp only [hscalar, hlist, Reading.under_ok] at h
        cases h
        exact readList_eq_ok_iff.mp hlist
      | failed qs =>
        simp only [hscalar, hlist, Reading.under_failed] at h
        cases h
  · rintro rfl
    cases o with
    | scalar s =>
      have hscalar : readScalar (toJson (.scalar s)) = .ok s := readScalar_eq_ok_iff.mpr rfl
      simp only [read, hscalar]
    | list elements =>
      have hscalar : readScalar (toJson (.list elements)) =
          .failed (scalarProblems (toJson (.list elements))) := rfl
      have hlist : readList (toJson (.list elements)) = .ok elements :=
        readList_eq_ok_iff.mpr rfl
      simp only [read, hscalar, hlist, Reading.under_ok]

end Operand

theorem Condition.read_eq_ok_iff {v : Json} {c : Condition} :
    read v = .ok c ↔ v.StatesCondition c := by
  rw [read, Reader.record_eq_ok_iff]
  constructor
  · rintro ⟨ms, rfl, h⟩
    obtain ⟨_, o, hboth, hvalue, rfl⟩ := Reading.seq_eq_ok_iff.mp h
    obtain ⟨_, operator, hfirst, hoperator, rfl⟩ := Reading.seq_eq_ok_iff.mp hboth
    obtain ⟨field, hfield, rfl⟩ := Reading.map_eq_ok_iff.mp hfirst
    obtain ⟨u, hu, hfield⟩ := Members.required_eq_ok_iff.mp hfield
    obtain ⟨w, hw, hoperator⟩ := Members.required_eq_ok_iff.mp hoperator
    obtain ⟨x, hx, hvalue⟩ := Members.required_eq_ok_iff.mp hvalue
    rw [Reader.text_eq_ok_iff.mp hfield] at hu
    rw [Reader.text_eq_ok_iff.mp hoperator] at hw
    rw [Operand.read_eq_ok_iff.mp hvalue] at hx
    exact ⟨ms, rfl, hu, hw, hx⟩
  · rintro ⟨ms, rfl, hfield, hoperator, hvalue⟩
    refine ⟨ms, rfl, ?_⟩
    rw [ofMembers, Members.required_eq_ok_iff.mpr ⟨_, hfield, Reader.text_str _⟩,
      Members.required_eq_ok_iff.mpr ⟨_, hoperator, Reader.text_str _⟩,
      Members.required_eq_ok_iff.mpr ⟨_, hvalue, Operand.read_eq_ok_iff.mpr rfl⟩]
    rfl

namespace Clause

theorem readGroup_eq_ok_iff {v : Json} {cs : List Condition} :
    readGroup v = .ok cs ↔ v.StatesGroup cs := by
  rw [readGroup, Reader.record_eq_ok_iff]
  constructor
  · rintro ⟨ms, rfl, h⟩
    obtain ⟨w, hw, hread⟩ := Members.required_eq_ok_iff.mp h
    obtain ⟨es, rfl, hes⟩ :=
      (Reader.list_eq_ok_iff fun _ _ => Condition.read_eq_ok_iff).mp hread
    rw [Members.lookup_nameIn] at hw
    exact ⟨ms, es, rfl, hw, hes⟩
  · rintro ⟨ms, es, rfl, hentry, hes⟩
    refine ⟨ms, rfl, Members.required_eq_ok_iff.mpr ⟨.arr es, ?_, ?_⟩⟩
    · rw [Members.lookup_nameIn, hentry]
    · exact (Reader.list_eq_ok_iff fun _ _ => Condition.read_eq_ok_iff).mpr ⟨es, rfl, hes⟩

theorem statesClause_of_read {v : Json} {k : Clause} (h : read v = .ok k) :
    v.StatesClause k := by
  have hcondition : ∀ c, v.StatesCondition c ↔ Condition.read v = .ok c :=
    fun _ => Condition.read_eq_ok_iff.symm
  have hgroup : ∀ cs, v.StatesGroup cs ↔ readGroup v = .ok cs :=
    fun _ => readGroup_eq_ok_iff.symm
  rw [read] at h
  cases hc : Condition.read v with
  | ok c =>
    cases hg : readGroup v with
    | ok cs =>
      cases cs with
      | nil =>
        simp only [hc, hg, Reading.under_ok] at h
        cases h
        apply StatesClause.item ((hcondition c).mpr hc)
        intro cs hcs
        exact (Reading.ok.inj (hg.symm.trans ((hgroup cs).mp hcs))).symm
      | cons d ds =>
        simp only [hc, hg, Reading.under_ok] at h
        cases h
        exact .group ((hgroup _).mpr hg) nofun
    | failed qs =>
      simp only [hc, hg, Reading.under_ok, Reading.under_failed] at h
      cases h
      apply StatesClause.item ((hcondition c).mpr hc)
      intro cs hcs
      cases hg.symm.trans ((hgroup cs).mp hcs)
  | failed ps =>
    cases hg : readGroup v with
    | ok cs =>
      simp only [hc, hg, Reading.under_ok, Reading.under_failed] at h
      cases h
      apply StatesClause.group ((hgroup cs).mpr hg)
      intro _ c hstates
      cases hc.symm.trans ((hcondition c).mp hstates)
    | failed qs =>
      simp only [hc, hg, Reading.under_failed] at h
      cases h

theorem read_of_statesClause {v : Json} {k : Clause} (h : v.StatesClause k) :
    read v = .ok k := by
  cases h with
  | @item c hcondition hgroup =>
    have hc := Condition.read_eq_ok_iff.mpr hcondition
    cases hg : readGroup v with
    | ok cs =>
      have hnil := hgroup cs (readGroup_eq_ok_iff.mp hg)
      subst hnil
      simp only [read, hc, hg, Reading.under_ok]
    | failed qs => simp only [read, hc, hg, Reading.under_ok, Reading.under_failed]
  | @group cs hgroup hcondition =>
    have hg := readGroup_eq_ok_iff.mpr hgroup
    cases hc : Condition.read v with
    | ok c =>
      cases cs with
      | nil => exact absurd (Condition.read_eq_ok_iff.mp hc) (hcondition rfl c)
      | cons d ds => simp only [read, hc, hg, Reading.under_ok]
    | failed ps => simp only [read, hc, hg, Reading.under_ok, Reading.under_failed]

theorem read_eq_ok_iff {v : Json} {k : Clause} : read v = .ok k ↔ v.StatesClause k :=
  ⟨statesClause_of_read, read_of_statesClause⟩

/-! ## Evaluating an entry -/

theorem holds_unmatchable (answers : Answers) : unmatchable.holds answers = false := by
  change Condition.holds answers .unmatchable = false
  have hname : Operator.ofName? Condition.unmatchable.operator = none := rfl
  rw [Condition.holds, hname]
  cases answers.lookup Condition.unmatchable.field <;> rfl

theorem holds_load_iff {answers : Answers} {v : Json} :
    (load v).holds answers = true ↔ v.EntryHolds answers := by
  constructor
  · intro h
    rw [load] at h
    cases hread : read v with
    | ok k =>
      rw [hread] at h
      have hstates := read_eq_ok_iff.mp hread
      cases k with
      | item c => exact .item hstates h
      | group cs => exact .group hstates (List.all_eq_true.mp h)
    | failed ps =>
      rw [hread, Reading.getD, holds_unmatchable] at h
      cases h
  · intro h
    rw [load]
    cases h with
    | item hclause hholds =>
      rw [read_eq_ok_iff.mpr hclause]
      exact hholds
    | group hclause hholds =>
      rw [read_eq_ok_iff.mpr hclause]
      exact List.all_eq_true.mpr hholds

theorem all_loadGroup_iff {answers : Answers} {v : Json} :
    (loadGroup v).all (·.holds answers) = true ↔
      ∃ es, v = .arr es ∧ ∀ e ∈ es, e.EntryHolds answers := by
  cases v with
  | arr es =>
    rw [loadGroup, List.all_map, List.all_eq_true]
    simp only [Function.comp_apply, holds_load_iff]
    constructor
    · intro h
      exact ⟨es, rfl, h⟩
    · rintro ⟨_, ⟨⟩, h⟩
      exact h
  | _ =>
    rw [loadGroup, List.all_cons, holds_unmatchable]
    · simp
    · exact nofun

theorem any_loadGroup_iff {answers : Answers} {v : Json} :
    (loadGroup v).any (·.holds answers) = true ↔
      ∃ es, v = .arr es ∧ ∃ e ∈ es, e.EntryHolds answers := by
  cases v with
  | arr es =>
    rw [loadGroup, List.any_map, List.any_eq_true]
    simp only [Function.comp_apply, holds_load_iff]
    constructor
    · intro h
      exact ⟨es, rfl, h⟩
    · rintro ⟨_, ⟨⟩, h⟩
      exact h
  | _ =>
    rw [loadGroup, List.any_cons, holds_unmatchable]
    · simp
    · exact nofun

end Clause

namespace Rule

theorem given_eq_some_iff {ms : Members} {first second : String} {v : Json} :
    given ms first second = some v ↔ ms.Gives first second v := by
  rw [given, Members.Gives, Members.lookup_nameIn]
  cases ms.entry first second with
  | none => simp
  | some w => cases w <;> grind

theorem given_eq_none_iff {ms : Members} {first second : String} :
    given ms first second = none ↔ ∀ v, ¬ ms.Gives first second v := by
  rw [Option.eq_none_iff_forall_ne_some]
  exact forall_congr' fun v => not_congr given_eq_some_iff

theorem holds_load_obj {answers : Answers} {ms : Members} :
    (load (.obj ms)).holds answers = true ↔ ms.RuleHolds answers := by
  rw [load, Members.RuleHolds]
  cases hall : given ms "AND" "all_of" with
  | some v =>
    have hgives : ∀ w, ms.Gives "AND" "all_of" w ↔ v = w := by
      intro w
      rw [← given_eq_some_iff, hall, Option.some.injEq]
    simp only [holds, Clause.all_loadGroup_iff, hgives]
    constructor
    · rintro ⟨es, rfl, h⟩
      exact .inl ⟨es, rfl, h⟩
    · rintro (⟨es, rfl, h⟩ | ⟨hnone, -⟩)
      · exact ⟨es, rfl, h⟩
      · exact absurd rfl (hnone v)
  | none =>
    have hnone := given_eq_none_iff.mp hall
    cases hany : given ms "OR" "any_of" with
    | some v =>
      have hgives : ∀ w, ms.Gives "OR" "any_of" w ↔ v = w := by
        intro w
        rw [← given_eq_some_iff, hany, Option.some.injEq]
      simp only [holds, Clause.any_loadGroup_iff, hgives]
      constructor
      · rintro ⟨es, rfl, h⟩
        exact .inr ⟨hnone, es, rfl, h⟩
      · rintro (⟨es, hes, -⟩ | ⟨-, es, rfl, h⟩)
        · exact absurd hes (hnone _)
        · exact ⟨es, rfl, h⟩
    | none =>
      have hnothing := given_eq_none_iff.mp hany
      constructor
      · intro h
        cases h
      · rintro (⟨es, hes, -⟩ | ⟨-, es, hes, -⟩)
        · exact absurd hes (hnone _)
        · exact absurd hes (hnothing _)

end Rule

/-! ## Entries that state nothing -/

namespace Json

section Stateless

variable {e : Json} (he : ∀ k, ¬ e.StatesClause k)

include he

theorem not_entryHolds (answers : Answers) : ¬ e.EntryHolds answers := by
  intro h
  cases h with
  | item hclause hholds => exact he _ hclause
  | group hclause hholds => exact he _ hclause

theorem exists_entryHolds_iff (answers : Answers) (es fs : List Json) :
    (∃ d ∈ es ++ e :: fs, d.EntryHolds answers) ↔ ∃ d ∈ es ++ fs, d.EntryHolds answers := by
  constructor
  · rintro ⟨d, hd, hholds⟩
    refine ⟨d, ?_, hholds⟩
    rcases List.mem_append.mp hd with hd | hd
    · exact List.mem_append_left _ hd
    · rcases List.mem_cons.mp hd with rfl | hd
      · exact absurd hholds (not_entryHolds he answers)
      · exact List.mem_append_right _ hd
  · rintro ⟨d, hd, hholds⟩
    refine ⟨d, ?_, hholds⟩
    rcases List.mem_append.mp hd with hd | hd
    · exact List.mem_append_left _ hd
    · exact List.mem_append_right _ (List.mem_cons_of_mem _ hd)

end Stateless

namespace Members

theorem gives_cons_self {first second : String} {v w : Json} {ms : Members} :
    Gives ((first, v) :: ms) first second w ↔ v = w ∧ w ≠ .null := by
  rw [Gives, entry, List.lookup_cons_self, Option.some_or, Option.some.injEq]

theorem gives_cons_of_ne {key first second : String} {v w : Json} {ms : Members}
    (hfirst : first ≠ key) (hsecond : second ≠ key) :
    Gives ((key, v) :: ms) first second w ↔ ms.Gives first second w := by
  rw [Gives, Gives, entry, entry, List.lookup_cons, List.lookup_cons,
    beq_eq_false_iff_ne.mpr hfirst, beq_eq_false_iff_ne.mpr hsecond]

end Members

end Json

namespace Rule

/-- A value read as a stored rule holds exactly if it says so, for all answers. An entry that
states nothing does not hold; a rule that needs it never holds, and among alternatives it
makes no difference. -/
theorem stored_rules_fail_closed (answers : Answers) :
    (∀ raw, (load raw).holds answers = true ↔
      ∃ ms, raw = .obj ms ∧ Members.RuleHolds ms answers) ∧
    ∀ e : Json, (∀ k, ¬ e.StatesClause k) → ¬ e.EntryHolds answers ∧
      ∀ es fs ms,
        (load (.obj (("AND", .arr (es ++ e :: fs)) :: ms))).holds answers = false ∧
        (load (.obj (("OR", .arr (es ++ e :: fs)) :: ms))).holds answers =
          (load (.obj (("OR", .arr (es ++ fs)) :: ms))).holds answers := by
  constructor
  · intro raw
    constructor
    · intro h
      cases raw with
      | obj ms => exact ⟨ms, rfl, holds_load_obj.mp h⟩
      | _ => cases h
    · rintro ⟨ms, rfl, h⟩
      exact holds_load_obj.mpr h
  · intro e he
    refine ⟨not_entryHolds he answers, ?_⟩
    intro es fs ms
    constructor
    · rw [Bool.eq_false_iff, ne_eq, holds_load_obj]
      rintro (⟨ds, hgives, hall⟩ | ⟨hnone, -⟩)
      · obtain ⟨⟨⟩, -⟩ := Members.gives_cons_self.mp hgives
        exact not_entryHolds he answers (hall e (List.mem_append_right _ List.mem_cons_self))
      · exact hnone _ (Members.gives_cons_self.mpr ⟨rfl, nofun⟩)
    · rw [Bool.eq_iff_iff, holds_load_obj, holds_load_obj, Members.RuleHolds, Members.RuleHolds]
      have hand : ∀ es w, Members.Gives (("OR", .arr es) :: ms) "AND" "all_of" w ↔
          Members.Gives ms "AND" "all_of" w := by
        intro es w
        exact Members.gives_cons_of_ne (by decide) (by decide)
      simp only [hand, Members.gives_cons_self, ne_eq, reduceCtorEq, not_false_eq_true, and_true,
        Json.arr.injEq, exists_eq_left', exists_entryHolds_iff he]

/-- A number among the alternatives is left out. -/
theorem number_among_alternatives :
    (load (.obj [("OR", .arr [.int 5,
        .obj [("field", .str "plan"), ("operator", .str "="), ("value", .str "Studio")]])])).holds
      [("plan", .str "Studio")] = true := by
  have hnumber : ∀ k, ¬ (Json.int 5).StatesClause k := by
    intro k h
    cases h with
    | item hcondition =>
      obtain ⟨ms, hobj, -⟩ := hcondition
      cases hobj
    | group hgroup =>
      obtain ⟨ms, es, hobj, -⟩ := hgroup
      cases hobj
  exact (((stored_rules_fail_closed [("plan", .str "Studio")]).2 (.int 5) hnumber).2 [] _ []).2.trans
    (by decide)

end Rule

end StudioQuote
