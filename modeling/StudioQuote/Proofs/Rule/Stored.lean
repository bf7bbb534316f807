import Mathlib.Algebra.Group.Int.Defs
import StudioQuote.Proofs.Json.Faithful
import StudioQuote.Proofs.Rule.Meaning
import StudioQuote.Store.Row

/-!
# Stored rules read back

A rule is written with the groups it has, or with null for one it has not, and is read
back leniently, with the one group that decides. A rule that was read leniently has no
other group, so it comes back as it was, value by value, if its integers are short and no
pair of halves is split in its texts. Any other rule comes back with the same meaning.
-/

namespace StudioQuote

open Json

/-! ## Values and clauses -/

namespace Scalar

def reread : Scalar → Scalar
  | .text s => .text (Text.reread s)
  | s => s

theorem reread_toJson (s : Scalar) : s.toJson.reread = s.reread.toJson := by
  cases s <;> rfl

theorem regular_toJson (k : Nat) (s : Scalar) : Regular True k s.toJson := by
  cases s with
  | bool b => exact .bool b
  | int n => exact .int n
  | float x => exact .float trivial x
  | text s => exact .str s

end Scalar

namespace Operand

def reread : Operand → Operand
  | .scalar s => .scalar s.reread
  | .list elements => .list (elements.map Scalar.reread)

theorem reread_toJson (o : Operand) : o.toJson.reread = o.reread.toJson := by
  cases o with
  | scalar s => exact s.reread_toJson
  | list elements => exact reread_ofList Scalar.reread_toJson elements

theorem regular_toJson (k : Nat) (o : Operand) : Regular True (k + 1) o.toJson := by
  cases o with
  | scalar s => exact s.regular_toJson (k + 1)
  | list elements => exact .ofList (Scalar.regular_toJson k) elements

end Operand

namespace Condition

def reread (c : Condition) : Condition where
  field := Text.reread c.field
  operator := Text.reread c.operator
  value := c.value.reread

theorem reread_toJson (c : Condition) : c.toJson.reread = c.reread.toJson := by
  rw [toJson, reread_obj ["field", "operator", "value"] rfl (by decide) (by decide)]
  simp only [List.map_cons, List.map_nil, Operand.reread_toJson]
  rfl

theorem regular_toJson (k : Nat) (c : Condition) : Regular True (k + 2) c.toJson := by
  refine .obj (by simp) ?_
  simp [Regular.str, c.value.regular_toJson k]

theorem statesCondition_toJson (c : Condition) : c.toJson.StatesCondition c :=
  ⟨_, rfl, rfl, rfl, rfl⟩

end Condition

namespace Clause

def reread : Clause → Clause
  | .item condition => .item condition.reread
  | .group conditions => .group (conditions.map Condition.reread)

theorem reread_toJson (c : Clause) : c.toJson.reread = c.reread.toJson := by
  cases c with
  | item condition => exact condition.reread_toJson
  | group conditions =>
    have hconditions := reread_ofList Condition.reread_toJson conditions
    rw [toJson, reread_obj ["AND"] rfl (by decide) (by decide)]
    simp only [List.map_cons, List.map_nil, hconditions]
    rfl

theorem regular_toJson (k : Nat) (c : Clause) : Regular True (k + 4) c.toJson := by
  cases c with
  | item condition => exact condition.regular_toJson (k + 2)
  | group conditions =>
    have hconditions := Regular.ofList (Condition.regular_toJson k) conditions
    refine .obj (by simp) ?_
    simp [hconditions]

theorem statesGroup_toJson (cs : List Condition) : (group cs).toJson.StatesGroup cs := by
  refine ⟨_, cs.map Condition.toJson, rfl, rfl, ?_⟩
  rw [List.forall₂_map_left_iff, List.forall₂_same]
  exact fun c _ => c.statesCondition_toJson

/-- No key of a written condition is one of a group, nor the other way round. -/
theorem statesClause_toJson (c : Clause) : c.toJson.StatesClause c := by
  cases c with
  | item condition =>
    refine .item condition.statesCondition_toJson ?_
    rintro cs ⟨ms, es, hms, hentry, -⟩
    cases hms
    cases hentry
  | group conditions =>
    refine .group (statesGroup_toJson conditions) ?_
    rintro - condition ⟨ms, hms, hfield, -⟩
    cases hms
    cases hfield

theorem read_toJson (c : Clause) : read c.toJson = .ok c :=
  read_of_statesClause c.statesClause_toJson

theorem load_toJson (c : Clause) : load c.toJson = c := by
  rw [load, read_toJson]
  rfl

theorem loadGroup_ofList (clauses : List Clause) :
    loadGroup (Json.ofList toJson clauses) = clauses := by
  have hload : load ∘ toJson = id := funext load_toJson
  rw [Json.ofList, loadGroup, List.map_map, hload, List.map_id]

end Clause

/-! ## Rules -/

namespace Rule

/-- The rule with only the group that decides. -/
def deciding (r : Rule) : Rule :=
  match r.allOf with
  | some clauses => { allOf := some clauses }
  | none => r

theorem holds_deciding (answers : Answers) (r : Rule) :
    r.deciding.holds answers = r.holds answers := by
  obtain ⟨_ | clauses, anyOf⟩ := r
  · rfl
  · rfl

theorem deciding_load (raw : Json) : (load raw).deciding = load raw := by
  cases raw with
  | obj ms =>
    rw [load]
    split
    · rfl
    · split
      · rfl
      · rfl
  | _ => rfl

def reread (r : Rule) : Rule where
  allOf := r.allOf.map (List.map Clause.reread)
  anyOf := r.anyOf.map (List.map Clause.reread)

theorem deciding_reread (r : Rule) : r.reread.deciding = r.deciding.reread := by
  obtain ⟨_ | clauses, anyOf⟩ := r
  · rfl
  · rfl

theorem load_of_given {ms : Members} {r : Rule}
    (hall : given ms "AND" "all_of" = r.allOf.map (Json.ofList Clause.toJson))
    (hany : given ms "OR" "any_of" = r.anyOf.map (Json.ofList Clause.toJson)) :
    load (.obj ms) = r.deciding := by
  obtain ⟨_ | clauses, _ | alternatives⟩ := r
  · simp only [load, hall, hany, Option.map_none, deciding]
  · simp only [load, hall, hany, Option.map_none, Option.map_some, Clause.loadGroup_ofList,
      deciding]
  · simp only [load, hall, Option.map_some, Clause.loadGroup_ofList, deciding]
  · simp only [load, hall, Option.map_some, Clause.loadGroup_ofList, deciding]

theorem load_toJson (r : Rule) : load r.toJson = r.deciding := by
  apply load_of_given
  · obtain ⟨_ | clauses, anyOf⟩ := r <;> rfl
  · obtain ⟨allOf, _ | alternatives⟩ := r <;> rfl

theorem load_toStoredJson (r : Rule) : load r.toStoredJson = r.deciding := by
  apply load_of_given
  · obtain ⟨_ | clauses, _ | alternatives⟩ := r <;> rfl
  · obtain ⟨_ | clauses, _ | alternatives⟩ := r <;> rfl

/-! ## The JSON of a rule -/

theorem reread_clauses (clauses : List Clause) :
    (Json.ofList Clause.toJson clauses).reread =
      Json.ofList Clause.toJson (clauses.map Clause.reread) :=
  reread_ofList Clause.reread_toJson clauses

theorem reread_toJson (r : Rule) : r.toJson.reread = r.reread.toJson := by
  have hgroup := reread_ofOption (Json.ofList Clause.toJson) _ reread_clauses
  rw [toJson, reread_obj ["AND", "OR"] rfl (by decide) (by decide)]
  simp only [List.map_cons, List.map_nil, hgroup]
  rfl

theorem groupKeys_sublist (r : Rule) :
    ((groupMember "AND" r.allOf ++ groupMember "OR" r.anyOf).map Prod.fst).Sublist
      ["AND", "OR"] := by
  obtain ⟨_ | clauses, _ | alternatives⟩ := r <;> simp [groupMember]

theorem reread_groupMember (key : String) (clauses : Option (List Clause)) :
    (groupMember key clauses).map (fun m => (m.1, m.2.reread)) =
      groupMember key (clauses.map (List.map Clause.reread)) := by
  cases clauses with
  | none => rfl
  | some clauses =>
    simp only [groupMember, List.map_cons, List.map_nil, reread_clauses, Option.map_some]

theorem reread_toStoredJson (r : Rule) : r.toStoredJson.reread = r.reread.toStoredJson := by
  have hkeys := r.groupKeys_sublist
  have hplain : ["AND", "OR"].all Text.isUnmarked = true := by decide
  rw [toStoredJson, reread_obj _ rfl
    (List.all_eq_true.mpr fun key hkey => List.all_eq_true.mp hplain key (hkeys.subset hkey))
    (hkeys.nodup (by decide)), List.map_append, reread_groupMember, reread_groupMember]
  rfl

theorem regular_toJson (r : Rule) : Regular True 6 r.toJson := by
  have hgroup := Regular.ofOption (Regular.ofList (Clause.regular_toJson 0))
  refine .obj (by simp) ?_
  simp [hgroup]

theorem regular_toStoredJson (r : Rule) : Regular True 6 r.toStoredJson := by
  have hgroup := Regular.ofList (Clause.regular_toJson 0)
  refine .obj (r.groupKeys_sublist.nodup (by decide)) ?_
  obtain ⟨_ | clauses, _ | alternatives⟩ := r <;> simp [groupMember, hgroup]

theorem hasShortIntegers_toJson (r : Rule) :
    r.toJson.HasShortIntegers ↔ r.toStoredJson.HasShortIntegers := by
  have hnull : Json.null.HasShortIntegers := fun n hn => nomatch hn
  rw [toJson, toStoredJson, hasShortIntegers_obj, hasShortIntegers_obj]
  obtain ⟨_ | clauses, _ | alternatives⟩ := r <;> simp [groupMember, Json.ofOption, hnull]

/-! ## Reading back -/

/-- The rule that is read leniently from the text of a JSON value. -/
def readBack (n : Nesting) (v : Json) : Except Fault Rule :=
  (Json.read (.loose n) (v.write .spaced)).map load

/-- Whether the integers of a rule are short and no pair of halves is split in its texts. -/
def IsStorable (r : Rule) : Prop :=
  r.toStoredJson.HasShortIntegers ∧ r.toStoredJson.HasWholeTexts

theorem readBack_eq (n : Nesting) (v : Json) :
    readBack n v = (check (.loose n) v).map fun _ => load v.reread := by
  rw [readBack, read_write readable_spaced]
  cases check (.loose n) v with
  | error fault => rfl
  | ok u => rfl

theorem load_reread_toStoredJson (r : Rule) : load r.toStoredJson.reread = r.deciding.reread := by
  rw [reread_toStoredJson, load_toStoredJson, deciding_reread]

theorem load_reread_toJson (r : Rule) : load r.toJson.reread = r.deciding.reread := by
  rw [reread_toJson, load_toJson, deciding_reread]

/-- A rule without a second group is determined by its JSON. -/
theorem reread_eq_self_iff {r : Rule} (h : r.deciding = r) :
    r.reread = r ↔ r.toStoredJson.HasWholeTexts := by
  rw [← Json.reread_eq_self_iff r.regular_toStoredJson]
  constructor
  · intro hreread
    rw [reread_toStoredJson, hreread]
  · intro hreread
    have hload := r.load_reread_toStoredJson
    rw [hreread, load_toStoredJson, h] at hload
    exact hload.symm

theorem deciding_reread_of_hasWholeTexts {r : Rule} (h : r.toStoredJson.HasWholeTexts) :
    r.deciding.reread = r.deciding := by
  have hload := r.load_reread_toStoredJson
  rw [(Json.reread_eq_self_iff r.regular_toStoredJson).mpr h, load_toStoredJson] at hload
  exact hload.symm

section Survival

variable {n : Nesting} {r : Rule} {v : Json}

theorem readBack_eq_ok_iff (hr : r.deciding = r) (hv : Regular True 6 v)
    (hload : load v.reread = r.deciding.reread)
    (hshort : v.HasShortIntegers ↔ r.toStoredJson.HasShortIntegers) :
    readBack n v = .ok r ↔ r.IsStorable := by
  rw [IsStorable, ← hshort, ← check_loose_eq_ok_iff hv (by decide) n, ← reread_eq_self_iff hr,
    readBack_eq, hload, hr]
  cases check (.loose n) v with
  | error fault => simp [Except.map]
  | ok u => simp [Except.map]

theorem readBack_of_isStorable (h : r.IsStorable) (hv : Regular True 6 v)
    (hload : load v.reread = r.deciding.reread)
    (hshort : v.HasShortIntegers ↔ r.toStoredJson.HasShortIntegers) :
    readBack n v = .ok r.deciding := by
  rw [readBack_eq, (check_loose_eq_ok_iff hv (by decide) n).mpr (hshort.mpr h.1), hload,
    deciding_reread_of_hasWholeTexts h.2]
  rfl

end Survival

theorem toText_ne_empty (r : Rule) : r.toText ≠ "" := by
  intro h
  have hchars := congrArg String.toList h
  rw [toText, write, String.toList_ofList] at hchars
  cases hchars

theorem ofText_toText_of_isStorable {r : Rule} (h : r.IsStorable) (n : Nesting) :
    ofText n r.toText = .ok (some r.deciding) := by
  have hcheck := (check_loose_eq_ok_iff r.regular_toStoredJson (by decide) n).mpr h.1
  have hself := (Json.reread_eq_self_iff r.regular_toStoredJson).mpr h.2
  rw [ofText, if_neg r.toText_ne_empty, toText, read_write readable_spaced, hcheck, hself]
  exact congrArg (fun r => Except.ok (some r)) r.load_toStoredJson

/-- A text that is taken for malformed stands for a rule without groups, whose own text is
not malformed. -/
theorem isStorable_of_ofText_toText {n : Nesting} {r : Rule} (hr : r.deciding = r)
    (h : ofText n r.toText = .ok (some r)) : r.IsStorable := by
  rw [ofText, if_neg r.toText_ne_empty, toText, read_write readable_spaced] at h
  cases hcheck : check (.loose n) r.toStoredJson with
  | ok u =>
    rw [hcheck, reread_toStoredJson] at h
    have hload : load r.reread.toStoredJson = r := Option.some.inj (Except.ok.inj h)
    rw [load_toStoredJson, deciding_reread, hr] at hload
    exact ⟨(check_loose_eq_ok_iff r.regular_toStoredJson (by decide) n).mp hcheck,
      (reread_eq_self_iff hr).mp hload⟩
  | error fault =>
    rw [hcheck] at h
    cases fault with
    | malformed =>
      cases h
      have hok := (check_loose_eq_ok_iff (regular_toStoredJson {}) (by decide) n).mpr (by decide)
      cases hok.symm.trans hcheck
    | integerTooLong digits => cases h
    | nestedTooDeep container => cases h

/-- Every rule that was read leniently comes back as it was, in either form and from the
table, exactly if it is storable; and however a storable rule was read, it comes back with
the same meaning. -/
theorem stored_rules_come_back (n : Nesting) (raw : Json) :
    (readBack n (load raw).toStoredJson = .ok (load raw) ↔ (load raw).IsStorable) ∧
    (readBack n (load raw).toJson = .ok (load raw) ↔ (load raw).IsStorable) ∧
    (ofText n (load raw).toText = .ok (some (load raw)) ↔ (load raw).IsStorable) ∧
    ∀ r : Rule, r.IsStorable →
      ∃ back, readBack n r.toStoredJson = .ok back ∧ readBack n r.toJson = .ok back ∧
        ofText n r.toText = .ok (some back) ∧ ∀ answers, back.holds answers = r.holds answers := by
  have hload := deciding_load raw
  refine ⟨?_, ?_, ?_, fun r h => ⟨r.deciding, ?_, ?_, ?_, fun answers => ?_⟩⟩
  · exact readBack_eq_ok_iff hload (load raw).regular_toStoredJson
      (load raw).load_reread_toStoredJson Iff.rfl
  · exact readBack_eq_ok_iff hload (load raw).regular_toJson (load raw).load_reread_toJson
      (load raw).hasShortIntegers_toJson
  · constructor
    · exact isStorable_of_ofText_toText hload
    · intro h
      have hback := ofText_toText_of_isStorable h n
      rw [hload] at hback
      exact hback
  · exact readBack_of_isStorable h r.regular_toStoredJson r.load_reread_toStoredJson Iff.rfl
  · exact readBack_of_isStorable h r.regular_toJson r.load_reread_toJson r.hasShortIntegers_toJson
  · exact ofText_toText_of_isStorable h n
  · exact holds_deciding answers r

theorem isStorable_of_all {r : Rule} (hintegers : r.toStoredJson.integers.all fitsInt64 = true)
    (htexts : r.toStoredJson.texts.all Text.isUnmarked = true) : r.IsStorable :=
  ⟨hasShortIntegers_of_fits hintegers, (hasPlainTexts_of_isUnmarked htexts).hasWholeTexts⟩

/-- A rule with one, one point zero and true side by side, an empty group, a list and a
second group. -/
def mixedRule : Rule where
  allOf := some [
    .item ⟨"plan", "=", .scalar (.int 1)⟩,
    .item ⟨"plan", "=", .scalar (.float (.finite false (2 ^ 52) 1022 (by decide)))⟩,
    .item ⟨"plan", "=", .scalar (.bool true)⟩,
    .group [],
    .item ⟨"date", "IN", .list [.text "weekday", .bool false, .int (-2)]⟩]
  anyOf := some [.group [⟨"plan", "!=", .scalar (.text "Studio")⟩]]

theorem isStorable_mixedRule : mixedRule.IsStorable :=
  isStorable_of_all (by decide) (by decide)

theorem mixed_rule_comes_back :
    readBack default (load mixedRule.toJson).toStoredJson = .ok (load mixedRule.toJson) ∧
      ∃ back, readBack default mixedRule.toStoredJson = .ok back ∧
        ∀ answers, back.holds answers = mixedRule.holds answers := by
  have hload : load mixedRule.toJson = { allOf := mixedRule.allOf } := mixedRule.load_toJson
  have hstorable : (load mixedRule.toJson).IsStorable := by
    rw [hload]
    exact isStorable_of_all (by decide) (by decide)
  obtain ⟨hback, -, -, hmeaning⟩ := stored_rules_come_back default mixedRule.toJson
  obtain ⟨back, hstored, -, -, hholds⟩ := hmeaning mixedRule isStorable_mixedRule
  exact ⟨hback.mpr hstorable, back, hstored, hholds⟩

/-- A rule that compares with an integer of five thousand digits is not read back. -/
theorem long_integer_does_not_come_back :
    let r := load (fieldEquals "plan" (.int (10 ^ 4999))).toJson
    readBack default r.toStoredJson ≠ .ok r := by
  intro r h
  have hr : r = fieldEquals "plan" (.int (10 ^ 4999)) := load_toJson _
  have hstorable := (readBack_eq_ok_iff (deciding_load _) r.regular_toStoredJson
    r.load_reread_toStoredJson Iff.rfl).mp h
  have hmem : 10 ^ 4999 ∈ r.toStoredJson.integers := by
    rw [hr]
    exact List.mem_singleton.mpr rfl
  exact not_isShort_pow (by decide) (hstorable.1 _ hmem)

end Rule

end StudioQuote
