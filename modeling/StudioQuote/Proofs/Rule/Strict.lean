import StudioQuote.Proofs.Rule.Stored

/-!
# Rules that are read strictly

The strict reader takes a rule as a whole or not at all: each group that is given has to be
a list, and each of its entries has to state a clause. Such entries are the same clauses to
the lenient reader. So where the strict reader accepts a rule, both agree on it, but for a
second group that the first one overrules, and they agree on its verdict for all answers.
-/

namespace StudioQuote

open Json

/-- Whether an object gives a group under one of two names, entry by entry, or does not give it. -/
def Json.Members.StatesClauses (ms : Members) (first second : String) :
    Option (List Clause) → Prop
  | none => ∀ v, ¬ ms.Gives first second v
  | some clauses => ∃ es, ms.Gives first second (.arr es) ∧ List.Forall₂ StatesClause es clauses

theorem Clause.loadGroup_of_states {es : List Json} {clauses : List Clause}
    (h : List.Forall₂ StatesClause es clauses) : loadGroup (.arr es) = clauses := by
  rw [loadGroup]
  induction h with
  | nil => rfl
  | cons hclause _ ih => rw [List.map_cons, ih, load, read_of_statesClause hclause, Reading.getD]

namespace Rule

theorem optional_eq_ok_iff {ms : Members} {first second : String}
    {group : Option (List Clause)} :
    ms.optional (ms.nameIn first second) (Reader.list Clause.read) = .ok group ↔
      ms.StatesClauses first second group := by
  cases group with
  | none =>
    rw [Members.optional_eq_ok_none_iff, Members.lookup_nameIn, Members.StatesClauses]
    simp only [Members.Gives, not_and, not_not]
  | some clauses =>
    rw [Members.optional_eq_ok_some_iff, Members.lookup_nameIn, Members.StatesClauses]
    simp only [Reader.list_eq_ok_iff fun _ _ => Clause.read_eq_ok_iff, Members.Gives]
    constructor
    · rintro ⟨_, hentry, hnull, es, rfl, hes⟩
      exact ⟨es, ⟨hentry, hnull⟩, hes⟩
    · rintro ⟨es, ⟨hentry, hnull⟩, hes⟩
      exact ⟨.arr es, hentry, hnull, es, rfl, hes⟩

/-- What the strict reader accepts, and as which rule. -/
theorem read_eq_ok_iff {v : Json} {r : Rule} :
    read v = .ok r ↔ ∃ ms : Members, v = .obj ms ∧
      ms.StatesClauses "AND" "all_of" r.allOf ∧ ms.StatesClauses "OR" "any_of" r.anyOf := by
  rw [read, Reader.record_eq_ok_iff]
  refine exists_congr fun ms => and_congr_right fun _ => ?_
  rw [← optional_eq_ok_iff, ← optional_eq_ok_iff, ofMembers, Reading.seq_eq_ok_iff]
  constructor
  · rintro ⟨_, anyOf, hfirst, hany, rfl⟩
    obtain ⟨allOf, hall, rfl⟩ := Reading.map_eq_ok_iff.mp hfirst
    exact ⟨hall, hany⟩
  · rintro ⟨hall, hany⟩
    exact ⟨_, r.anyOf, Reading.map_eq_ok_iff.mpr ⟨r.allOf, hall, rfl⟩, hany, rfl⟩

theorem load_of_states {ms : Members} {r : Rule}
    (hall : ms.StatesClauses "AND" "all_of" r.allOf)
    (hany : ms.StatesClauses "OR" "any_of" r.anyOf) : load (.obj ms) = r.deciding := by
  obtain ⟨_ | clauses, anyOf⟩ := r
  · rw [load, given_eq_none_iff.mpr hall]
    cases anyOf with
    | none =>
      rw [given_eq_none_iff.mpr hany]
      rfl
    | some alternatives =>
      obtain ⟨es, hgives, hes⟩ := hany
      rw [given_eq_some_iff.mpr hgives]
      exact congrArg (fun ks => Rule.mk none (some ks)) (Clause.loadGroup_of_states hes)
  · obtain ⟨es, hgives, hes⟩ := hall
    rw [load, given_eq_some_iff.mpr hgives]
    exact congrArg (fun ks => Rule.mk (some ks) none) (Clause.loadGroup_of_states hes)

/-- A rule that the strict reader accepts is the same to the lenient one, but for a second
group beside a first one, and both come to the same verdict on all answers. -/
theorem strict_and_lenient_agree {v : Json} {r : Rule} (h : read v = .ok r) :
    load v = r.deciding ∧ ∀ answers, (load v).holds answers = r.holds answers := by
  obtain ⟨ms, rfl, hall, hany⟩ := read_eq_ok_iff.mp h
  have hload := load_of_states hall hany
  refine ⟨hload, fun answers => ?_⟩
  rw [hload, holds_deciding]

/-- Both groups are given, the second one under both of its names. The first entry can be read
as a condition and as a group, and so can the second one, whose group is empty. -/
def ambiguousRule : Json :=
  .obj [
    ("all_of", .arr [
      .obj [("field", .str "plan"), ("operator", .str "="), ("value", .str "Studio"),
        ("AND", .arr [
          .obj [("field", .str "date"), ("operator", .str "IN"), ("value", .arr [.int 1])]])],
      .obj [("field", .str "plan"), ("operator", .str "!="), ("value", .bool true),
        ("all_of", .arr [])]]),
    ("any_of", .str "Outdoor"),
    ("OR", .arr [.obj [("AND", .arr [])]])]

theorem overruled_group_is_dropped :
    read ambiguousRule = .ok
        { allOf := some [
            .group [⟨"date", "IN", .list [.int 1]⟩],
            .item ⟨"plan", "!=", .scalar (.bool true)⟩]
          anyOf := some [.group []] } ∧
      load ambiguousRule =
        { allOf := some [
            .group [⟨"date", "IN", .list [.int 1]⟩],
            .item ⟨"plan", "!=", .scalar (.bool true)⟩] } := by
  have hread : read ambiguousRule = .ok
      { allOf := some [
          .group [⟨"date", "IN", .list [.int 1]⟩],
          .item ⟨"plan", "!=", .scalar (.bool true)⟩]
        anyOf := some [.group []] } := rfl
  exact ⟨hread, (strict_and_lenient_agree hread).1⟩

end Rule

end StudioQuote
