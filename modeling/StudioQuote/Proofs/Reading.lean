import Mathlib.Data.List.Forall2
import StudioQuote.Reading.Scalar

/-!
# Successful readings

A reading of parts succeeds exactly if each part does, and so a record is read exactly if
its members are there and can be read, and a list exactly if all of its elements can. A
reader that inverts an encoding inverts it for optional values and for lists too.
-/

namespace StudioQuote

open Json

variable {α : Type}

namespace Reading

variable {β : Type}

@[simp] theorem map_failed (f : α → β) (ps : List Problem) :
    f <$> (failed ps : Reading α) = failed ps := rfl

@[simp] theorem under_failed (step : PathStep) (ps : List Problem) :
    (failed ps : Reading α).under step = failed (ps.map (·.under step)) := rfl

theorem under_eq_ok_iff {step : PathStep} {r : Reading α} {a : α} :
    r.under step = .ok a ↔ r = .ok a := by
  cases r with
  | ok b => rw [under_ok]
  | failed ps => simp

theorem map_eq_ok_iff {f : α → β} {r : Reading α} {b : β} :
    f <$> r = .ok b ↔ ∃ a, r = .ok a ∧ f a = b := by
  cases r with
  | ok a => simp
  | failed ps => simp

theorem seq_eq_ok_iff {f : Reading (α → β)} {r : Reading α} {b : β} :
    f <*> r = .ok b ↔ ∃ g a, f = .ok g ∧ r = .ok a ∧ g a = b := by
  constructor
  · intro h
    cases f with
    | ok g =>
      cases r with
      | ok a => exact ⟨g, a, rfl, rfl, ok.inj h⟩
      | failed qs => cases h
    | failed ps =>
      cases r with
      | ok a => cases h
      | failed qs => cases h
  · rintro ⟨g, a, rfl, rfl, rfl⟩
    rfl

end Reading

theorem Json.Members.required_eq_ok_iff {ms : Members} {key : String} {read : Reader α} {a : α} :
    ms.required key read = .ok a ↔ ∃ v, ms.lookup key = some v ∧ read v = .ok a := by
  rw [Members.required]
  cases ms.lookup key with
  | none => simp
  | some v => simp [Reading.under_eq_ok_iff]

namespace Json.Members

variable {ms : Members} {key : String} {read : Reader α}

theorem optional_eq_ok_none_iff :
    ms.optional key read = .ok none ↔ ∀ v, ms.lookup key = some v → v = .null := by
  rw [Members.optional, Members.defaulted]
  cases hlookup : ms.lookup key with
  | none => simp
  | some v =>
    simp only [Option.some.injEq, forall_eq', Reading.under_eq_ok_iff]
    constructor
    · intro h
      cases v with
      | null => rfl
      | _ =>
        obtain ⟨a, -, ha⟩ := Reading.map_eq_ok_iff.mp h
        cases ha
    · rintro rfl
      rfl

theorem optional_eq_ok_some_iff {a : α} :
    ms.optional key read = .ok (some a) ↔
      ∃ v, ms.lookup key = some v ∧ v ≠ .null ∧ read v = .ok a := by
  rw [Members.optional, Members.defaulted]
  cases hlookup : ms.lookup key with
  | none => simp
  | some v =>
    simp only [Option.some.injEq, exists_eq_left', Reading.under_eq_ok_iff]
    constructor
    · intro h
      cases v with
      | null => cases h
      | _ =>
        obtain ⟨b, hb, hsome⟩ := Reading.map_eq_ok_iff.mp h
        exact ⟨nofun, Option.some.inj hsome ▸ hb⟩
    · rintro ⟨hnull, h⟩
      have hsome : some <$> read v = .ok (some a) := Reading.map_eq_ok_iff.mpr ⟨a, h, rfl⟩
      cases v with
      | null => exact absurd rfl hnull
      | _ => exact hsome

end Json.Members

namespace Reader

theorem record_eq_ok_iff {fields : Members → Reading α} {v : Json} {a : α} :
    record fields v = .ok a ↔ ∃ ms, v = .obj ms ∧ fields ms = .ok a := by
  constructor
  · intro h
    cases v with
    | obj ms => exact ⟨ms, rfl, h⟩
    | _ => cases h
  · rintro ⟨ms, rfl, h⟩
    exact h

theorem text_eq_ok_iff {v : Json} {s : String} : text v = .ok s ↔ v = .str s := by
  constructor
  · intro h
    cases v with
    | str t => rw [Reading.ok.inj h]
    | _ => cases h
  · rintro rfl
    rfl

section List

variable {read : Reader α} {R : Json → α → Prop} (h : ∀ v a, read v = .ok a ↔ R v a)

include h

theorem elements_eq_ok_iff {i : Nat} {vs : List Json} {as : List α} :
    elements read i vs = .ok as ↔ List.Forall₂ R vs as := by
  induction vs generalizing i as with
  | nil =>
    rw [elements, List.forall₂_nil_left_iff, Reading.ok.injEq]
    exact eq_comm
  | cons v vs ih =>
    rw [elements, Reading.seq_eq_ok_iff, List.forall₂_cons_left_iff]
    constructor
    · rintro ⟨g, rest, hhead, htail, rfl⟩
      obtain ⟨a, ha, rfl⟩ := Reading.map_eq_ok_iff.mp hhead
      exact ⟨a, rest, (h v a).mp (Reading.under_eq_ok_iff.mp ha), ih.mp htail, rfl⟩
    · rintro ⟨a, rest, ha, hrest, rfl⟩
      refine ⟨List.cons a, rest, ?_, ih.mpr hrest, rfl⟩
      rw [(h v a).mpr ha, Reading.under_ok, Reading.map_ok]

theorem list_eq_ok_iff {v : Json} {as : List α} :
    list read v = .ok as ↔ ∃ vs, v = .arr vs ∧ List.Forall₂ R vs as := by
  constructor
  · intro hread
    cases v with
    | arr vs => exact ⟨vs, rfl, (elements_eq_ok_iff h).mp hread⟩
    | _ => cases hread
  · rintro ⟨vs, rfl, hvs⟩
    exact (elements_eq_ok_iff h).mpr hvs

end List

@[simp] theorem int_int (n : Int) : int (.int n) = .ok n := rfl

@[simp] theorem text_str (s : String) : text (.str s) = .ok s := rfl

@[simp] theorem nullable_int (n : Int) : nullable int (.int n) = .ok (some n) := rfl

theorem list_ofList {read : Reader α} {encode : α → Json} (h : ∀ a, read (encode a) = .ok a)
    (as : List α) : list read (ofList encode as) = .ok as := by
  have helements := elements_map_ok read encode id h 0 as
  rw [List.map_id] at helements
  exact helements

theorem nullable_ofOption (read : Reader α) (encode : α → Json)
    (h : ∀ a, nullable read (encode a) = .ok (some a)) (a : Option α) :
    nullable read (ofOption encode a) = .ok a := by
  cases a with
  | none => rfl
  | some a => exact h a

theorem name_of_ofName? {ofName? : String → Option α} {s : String} {a : α}
    (hhalf : Text.hasLoneHalf s = false) (h : ofName? s = some a) :
    name ofName? (.str s) = .ok a := by
  rw [name, ofText, hhalf, if_neg Bool.false_ne_true, h]

end Reader

end StudioQuote
