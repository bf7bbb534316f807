import StudioQuote.Number.Binary64

/-!
# JSON values

Rules, answers, stored drafts and requests are JSON. Integers and floating-point
numbers are kept apart, since a number keeps the kind it was written with. The
members of an object stand in the order of its text, and of a repeated key the
last member counts.
-/

namespace StudioQuote

open Number

inductive Json where
  | null
  | bool (b : Bool)
  | int (n : Int)
  | float (x : Binary64)
  | str (s : String)
  | arr (elements : List Json)
  | obj (members : List (String × Json))

namespace Json

abbrev Members := List (String × Json)

/-- The members that count: of a repeated key only the last one. -/
def lastMembers : Members → Members
  | [] => []
  | (key, value) :: rest =>
    if rest.any (fun m => m.1 == key) then lastMembers rest
    else (key, value) :: lastMembers rest

theorem lastMembers_of_nodup (ms : Members) (h : (ms.map Prod.fst).Nodup) :
    lastMembers ms = ms := by
  induction ms with
  | nil => rfl
  | cons m rest ih =>
    obtain ⟨key, value⟩ := m
    rw [List.map_cons, List.nodup_cons] at h
    have hnone : ¬ rest.any (fun m => m.1 == key) = true := by
      intro hany
      obtain ⟨m, hm, hk⟩ := List.any_eq_true.mp hany
      exact h.1 (List.mem_map.mpr ⟨m, hm, eq_of_beq hk⟩)
    rw [lastMembers, if_neg hnone, ih h.2]

def ofOption {α : Type} (encode : α → Json) : Option α → Json
  | none => .null
  | some a => encode a

def ofList {α : Type} (encode : α → Json) (as : List α) : Json :=
  .arr (as.map encode)

end Json

end StudioQuote
