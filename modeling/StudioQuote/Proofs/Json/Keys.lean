import StudioQuote.Proofs.Json.Sent

/-!
# Keys that are not repeated

The reader keeps the last member of each key, in every object of a text. So no object in a
value that was read repeats a key, however the text was written.
-/

namespace StudioQuote

namespace Json

def keys : Json → List String
  | .obj ms => ms.map Prod.fst
  | _ => []

/-- Whether no object in a value repeats a key. -/
def HasDistinctKeys (v : Json) : Prop :=
  ∀ w ∈ v.parts, w.keys.Nodup

instance (v : Json) : Decidable v.HasDistinctKeys :=
  inferInstanceAs (Decidable (∀ w ∈ v.parts, w.keys.Nodup))

theorem hasDistinctKeys_arr {vs : List Json} :
    (Json.arr vs).HasDistinctKeys ↔ ∀ v ∈ vs, v.HasDistinctKeys := by
  rw [HasDistinctKeys, forall_parts_arr]
  exact and_iff_right List.nodup_nil

theorem hasDistinctKeys_obj {ms : Members} :
    (Json.obj ms).HasDistinctKeys ↔
      (ms.map Prod.fst).Nodup ∧ ∀ m ∈ ms, m.2.HasDistinctKeys := by
  rw [HasDistinctKeys, forall_parts_obj]
  exact Iff.rfl

theorem hasDistinctKeys_atom {v : Json} (hparts : v.parts = [v]) (hkeys : v.keys = []) :
    v.HasDistinctKeys := by
  rw [HasDistinctKeys, hparts, List.forall_mem_singleton, hkeys]
  exact List.nodup_nil

/-! ## Reading -/

theorem eq_ok_of_bind {α β : Type} {x : Except Fault α} {f : α → Except Fault β} {b : β}
    (h : x >>= f = .ok b) : ∃ a, x = .ok a ∧ f a = .ok b := by
  cases x with
  | error fault => cases h
  | ok a => exact ⟨a, rfl, h⟩

theorem eq_ok_of_map {α β : Type} {x : Except Fault α} {f : α → β} {b : β}
    (h : x.map f = .ok b) : ∃ a, x = .ok a ∧ f a = b := by
  cases x with
  | error fault => cases h
  | ok a => exact ⟨a, rfl, Except.ok.inj h⟩

theorem hasDistinctKeys_of_readAtom {d : Dialect} {cs rest : List Char} {v : Json}
    (h : readAtom d cs = .ok (v, rest)) : v.HasDistinctKeys := by
  rw [readAtom] at h
  split at h
  · rename_i r hword
    cases h
    rw [readWord.eq_def] at hword
    split at hword <;> cases hword <;> exact hasDistinctKeys_atom rfl rfl
  · split at h
    · cases h
    · obtain ⟨w, hw, hpair⟩ := eq_ok_of_map h
      cases hpair
      rw [ofNumeral] at hw
      split at hw
      · split at hw <;> cases hw
        exact hasDistinctKeys_atom rfl rfl
      · split at hw <;> cases hw
        exact hasDistinctKeys_atom rfl rfl

/-- What is read with so many steps repeats no key. -/
structure ReadsDistinctKeys (n : Nat) : Prop where
  value : ∀ d cs v rest, readValue n d cs = .ok (v, rest) → v.HasDistinctKeys
  elements : ∀ d cs vs rest, readElements n d cs = .ok (vs, rest) → ∀ v ∈ vs, v.HasDistinctKeys
  members : ∀ d cs ms rest, readMembers n d cs = .ok (ms, rest) → ∀ m ∈ ms, m.2.HasDistinctKeys

namespace ReadsDistinctKeys

variable {n : Nat} (ih : ReadsDistinctKeys n)

include ih

theorem of_readValue {d : Dialect} {cs rest : List Char} {v : Json}
    (h : readValue (n + 1) d cs = .ok (v, rest)) : v.HasDistinctKeys := by
  rw [readValue.eq_def] at h
  split at h
  · cases h
  · obtain ⟨r, -, hr⟩ := eq_ok_of_bind h
    cases hr
    exact hasDistinctKeys_atom rfl rfl
  · rename_i hn
    cases hn
    split at h
    · obtain ⟨u, -, hr⟩ := eq_ok_of_map h
      cases hr
      exact hasDistinctKeys_arr.mpr (List.forall_mem_nil _)
    · obtain ⟨inner, -, hinner⟩ := eq_ok_of_bind h
      obtain ⟨r, hr, hpair⟩ := eq_ok_of_bind hinner
      cases hpair
      exact hasDistinctKeys_arr.mpr (ih.elements _ _ _ _ hr)
  · rename_i hn
    cases hn
    split at h
    · obtain ⟨u, -, hr⟩ := eq_ok_of_map h
      cases hr
      exact hasDistinctKeys_obj.mpr ⟨List.nodup_nil, List.forall_mem_nil _⟩
    · obtain ⟨inner, -, hinner⟩ := eq_ok_of_bind h
      obtain ⟨r, hr, hpair⟩ := eq_ok_of_bind hinner
      cases hpair
      refine hasDistinctKeys_obj.mpr ⟨nodup_lastMembers _, fun m hm => ?_⟩
      exact ih.members _ _ _ _ hr m ((lastMembers_sublist _).subset hm)
  · exact hasDistinctKeys_of_readAtom h

theorem of_readElements {d : Dialect} {cs rest : List Char} {vs : List Json}
    (h : readElements (n + 1) d cs = .ok (vs, rest)) : ∀ v ∈ vs, v.HasDistinctKeys := by
  rw [readElements] at h
  obtain ⟨⟨v, tail⟩, hr, htail⟩ := eq_ok_of_bind h
  have hv := ih.value _ _ _ _ hr
  dsimp only at htail
  split at htail
  · obtain ⟨q, hq, hpair⟩ := eq_ok_of_bind htail
    cases hpair
    exact List.forall_mem_cons.mpr ⟨hv, ih.elements _ _ _ _ hq⟩
  · cases htail
    exact List.forall_mem_singleton.mpr hv
  · cases htail

theorem of_readMembers {d : Dialect} {cs rest : List Char} {ms : Members}
    (h : readMembers (n + 1) d cs = .ok (ms, rest)) : ∀ m ∈ ms, m.2.HasDistinctKeys := by
  rw [readMembers.eq_def] at h
  split at h
  · cases h
  · rename_i hn
    cases hn
    obtain ⟨⟨key, colon⟩, -, hcolon⟩ := eq_ok_of_bind h
    dsimp only at hcolon
    split at hcolon
    · obtain ⟨⟨v, tail⟩, hr, htail⟩ := eq_ok_of_bind hcolon
      have hv := ih.value _ _ _ _ hr
      dsimp only at htail
      split at htail
      · obtain ⟨q, hq, hpair⟩ := eq_ok_of_bind htail
        cases hpair
        exact List.forall_mem_cons.mpr ⟨hv, ih.members _ _ _ _ hq⟩
      · cases htail
        exact List.forall_mem_singleton.mpr hv
      · cases htail
    · cases hcolon
  · cases h

end ReadsDistinctKeys

theorem readsDistinctKeys (n : Nat) : ReadsDistinctKeys n := by
  induction n with
  | zero =>
    constructor
    · intro d cs v rest h
      cases h
    · intro d cs vs rest h
      cases h
    · intro d cs ms rest h
      cases h
  | succ n ih =>
    exact ⟨fun _ _ _ _ => ih.of_readValue, fun _ _ _ _ => ih.of_readElements,
      fun _ _ _ _ => ih.of_readMembers⟩

theorem hasDistinctKeys_of_read {d : Dialect} {text : String} {v : Json}
    (h : read d text = .ok v) : v.HasDistinctKeys := by
  rw [read, readChars] at h
  obtain ⟨⟨w, rest⟩, hw, hrest⟩ := eq_ok_of_bind h
  dsimp only at hrest
  split at hrest
  · cases hrest
    exact (readsDistinctKeys _).value _ _ _ _ hw
  · cases hrest

end Json

end StudioQuote
