import StudioQuote.Proofs.Json.Faithful

/-!
# Values that are sent and read back

A value of finite numbers and of texts without halves is sent as it is. An object that was
written is read back as it is if it repeats no key, no pair of halves is split in its keys,
and each of its members is read back with one level of depth less.
-/

namespace StudioQuote

namespace Json

open Number

@[elab_as_elim]
theorem inductionOn {p : Json → Prop} (null : p .null) (bool : ∀ b, p (.bool b))
    (int : ∀ n, p (.int n)) (float : ∀ x, p (.float x)) (str : ∀ s, p (.str s))
    (arr : ∀ vs : List Json, (∀ v ∈ vs, p v) → p (.arr vs))
    (obj : ∀ ms : Members, (∀ m ∈ ms, p m.2) → p (.obj ms)) : ∀ v, p v
  | .null => null
  | .bool b => bool b
  | .int n => int n
  | .float x => float x
  | .str s => str s
  | .arr vs => arr vs fun v _ => inductionOn null bool int float str arr obj v
  | .obj ms => obj ms fun m _ => inductionOn null bool int float str arr obj m.2
termination_by v => sizeOf v
decreasing_by
  · rename_i hv
    have hlt := List.sizeOf_lt_of_mem hv
    rw [Json.arr.sizeOf_spec]
    omega
  · rename_i hm
    obtain ⟨key, v⟩ := m
    have hlt := List.sizeOf_lt_of_mem hm
    rw [Prod.mk.sizeOf_spec] at hlt
    rw [Json.obj.sizeOf_spec]
    change sizeOf v < _
    omega

/-! ## Integers -/

theorem hasShortIntegers_iff {v : Json} :
    v.HasShortIntegers ↔ ∀ w ∈ v.parts, ∀ n, w = .int n → IsShort n := by
  simp only [HasShortIntegers, mem_integers]
  exact ⟨fun h w hw n hn => h n (hn ▸ hw), fun h n hn => h _ hn n rfl⟩

@[simp] theorem hasShortIntegers_null : Json.null.HasShortIntegers :=
  List.forall_mem_nil _

@[simp] theorem hasShortIntegers_bool (b : Bool) : (Json.bool b).HasShortIntegers :=
  List.forall_mem_nil _

@[simp] theorem hasShortIntegers_str (s : String) : (Json.str s).HasShortIntegers :=
  List.forall_mem_nil _

@[simp] theorem hasShortIntegers_int {n : Int} : (Json.int n).HasShortIntegers ↔ IsShort n := by
  simp [hasShortIntegers_iff, parts]

theorem hasShortIntegers_arr {vs : List Json} :
    (Json.arr vs).HasShortIntegers ↔ ∀ v ∈ vs, v.HasShortIntegers := by
  simp only [hasShortIntegers_iff, forall_parts_arr, reduceCtorEq, false_implies, implies_true,
    true_and]

@[simp] theorem hasShortIntegers_ofList {α : Type} {encode : α → Json} {as : List α} :
    (Json.ofList encode as).HasShortIntegers ↔ ∀ a ∈ as, (encode a).HasShortIntegers := by
  rw [Json.ofList, hasShortIntegers_arr, List.forall_mem_map]

@[simp] theorem hasShortIntegers_ofOption {α : Type} {encode : α → Json} {a : Option α} :
    (Json.ofOption encode a).HasShortIntegers ↔ ∀ b, a = some b → (encode b).HasShortIntegers := by
  cases a with
  | none => simp [Json.ofOption]
  | some b => simp [Json.ofOption]

/-- Reading a value back makes no integer longer. -/
theorem HasShortIntegers.reread {v : Json} (h : v.HasShortIntegers) :
    v.reread.HasShortIntegers := by
  induction v using inductionOn with
  | null => exact h
  | bool b => exact h
  | int n => exact h
  | float x => exact h
  | str s => exact hasShortIntegers_str _
  | arr vs ih =>
    rw [hasShortIntegers_arr] at h
    rw [Json.reread, rereadElements_eq_map, hasShortIntegers_arr, List.forall_mem_map]
    exact fun v hv => ih v hv (h v hv)
  | obj ms ih =>
    rw [hasShortIntegers_obj] at h
    rw [Json.reread, rereadMembers_eq_map, hasShortIntegers_obj]
    intro read hread
    obtain ⟨m, hm, rfl⟩ := List.mem_map.mp ((lastMembers_sublist _).subset hread)
    exact ih m hm (h m hm)

/-! ## What is sent -/

def float? : Json → Option Binary64
  | .float x => some x
  | _ => none

def floats (v : Json) : List Binary64 :=
  v.parts.filterMap float?

def HasFiniteFloats (v : Json) : Prop :=
  ∀ x ∈ v.floats, x.isFinite = true

instance (v : Json) : Decidable v.HasFiniteFloats :=
  inferInstanceAs (Decidable (∀ x ∈ v.floats, x.isFinite = true))

theorem hasFiniteFloats_iff {v : Json} :
    v.HasFiniteFloats ↔ ∀ w ∈ v.parts, ∀ x, w = .float x → x.isFinite = true := by
  simp only [HasFiniteFloats, floats, List.mem_filterMap]
  constructor
  · rintro h w hw x rfl
    exact h x ⟨_, hw, rfl⟩
  · rintro h x ⟨w, hw, hx⟩
    cases w <;> simp only [float?, Option.some.injEq, reduceCtorEq] at hx
    exact h _ hw x (by rw [hx])

/-- Whether a value is sent as it is: its texts consist of characters, its numbers are finite. -/
structure IsSendable (v : Json) : Prop where
  texts : v.HasPlainTexts
  floats : v.HasFiniteFloats

theorem isSendable_of_forall {v : Json} (htexts : v.texts.all Text.isUnmarked = true)
    (hfloats : v.HasFiniteFloats) : v.IsSendable :=
  ⟨hasPlainTexts_of_isUnmarked htexts, hfloats⟩

@[simp] theorem isSendable_null : Json.null.IsSendable :=
  ⟨hasPlainTexts_null, by decide⟩

@[simp] theorem isSendable_bool (b : Bool) : (Json.bool b).IsSendable :=
  ⟨List.forall_mem_nil _, List.forall_mem_nil _⟩

@[simp] theorem isSendable_int (n : Int) : (Json.int n).IsSendable :=
  ⟨hasPlainTexts_int n, List.forall_mem_nil _⟩

@[simp] theorem isSendable_str {s : String} : (Json.str s).IsSendable ↔ Text.IsPlain s :=
  ⟨fun h => hasPlainTexts_str.mp h.texts,
    fun h => ⟨hasPlainTexts_str.mpr h, List.forall_mem_nil _⟩⟩

@[simp] theorem isSendable_ofOption {α : Type} {encode : α → Json} {a : Option α} :
    (Json.ofOption encode a).IsSendable ↔ ∀ b, a = some b → (encode b).IsSendable := by
  cases a with
  | none => simp [Json.ofOption]
  | some b => simp [Json.ofOption]

theorem hasFiniteFloats_arr {vs : List Json} :
    (Json.arr vs).HasFiniteFloats ↔ ∀ v ∈ vs, v.HasFiniteFloats := by
  simp only [hasFiniteFloats_iff, forall_parts_arr, reduceCtorEq, false_implies, implies_true,
    true_and]

theorem hasFiniteFloats_obj {ms : Members} :
    (Json.obj ms).HasFiniteFloats ↔ ∀ m ∈ ms, m.2.HasFiniteFloats := by
  simp only [hasFiniteFloats_iff, forall_parts_obj, reduceCtorEq, false_implies, implies_true,
    true_and]

theorem isSendable_arr {vs : List Json} : (Json.arr vs).IsSendable ↔ ∀ v ∈ vs, v.IsSendable := by
  have htexts : (Json.arr vs).HasPlainTexts ↔ ∀ v ∈ vs, v.HasPlainTexts := by
    have h : (Json.ofList id vs).HasPlainTexts ↔ ∀ v ∈ vs, v.HasPlainTexts := hasPlainTexts_ofList
    rw [Json.ofList, List.map_id] at h
    exact h
  constructor
  · rintro ⟨h, hfloats⟩ v hv
    exact ⟨htexts.mp h v hv, hasFiniteFloats_arr.mp hfloats v hv⟩
  · intro h
    exact ⟨htexts.mpr fun v hv => (h v hv).texts,
      hasFiniteFloats_arr.mpr fun v hv => (h v hv).floats⟩

@[simp] theorem isSendable_ofList {α : Type} {encode : α → Json} {as : List α} :
    (Json.ofList encode as).IsSendable ↔ ∀ a ∈ as, (encode a).IsSendable := by
  rw [Json.ofList, isSendable_arr, List.forall_mem_map]

theorem isSendable_obj {ms : Members} :
    (Json.obj ms).IsSendable ↔ ∀ m ∈ ms, Text.IsPlain m.1 ∧ m.2.IsSendable := by
  have htexts : (Json.obj ms).HasPlainTexts ↔ ∀ m ∈ ms, Text.IsPlain m.1 ∧ m.2.HasPlainTexts := by
    simp only [HasPlainTexts, forall_mem_texts, forall_parts_obj, ownTexts, List.forall_mem_map,
      forall_and]
  constructor
  · rintro ⟨h, hfloats⟩ m hm
    exact ⟨(htexts.mp h m hm).1, (htexts.mp h m hm).2, hasFiniteFloats_obj.mp hfloats m hm⟩
  · intro h
    exact ⟨htexts.mpr fun m hm => ⟨(h m hm).1, (h m hm).2.texts⟩,
      hasFiniteFloats_obj.mpr fun m hm => (h m hm).2.floats⟩

theorem isSendable_record {ms : Members} (keys : List String) (hkeys : ms.map Prod.fst = keys)
    (hplain : keys.all Text.isUnmarked = true) :
    (Json.obj ms).IsSendable ↔ ∀ m ∈ ms, m.2.IsSendable := by
  rw [isSendable_obj]
  refine forall₂_congr fun m hm => and_iff_right ?_
  have hkey : m.1 ∈ keys := hkeys ▸ List.mem_map_of_mem hm
  exact Text.isPlain_of_isUnmarked (List.all_eq_true.mp hplain m.1 hkey)

theorem finiteElements_eq_map (vs : List Json) : finiteElements vs = vs.map finitePart := by
  induction vs with
  | nil => rfl
  | cons v vs ih => rw [finiteElements, ih, List.map_cons]

theorem finiteMembers_eq_map (ms : Members) :
    finiteMembers ms = ms.map fun m => (m.1, m.2.finitePart) := by
  induction ms with
  | nil => rfl
  | cons m ms ih => rw [finiteMembers, ih, List.map_cons]

theorem areShowable_of_forall {vs : List Json} (h : ∀ v ∈ vs, v.isShowable = true) :
    areShowable vs = true := by
  induction vs with
  | nil => rfl
  | cons v vs ih =>
    rw [List.forall_mem_cons] at h
    rw [areShowable, h.1, ih h.2, Bool.and_self]

theorem membersAreShowable_of_forall {ms : Members}
    (h : ∀ m ∈ ms, Text.hasLoneHalf m.1 = false ∧ m.2.isShowable = true) :
    membersAreShowable ms = true := by
  induction ms with
  | nil => rfl
  | cons m ms ih =>
    rw [List.forall_mem_cons] at h
    rw [membersAreShowable, h.1.1, h.1.2, ih h.2]
    simp

namespace IsSendable

theorem isShowable {v : Json} (h : v.IsSendable) : v.isShowable = true := by
  induction v using inductionOn with
  | null => rfl
  | bool b => rfl
  | int n => rfl
  | float x => exact h.floats x List.mem_cons_self
  | str s =>
    rw [Json.isShowable, Text.hasLoneHalf_of_isPlain (isSendable_str.mp h)]
    rfl
  | arr vs ih =>
    rw [isSendable_arr] at h
    exact areShowable_of_forall fun v hv => ih v hv (h v hv)
  | obj ms ih =>
    rw [isSendable_obj] at h
    exact membersAreShowable_of_forall fun m hm =>
      ⟨Text.hasLoneHalf_of_isPlain (h m hm).1, ih m hm (h m hm).2⟩

theorem finitePart {v : Json} (h : v.IsSendable) : v.finitePart = v := by
  induction v using inductionOn with
  | null => rfl
  | bool b => rfl
  | int n => rfl
  | float x => exact if_pos (h.floats x List.mem_cons_self)
  | str s => rfl
  | arr vs ih =>
    rw [isSendable_arr] at h
    rw [Json.finitePart, finiteElements_eq_map]
    exact congrArg Json.arr (map_eq_self_iff.mpr fun v hv => ih v hv (h v hv))
  | obj ms ih =>
    rw [isSendable_obj] at h
    rw [Json.finitePart, finiteMembers_eq_map]
    exact congrArg Json.obj (map_eq_self_iff.mpr fun m hm =>
      Prod.ext rfl (ih m hm (h m hm).2))

end IsSendable

/-! ## What is read back -/

/-- Whether a value is read from its text as it is, however it is laid out. -/
def IsReadBack (d : Dialect) (v : Json) : Prop :=
  ∀ l : Layout, l.Readable → read d (v.write l) = .ok v

theorem isReadBack_iff {d : Dialect} {v : Json} :
    v.IsReadBack d ↔ check d v = .ok () ∧ v.reread = v := by
  constructor
  · intro h
    have hread := h .compact readable_compact
    rw [read_write readable_compact] at hread
    cases hcheck : check d v with
    | error fault =>
      rw [hcheck] at hread
      cases hread
    | ok u =>
      rw [hcheck] at hread
      exact ⟨rfl, Except.ok.inj hread⟩
  · rintro ⟨hcheck, hreread⟩ l hl
    rw [read_write hl, hcheck, hreread]
    rfl

theorem nodup_lastMembers (ms : Members) : ((lastMembers ms).map Prod.fst).Nodup := by
  induction ms with
  | nil => exact List.nodup_nil
  | cons m ms ih =>
    rw [lastMembers]
    split
    · exact ih
    · rename_i hany
      rw [List.map_cons, List.nodup_cons]
      refine ⟨fun hmem => hany ?_, ih⟩
      obtain ⟨other, hother, hkey⟩ := List.mem_map.mp hmem
      exact List.any_eq_true.mpr
        ⟨other, (lastMembers_sublist ms).subset hother, beq_iff_eq.mpr hkey⟩

/-- In the loose dialect an empty object takes a level too. -/
theorem isReadBack_obj_iff {k : Nat} {ms : Members} :
    (Json.obj ms).IsReadBack ⟨false, k + 1⟩ ↔
      (ms.map Prod.fst).Nodup ∧ ∀ m ∈ ms, Text.IsWhole m.1 ∧ m.2.IsReadBack ⟨false, k⟩ := by
  have hcheck : check ⟨false, k + 1⟩ (.obj ms) = .ok () ↔
      ∀ m ∈ ms, check ⟨false, k⟩ m.2 = .ok () := by
    have hmembers : checkMembers ⟨false, k⟩ ms = .ok () ↔
        ∀ m ∈ ms, check ⟨false, k⟩ m.2 = .ok () := by
      rw [checkMembers_eq_ok_iff]
      simp [checkText]
    rw [← hmembers, check]
    cases ms with
    | nil => exact ⟨fun _ => rfl, fun _ => rfl⟩
    | cons m ms => exact Iff.rfl
  have hkeys (h : reread (.obj ms) = .obj ms) : (ms.map Prod.fst).Nodup := by
    rw [← Json.obj.inj h]
    exact nodup_lastMembers _
  simp only [isReadBack_iff, hcheck, ← Text.reread_eq_self_iff]
  constructor
  · rintro ⟨hall, hreread⟩
    obtain ⟨htexts, hvalues⟩ := (reread_obj_eq_self_iff (hkeys hreread)).mp hreread
    exact ⟨hkeys hreread, fun m hm => ⟨htexts m hm, hall m hm, hvalues m hm⟩⟩
  · rintro ⟨hnodup, hall⟩
    exact ⟨fun m hm => (hall m hm).2.1, (reread_obj_eq_self_iff hnodup).mpr
      ⟨fun m hm => (hall m hm).1, fun m hm => (hall m hm).2.2⟩⟩

/-- In the loose dialect only integers and split pairs are in the way. -/
theorem Regular.isReadBack_iff {floats : Prop} {n k : Nat} {v : Json} (h : Regular floats n v)
    (hn : n ≤ k) : v.IsReadBack ⟨false, k⟩ ↔ v.HasShortIntegers ∧ v.HasWholeTexts := by
  rw [Json.isReadBack_iff, reread_eq_self_iff h, check_eq_ok_iff_of_not_isStrict h rfl hn]

theorem Regular.isReadBack_loose_iff {floats : Prop} {k : Nat} {v : Json} (h : Regular floats k v)
    (hk : k ≤ 16) (n : Nesting) :
    v.IsReadBack (.loose n) ↔ v.HasShortIntegers ∧ v.HasWholeTexts :=
  h.isReadBack_iff (Nat.le_trans hk n.enough)

theorem Nesting.exists_depth_eq (n : Nesting) : ∃ k, 14 ≤ k ∧ n.depth = k + 2 := by
  have henough := n.enough
  exact ⟨n.depth - 2, by omega, by omega⟩

end Json

end StudioQuote
