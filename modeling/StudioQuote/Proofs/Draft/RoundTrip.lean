import Mathlib.Algebra.Group.Int.Defs
import StudioQuote.Proofs.Service.Run

/-!
# Drafts that come back unchanged

A draft of plain texts is read back from its text as it was, if every integer in it is
short; if one is not, the text is refused as a whole. So what was saved is what is read
under its key, whatever stood there before.
-/

namespace StudioQuote

open Json

theorem Operation.runAll_saveDraft_getDraft {d : Draft} (h : d.toJson.HasPlainTexts) {shopId : Int}
    (hshop : d.shopId = some shopId) (hfits : [shopId, d.shootingCategoryId].all fitsInt64 = true)
    (s : Store) :
    (runAll [.saveDraft d, .getDraft shopId d.shootingCategoryId] (.ready s)).1 =
      [.ok (.draft d),
        if d.toJson.HasShortIntegers then .ok (.foundDraft (some d))
        else .error (.unreadable [Problem.of (.str d.toText) .invalidJson])] := by
  have hsave := run_saveDraft_ok hshop hfits h s
  have hget := Session.run_getDraft shopId d.shootingCategoryId
    (s.putDraftText shopId d.shootingCategoryId d.toText)
  rw [if_pos hfits, Store.storedDraft_putDraftText, if_pos ⟨rfl, rfl⟩,
    Draft.ofText_toText_of_hasPlainTexts h] at hget
  rw [runAll_cons, runAll_cons, hsave, run, perform, Session.run_map, hget]
  by_cases hshort : d.toJson.HasShortIntegers
  · rw [if_pos hshort, if_pos hshort]
    rfl
  · rw [if_neg hshort, if_neg hshort]
    rfl

namespace Draft

/-- A draft of plain texts is read back from its text, and is got after it was saved under
its key, whatever was stored there: as it was if its integers are short, and otherwise
not at all. -/
theorem saved_draft_is_read_back (d : Draft) (h : d.toJson.HasPlainTexts) :
    ofText d.toText =
        (if d.toJson.HasShortIntegers then .ok d else .problem (.str d.toText) .invalidJson) ∧
      ∀ shopId (s : Store), d.shopId = some shopId →
        [shopId, d.shootingCategoryId].all fitsInt64 = true →
        (Operation.runAll [.saveDraft d, .getDraft shopId d.shootingCategoryId] (.ready s)).1 =
          [.ok (.draft d),
            if d.toJson.HasShortIntegers then .ok (.foundDraft (some d))
            else .error (.unreadable [Problem.of (.str d.toText) .invalidJson])] := by
  refine ⟨ofText_toText_of_hasPlainTexts h, fun shopId s hshop hfits => ?_⟩
  exact Operation.runAll_saveDraft_getDraft h hshop hfits s

/-- A draft with a quotation mark, a backslash, a control character and a character outside
the basic plane in its name comes back unchanged. -/
theorem draft_with_escapes_is_read_back :
    let d : Draft :=
      { shopId := some 1, shootingCategoryId := 7, shootingCategoryName := "\"P\\\x01𝄞é" }
    ofText d.toText = .ok d ∧
      (Operation.runAll [.saveDraft d, .getDraft 1 7] Operation.fresh).1 =
        [.ok (.draft d), .ok (.foundDraft (some d))] := by
  intro d
  have hshort : d.toJson.HasShortIntegers := hasShortIntegers_of_fits (by decide)
  have h := saved_draft_is_read_back d (hasPlainTexts_of_isUnmarked (by decide))
  rw [if_pos hshort, if_pos hshort] at h
  exact ⟨h.1, h.2 1 .empty rfl (by decide)⟩

/-- A form with one item at the given price. -/
def pricedDraft (price : Int) : Draft where
  shopId := some 1
  shootingCategoryId := 7
  shootingCategoryName := "Portrait"
  steps := [
    { type := .trigger
      category := ⟨10, "location", "Location", none, .plan, [⟨100, "Studio", price, none⟩]⟩ }]

theorem hasPlainTexts_pricedDraft (price : Int) : (pricedDraft price).toJson.HasPlainTexts := by
  have htexts : (pricedDraft price).toJson.texts = (pricedDraft 0).toJson.texts := rfl
  refine hasPlainTexts_of_isUnmarked ?_
  rw [htexts]
  decide

theorem mem_integers_pricedDraft (price : Int) : price ∈ (pricedDraft price).toJson.integers := by
  have hintegers : (pricedDraft price).toJson.integers = [1, 7, 10, 100, price] := rfl
  rw [hintegers]
  simp

/-- A draft with a price of five thousand digits is written, but not read again. -/
theorem draft_with_long_price_is_refused :
    let d := pricedDraft (10 ^ 4999)
    ofText d.toText = .problem (.str d.toText) .invalidJson ∧
      (Operation.runAll [.saveDraft d, .getDraft 1 7] Operation.fresh).1 =
        [.ok (.draft d), .error (.unreadable [Problem.of (.str d.toText) .invalidJson])] := by
  intro d
  have hplain : d.toJson.HasPlainTexts := hasPlainTexts_pricedDraft (10 ^ 4999)
  have hlong : ¬ d.toJson.HasShortIntegers := fun hshort =>
    not_isShort_pow (by decide) (hshort _ (mem_integers_pricedDraft _))
  have hread := ofText_toText_of_hasPlainTexts hplain
  have hrun := Operation.runAll_saveDraft_getDraft hplain rfl (by decide) .empty
  rw [if_neg hlong] at hread hrun
  exact ⟨hread, hrun⟩

end Draft

end StudioQuote
