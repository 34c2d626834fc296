import JsonBinding.Character.Compatibility
/-!
Normal forms are settled: each character in the normal form of a character is its own normal form
(`compatibilityForm_of_mem`). And `_` is no part of a longer one (`compatibilityForm_eq_of_mem`).
These are facts about the rows, which hold most of the characters of forms between them in few wide
gaps.
-/
namespace JsonBinding.Character

def unlistedOn (low high : Nat) : Bool :=
  compatibilityRows.all fun row => Nat.blt high row.first || Nat.blt row.last low

/-- The gaps between rows that have many characters of forms, those with the most first. -/
def wideGaps : List (Nat × Nat) := [
  (0x0, 0x9F), (0x588, 0x674), (0x3400, 0xA69B), (0x30A0, 0x30FE), (0x388, 0x3CF),
  (0x10FD, 0x1D2B), (0x679, 0x957), (0x1FBFA, 0x2F7FF), (0x1F4, 0x2AF), (0x3FA, 0x586),
  (0x3001, 0x3035), (0x2E5, 0x33F), (0xAB6A, 0xF8FF), (0x218A, 0x222B), (0x1D165, 0x1D1BA),
  (0x203F, 0x2046), (0xFAD, 0xFB8)]

/-- Whether a code point is its own form. The gaps save going through the rows for each of them. -/
def isSettled (n : Nat) : Bool :=
  (wideGaps.any fun gap => Nat.ble gap.1 n && Nat.ble n gap.2) || unlistedOn n n

theorem unlistedOn_wideGaps : (wideGaps.all fun gap => unlistedOn gap.1 gap.2) = true := by
  decide +kernel

theorem isSettled_forms :
    (compatibilityRows.all fun row => row.forms.all fun form => form.all isSettled) = true := by
  decide +kernel

def keepsUnderscoreAlone (form : List Nat) : Bool :=
  form.all (fun n => !Nat.beq n 0x5F) || form == [0x5F]

theorem keepsUnderscoreAlone_forms :
    (compatibilityRows.all fun row => row.forms.all keepsUnderscoreAlone) = true := by
  decide +kernel

theorem listedForm_eq_none_of_unlistedOn {low high n : Nat} (unlisted : unlistedOn low high = true)
    (lower : low ≤ n) (upper : n ≤ high) : listedForm n = none := by
  have missed : compatibilityRows.find? (fun row => row.first ≤ n && n ≤ row.last) = none := by
    rw [List.find?_eq_none]
    intro row among covers
    have apart := List.all_eq_true.mp unlisted row among
    simp only [Bool.or_eq_true, Nat.blt_eq] at apart
    simp only [Bool.and_eq_true, decide_eq_true_eq] at covers
    omega
  rw [listedForm, missed]

theorem listedForm_eq_none_of_isSettled {n : Nat} (settled : isSettled n = true) :
    listedForm n = none := by
  rcases Bool.or_eq_true_iff.mp settled with inGap | apart
  · obtain ⟨gap, listed, within⟩ := List.any_eq_true.mp inGap
    obtain ⟨lower, upper⟩ := Bool.and_eq_true_iff.mp within
    have unlisted := List.all_eq_true.mp unlistedOn_wideGaps gap listed
    exact listedForm_eq_none_of_unlistedOn unlisted (Nat.ble_eq.mp lower) (Nat.ble_eq.mp upper)
  · exact listedForm_eq_none_of_unlistedOn apart (Nat.le_refl n) (Nat.le_refl n)

theorem exists_row_of_listedForm {n : Nat} {form : List Nat} (listed : listedForm n = some form) :
    ∃ row ∈ compatibilityRows, form ∈ row.forms := by
  unfold listedForm at listed
  split at listed
  · next row found =>
    exact ⟨row, List.mem_of_find?_eq_some found, List.mem_of_getElem? listed⟩
  · cases listed

theorem toNat_ofNat_eq_or (n : Nat) : (Char.ofNat n).toNat = n ∨ (Char.ofNat n).toNat = 0 := by
  by_cases valid : n.isValidChar
  · left
    rw [Char.ofNat, dif_pos valid]
    rfl
  · right
    rw [Char.ofNat, dif_neg valid]
    rfl

/-- Each character in the normal form of a character is its own normal form. -/
theorem compatibilityForm_of_mem {c d : Char} (among : d ∈ compatibilityForm c) :
    compatibilityForm d = [d] := by
  apply compatibilityForm_of_unlisted
  unfold compatibilityForm at among
  split at among
  · next form listed =>
    obtain ⟨n, part, rfl⟩ := List.mem_map.mp among
    obtain ⟨row, inRows, inRow⟩ := exists_row_of_listedForm listed
    have forms := List.all_eq_true.mp (List.all_eq_true.mp isSettled_forms row inRows) form inRow
    rcases toNat_ofNat_eq_or n with same | zero
    · rw [same]
      exact listedForm_eq_none_of_isSettled (List.all_eq_true.mp forms n part)
    · rw [zero]
      exact listedForm_eq_none_of_isSettled rfl
  · next unlisted =>
    rw [List.mem_singleton.mp among]
    exact unlisted

theorem compatibilityForm_eq_of_mem {c : Char} (among : '_' ∈ compatibilityForm c) :
    compatibilityForm c = ['_'] := by
  unfold compatibilityForm at among ⊢
  split at among
  · next form listed =>
    obtain ⟨n, part, same⟩ := List.mem_map.mp among
    obtain ⟨row, inRows, inRow⟩ := exists_row_of_listedForm listed
    have alone := List.all_eq_true.mp
      (List.all_eq_true.mp keepsUnderscoreAlone_forms row inRows) form inRow
    have code : n = 0x5F := by
      rcases toNat_ofNat_eq_or n with self | zero
      · rw [← self, same]
        rfl
      · rw [same] at zero
        cases zero
    rcases Bool.or_eq_true_iff.mp alone with without | single
    · have other := List.all_eq_true.mp without n part
      rw [code] at other
      cases other
    · rw [eq_of_beq single]
      rfl
  · rw [← List.mem_singleton.mp among]

end JsonBinding.Character
