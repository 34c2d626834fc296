import JsonBinding.Character.CompatibilityRows
/-!
The compatibility normal form (NFKC) of a single character.
-/
namespace JsonBinding.Character

def listedForm (n : Nat) : Option (List Nat) :=
  match compatibilityRows.find? fun row => row.first ≤ n && n ≤ row.last with
  | some row => row.forms[n - row.first]?
  | none => none

/-- The compatibility normal form of a character; most characters are their own. -/
def compatibilityForm (c : Char) : List Char :=
  match listedForm c.toNat with
  | some form => form.map Char.ofNat
  | none => [c]

theorem compatibilityForm_of_unlisted {c : Char} (h : listedForm c.toNat = none) :
    compatibilityForm c = [c] := by
  simp [compatibilityForm, h]

end JsonBinding.Character
