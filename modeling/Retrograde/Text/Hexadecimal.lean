/-!
# Hexadecimal digits

## Main definitions

* `hexValue?` — the value of a digit, in either case.
-/

namespace Retrograde.Text

/-- The value of a hexadecimal digit. -/
def hexValue? (c : Char) : Option Nat :=
  if c.isDigit then some (c.toNat - '0'.toNat)
  else if 'a' ≤ c ∧ c ≤ 'f' then some (c.toNat - 'a'.toNat + 10)
  else if 'A' ≤ c ∧ c ≤ 'F' then some (c.toNat - 'A'.toNat + 10)
  else none

/-- The digits in lower case have the values that they are written for. -/
theorem hexValue?_digitChar {n : Nat} (h : n < 16) : hexValue? (Nat.digitChar n) = some n := by
  have key : ∀ m : Fin 16, hexValue? (Nat.digitChar m.val) = some m.val := by decide
  exact key ⟨n, h⟩

end Retrograde.Text
