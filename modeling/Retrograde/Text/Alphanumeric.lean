import Retrograde.Text.Alphabetic
import Retrograde.Text.Numeric

/-!
# Letters and numbers

The characters that a name may be made of.

## Main definitions

* `isAlphanumeric` — whether a character is a letter or a number.
-/

namespace Retrograde.Text

/-- Whether a character is a letter or a number. -/
def isAlphanumeric (c : Char) : Bool := isAlphabetic c || isNumeric c

end Retrograde.Text
