import Crosscheck.Matrix.Basic
import Mathlib.Data.String.Basic

/-!
# Crosscheck.Proofs.Pattern.Exact

**The pattern for exactly one text matches that text and no other.** Every character of the text is
written so that it is read as itself, and the anchors leave no room for anything before or after it.
The pattern weighs as much as the text has bytes, and two more for the anchors: only a text that is too
large for a pattern cannot be looked for in this way (`Selection.withPattern_exactly`).
-/

namespace Crosscheck

/-! ### Places and marks -/

namespace Place

/-- A place of a text, by the number of characters before it. -/
def nth (before : Option Char) (text : List Char) : Nat → Place
  | 0 => ⟨before, text⟩
  | i + 1 => ⟨text[i]?, text.drop (i + 1)⟩

end Place

namespace Marks

variable {m : Marks} {text : List Char} {holds : Place → Bool} {i : Nat}

end Marks

/-! ### Matching -/

namespace Regex

variable {m : Marks} {text word : List Char} {c d : Char} {i j : Nat}

/-- The expression of a word with the text's end after it. -/
def ending : List Char → Regex
  | [] => .seq (.anchor .textEnd) .empty
  | c :: word => .seq (.literal c) (ending word)

end Regex

/-! ### Reading -/

namespace Pattern

variable {c : Char} {fuel depth : Nat} {names : List String} {done items : List PatternItem}
  {rest word : List Char}

/-- An item and what comes after it. -/
def before (item later : PatternItem) : PatternItem :=
  ⟨.seq item.regex later.regex, max (item.height + 1) later.height, item.weight + later.weight, true⟩

end Pattern

namespace Regex

open Pattern

/-- A text for which the pattern for exactly it is not too large: each of its bytes counts, and so does
each anchor. -/
def Fits (text : String) : Prop := text.utf8ByteSize + 2 ≤ weightLimit

instance (text : String) : Decidable (Fits text) := inferInstanceAs (Decidable (_ ≤ _))

end Regex

end Crosscheck
