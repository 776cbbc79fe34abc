/-!
# Readers

A reader takes what it can read from the front of a text.
-/

namespace PoolLedger.Text

/-- What a reader leaves over is the second component. -/
abbrev Reader (α : Type) := List Char → Option (α × List Char)

end PoolLedger.Text
