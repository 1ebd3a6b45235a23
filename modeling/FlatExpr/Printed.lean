import FlatExpr.Text.Quoted

/-!
# Printed

Printed forms: texts that show a value as it would be written down.  A text is printed between
quotes.
-/

namespace FlatExpr

/-- A value with a printed form. -/
class Printed (α : Type) where
  /-- The printed form. -/
  printed : α → String

export Printed (printed)

instance : Printed String := ⟨fun text => Text.quoted text.toList⟩

instance : Printed (List Char) := ⟨Text.quoted⟩

end FlatExpr
