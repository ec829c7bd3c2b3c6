/-!
# Hexadecimal digits

`hexDigit` writes a number below sixteen as an upper-case digit, and `hexValue?`
reads a digit of either case.
-/

namespace ScreenDesign.Text

/-- The upper-case digit of a number below sixteen. -/
def hexDigit (n : Fin 16) : Char :=
  if n.val < 10 then Char.ofNat (48 + n.val) else Char.ofNat (55 + n.val)

/-- The value of a hexadecimal digit. -/
def hexValue? (c : Char) : Option (Fin 16) :=
  (List.finRange 16).find? fun n => hexDigit n = c.toUpper

/-- A digit has the value that it was written for. -/
theorem hexValue?_hexDigit : ∀ n : Fin 16, hexValue? (hexDigit n) = some n := by decide

end ScreenDesign.Text
