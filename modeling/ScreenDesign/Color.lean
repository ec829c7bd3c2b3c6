import ScreenDesign.Json.Basic
import ScreenDesign.Number.Binary64
import ScreenDesign.Text.Basic
import ScreenDesign.Text.Hex

/-!
# Colors

A color has a red, a green and a blue channel.  It is written as `#RRGGBB` with
upper-case digits and read with digits of either case and blanks around it.  A
value that is no color counts as black, and a missing or blank one as a given
color.

Text on a color is white or black.  The choice depends on the luminance, a
weighted mean of the channels in binary64 arithmetic, where every product, sum and
quotient is rounded.
-/

namespace ScreenDesign

structure Color where
  /-- The red channel. -/
  red : Fin 256
  /-- The green channel. -/
  green : Fin 256
  /-- The blue channel. -/
  blue : Fin 256
  deriving DecidableEq

namespace Color

/-- A channel has values. -/
instance neZero_channel : @NeZero Nat Zero.ofOfNat0 256 := ⟨Nat.succ_ne_zero 255⟩

/-- Black, which also stands for every malformed color. -/
def black : Color := ⟨0, 0, 0⟩

def white : Color := ⟨255, 255, 255⟩

/-! ## Text -/

/-- The two digits of a channel. -/
def channelDigits (n : Fin 256) : List Char :=
  [Text.hexDigit ⟨n.val / 16, by omega⟩, Text.hexDigit ⟨n.val % 16, by omega⟩]

/-- The six digits of a color. -/
def digits (c : Color) : List Char :=
  channelDigits c.red ++ channelDigits c.green ++ channelDigits c.blue

/-- A color as `#RRGGBB`. -/
def hex (c : Color) : String := String.ofList ('#' :: c.digits)

/-- A channel from its two digits. -/
def channel? (high low : Char) : Option (Fin 256) :=
  match Text.hexValue? high, Text.hexValue? low with
  | some h, some l => some ⟨h.val * 16 + l.val, by omega⟩
  | _, _ => none

/-- The color that a text of seven characters writes. -/
def ofHex? : List Char → Option Color
  | ['#', a, b, c, d, e, f] =>
      match channel? a b, channel? c d, channel? e f with
      | some r, some g, some b => some ⟨r, g, b⟩
      | _, _, _ => none
  | _ => none

/-- The color that a text writes, with blanks around it. -/
def ofText? (s : String) : Option Color := ofHex? (Text.trimBy Text.isBlank s.toList)

/-- The color that a text writes.  Other texts are black. -/
def ofText (s : String) : Color := (ofText? s).getD black

/-- The color that a value writes. -/
def ofJson? : Json → Option Color
  | .text s => ofText? s
  | _ => none

/-- The color of a property.  A missing or blank value has the given color, and a
malformed one is black. -/
def ofProperty (fallback : Color) : Json → Color
  | .null => fallback
  | .text s => if (Text.trimBy Text.isBlank s.toList).isEmpty then fallback else ofText s
  | _ => black

/-! ## Luminance -/

/-- A magnitude as a quotient.  Data without a magnitude have the quotient
zero. -/
def quotient : Binary64 → Nat × Nat
  | .finite _ rank => Binary64.ratio rank.val
  | _ => (0, 1)

/-- A quotient rounded to a binary64 number. -/
def rounded (num den : Nat) : Nat × Nat := quotient (Binary64.ofRatio false num den)

/-- The share of a channel in thousandths of the whole. -/
def share (weight : Nat) (channel : Fin 256) : Nat × Nat :=
  let w := quotient (Binary64.ofDecimal false weight (-3))
  rounded (w.1 * channel.val) w.2

/-- The rounded sum of two quotients. -/
def plus (a b : Nat × Nat) : Nat × Nat := rounded (a.1 * b.2 + b.1 * a.2) (a.2 * b.2)

/-- How bright a color looks, from zero to one. -/
def luminance (c : Color) : Binary64 :=
  let total := plus (plus (share 299 c.red) (share 587 c.green)) (share 114 c.blue)
  Binary64.ofRatio false total.1 (total.2 * 255)

/-- The color of text on a color: black on a luminance above one half. -/
def contrast (c : Color) : Color :=
  let (num, den) := quotient c.luminance
  if den < 2 * num then black else white

/-- What a color writes is read back. -/
theorem channel?_channelDigits (n : Fin 256) :
    channel? (Text.hexDigit ⟨n.val / 16, by omega⟩) (Text.hexDigit ⟨n.val % 16, by omega⟩) =
      some n := by
  simp only [channel?, Text.hexValue?_hexDigit, Option.some.injEq]
  ext
  simp
  omega

/-- The digits of a color read back as the color. -/
theorem ofHex?_digits (c : Color) : ofHex? ('#' :: c.digits) = some c := by
  simp [digits, channelDigits, ofHex?, channel?_channelDigits]

end Color

end ScreenDesign
