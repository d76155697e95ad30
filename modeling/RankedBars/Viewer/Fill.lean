import RankedBars.Color

/-!
# Fills of translucent colors

A translucent color is painted by adding its light to what is behind it, so the
light of each part is taken down by the alpha before it is painted. That is done
with light and not with the numbers that stand for it: a number is turned into
light by a curve, the light is scaled, and the curve is gone back. The curve has
a straight piece near black and a power elsewhere, and is evaluated in 32-bit
floating point.
-/

namespace RankedBars.Viewer

/-- The light of a color part. -/
def lightOfPart (part : UInt8) : Float32 :=
  if part ≤ 10 then Float32.ofNat part.toNat / 3294.6
  else ((Float32.ofNat part.toNat + 14.025) / 269.025).pow 2.4

/-- The whole number nearest to a number that is not negative. -/
def nearestPart (x : Float32) : UInt8 := (x + 0.5).toUInt8

/-- The color part that has a light. -/
def partOfLight (light : Float32) : UInt8 :=
  if light ≤ 0 then 0
  else if light ≤ 0.0031308 then nearestPart (3294.6 * light)
  else if light ≤ 1 then nearestPart (269.025 * light.pow (1.0 / 2.4) - 14.025)
  else 255

/-- What a color adds to what is behind it. -/
def fill (c : Color) : Color :=
  if c.alpha = 255 then c
  else if c.alpha = 0 then ⟨0, 0, 0, 0⟩
  else
    let share := Float32.ofNat c.alpha.toNat / 255
    let scaled (part : UInt8) := partOfLight (lightOfPart part * share)
    ⟨scaled c.red, scaled c.green, scaled c.blue, c.alpha⟩

end RankedBars.Viewer
