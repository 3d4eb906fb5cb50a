/-!
Pixels laid on white. Every kind of pixels comes down to red, green and blue; where a pixel lets the ground show
through, white is mixed in, in whole numbers.
Main statements: `mix_opaque`, a pixel that lets nothing through keeps its colour; `mix_clear`, a clear pixel is white.
-/

namespace ReportPress

/-- how pixels are written -/
inductive PixelMode where
  | rgb
  | grey
  | rgbAlpha
  | greyAlpha
  | palette
deriving DecidableEq, Repr

namespace PixelMode

def name : PixelMode → String
  | .rgb => "RGB"
  | .grey => "L"
  | .rgbAlpha => "RGBA"
  | .greyAlpha => "LA"
  | .palette => "P"

/-- samples of a pixel -/
def samples : PixelMode → Nat
  | .rgb => 3
  | .grey => 1
  | .rgbAlpha => 4
  | .greyAlpha => 2
  | .palette => 1

def all : List PixelMode := [.rgb, .grey, .rgbAlpha, .greyAlpha, .palette]

end PixelMode

namespace Flatten

/-- a sample laid on white; `alpha` is 255 for a sample that hides it and 0 for a clear one -/
def mix (sample alpha : Nat) : Nat :=
  let t := sample * alpha + 255 * (255 - alpha) + 128
  (t / 256 + t) / 256

theorem mix_opaque {c : Nat} (h : c < 256) : mix c 255 = c := by simp only [mix]; omega

theorem mix_clear (c : Nat) : mix c 0 = 255 := by simp [mix]

def spread (grey : Nat) : List Nat := [grey, grey, grey]

/-- the colour of a palette's entry; black beyond its end -/
def entry (palette : List Nat) (i : Nat) : List Nat :=
  (List.range 3).map fun k => palette.getD (3 * i + k) 0

/-- a pixel as red, green and blue; `clear` is the entry of the palette that is clear, if there is one -/
def onWhite (mode : PixelMode) (palette : List Nat) (clear : Option Nat) (pixel : List Nat) : List Nat :=
  match mode, pixel with
  | .rgbAlpha, [r, g, b, a] => [mix r a, mix g a, mix b a]
  | .greyAlpha, [x, a] => spread (mix x a)
  | .grey, [x] => spread x
  | .palette, [x] => if clear = some x then spread 255 else entry palette x
  | _, samples => samples

/-- samples in groups of `n`; `fuel` bounds the number of groups -/
def groups (n : Nat) : Nat → List Nat → List (List Nat)
  | 0, _ => []
  | fuel + 1, samples =>
    if samples.isEmpty || samples.length < n then [] else samples.take n :: groups n fuel (samples.drop n)

/-- the samples of all pixels, in threes -/
def flatten (mode : PixelMode) (palette : List Nat) (clear : Option Nat) (samples : List Nat) : List Nat :=
  (groups mode.samples samples.length samples).flatMap (onWhite mode palette clear)

end Flatten

end ReportPress
