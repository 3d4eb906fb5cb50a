import ReportPress.Raster.Directory
/-!
How the pixels of a TIFF image are laid out, by what its directory says: the meaning of the samples, their format, the
order of bits in an octet, the bits of each sample, and the meaning of the samples beyond the usual ones. Only the
combinations of the table can be read.
-/

namespace ReportPress.Tiff

/-- what a pixel is -/
inductive Mode where
  | bilevel
  | grey
  | greyAlpha
  /-- grey of sixteen bits -/
  | deepGrey
  | whole
  | real
  | palette
  | paletteAlpha
  | rgb
  | rgba
  /-- colours that are already weakened by their alpha -/
  | weakened
  | cmyk
  | lab
deriving DecidableEq, Repr

namespace Mode

/-- bits of the samples that can be read from planes of their own -/
def planes : Mode → List Nat
  | .bilevel => [1]
  | .grey | .palette => [8]
  | .whole | .real => [32]
  | .rgb | .weakened | .lab => [8, 8, 8]
  | .rgba | .cmyk => [8, 8, 8, 8]
  | .deepGrey | .greyAlpha | .paletteAlpha => []

/-- samples of a pixel -/
def bands : Mode → Nat
  | .bilevel | .grey | .deepGrey | .whole | .real | .palette => 1
  | .greyAlpha | .paletteAlpha => 2
  | .rgb | .lab => 3
  | .rgba | .weakened | .cmyk => 4

def hasPalette : Mode → Bool
  | .palette | .paletteAlpha => true
  | _ => false

end Mode

structure Layout where
  mode : Mode
  /-- bits of a pixel; none if such pixels cannot be taken apart -/
  bits : Option Nat
deriving DecidableEq, Repr

/-- what the directory says about samples -/
structure Form where
  /-- zero for white as least, one for black as least, two for colours, three for a palette, five for printing
  colours, six for luminance and two differences, eight for lightness and two opponents -/
  meaning : Int
  /-- one for unsigned, two for signed, three for real numbers -/
  format : List Int
  /-- one for the highest bit first, two for the lowest -/
  order : Int
  depths : List Int
  extra : List Int
deriving DecidableEq, Repr

namespace Form

/-- `n` samples of eight bits -/
def eights (n : Nat) : List Int := List.replicate n 8

def sixteens (n : Nat) : List Int := List.replicate n 16

/-- a form of unsigned samples, highest bit first -/
def usual (meaning : Int) (depths extra : List Int) : Form := ⟨meaning, [1], 1, depths, extra⟩

def single (meaning format order depth : Int) : Form := ⟨meaning, [format], order, [depth], []⟩

/-- one sample of up to four bits, in all four forms -/
def small : List (Form × Layout) :=
  [0, 1].flatMap fun meaning => [1, 2].flatMap fun order =>
    [(single meaning 1 order 1, ⟨.bilevel, some 1⟩), (single meaning 1 order 2, ⟨.grey, some 2⟩),
     (single meaning 1 order 4, ⟨.grey, some 4⟩)]

/-- other single samples -/
def grey : List (Form × Layout) :=
  [(single 0 1 1 8, ⟨.grey, some 8⟩), (single 0 1 2 8, ⟨.grey, none⟩), (single 1 1 1 8, ⟨.grey, some 8⟩),
   (single 1 1 2 8, ⟨.grey, some 8⟩), (single 1 2 1 8, ⟨.grey, some 8⟩), (single 1 2 1 16, ⟨.whole, some 16⟩),
   (single 0 3 1 32, ⟨.real, some 32⟩), (single 1 3 1 32, ⟨.real, some 32⟩), (single 1 2 1 32, ⟨.whole, some 32⟩),
   (usual 1 (eights 2) [0], ⟨.grey, some 16⟩), (usual 1 (eights 2) [2], ⟨.greyAlpha, some 16⟩)]

def colour : List (Form × Layout) :=
  [(usual 2 (eights 3) [], ⟨.rgb, some 24⟩), (⟨2, [1], 2, eights 3, []⟩, ⟨.rgb, some 24⟩),
   (usual 2 (eights 4) [], ⟨.rgba, some 32⟩), (usual 2 (eights 4) [0], ⟨.rgb, some 32⟩),
   (usual 2 (eights 5) [0, 0], ⟨.rgb, some 40⟩), (usual 2 (eights 6) [0, 0, 0], ⟨.rgb, some 48⟩),
   (usual 2 (eights 4) [1], ⟨.weakened, some 32⟩), (usual 2 (eights 5) [1, 0], ⟨.weakened, some 40⟩),
   (usual 2 (eights 6) [1, 0, 0], ⟨.weakened, some 48⟩), (usual 2 (eights 4) [2], ⟨.rgba, some 32⟩),
   (usual 2 (eights 5) [2, 0], ⟨.rgba, some 40⟩), (usual 2 (eights 6) [2, 0, 0], ⟨.rgba, some 48⟩),
   (usual 2 (eights 4) [999], ⟨.rgba, some 32⟩), (usual 2 (sixteens 3) [], ⟨.rgb, some 48⟩),
   (usual 2 (sixteens 4) [], ⟨.rgba, some 64⟩), (usual 2 (sixteens 4) [0], ⟨.rgb, some 64⟩),
   (usual 2 (sixteens 4) [1], ⟨.weakened, some 64⟩), (usual 2 (sixteens 4) [2], ⟨.rgba, some 64⟩)]

def palette : List (Form × Layout) :=
  [(single 3 1 1 1, ⟨.palette, some 1⟩), (single 3 1 1 2, ⟨.palette, some 2⟩), (single 3 1 1 4, ⟨.palette, some 4⟩),
   (single 3 1 1 8, ⟨.palette, some 8⟩), (single 3 1 2 1, ⟨.palette, none⟩), (single 3 1 2 2, ⟨.palette, none⟩),
   (single 3 1 2 4, ⟨.palette, none⟩), (single 3 1 2 8, ⟨.palette, some 8⟩),
   (usual 3 (eights 2) [0], ⟨.palette, some 16⟩), (usual 3 (eights 2) [2], ⟨.paletteAlpha, some 16⟩)]

def other : List (Form × Layout) :=
  [(usual 5 (eights 4) [], ⟨.cmyk, some 32⟩), (usual 5 (eights 5) [0], ⟨.cmyk, some 40⟩),
   (usual 5 (eights 6) [0, 0], ⟨.cmyk, some 48⟩), (usual 5 (sixteens 4) [], ⟨.cmyk, some 64⟩),
   (single 6 1 1 8, ⟨.grey, some 8⟩), (usual 6 (eights 3) [], ⟨.rgb, some 32⟩),
   (usual 8 (eights 3) [], ⟨.lab, some 24⟩)]

/-- forms that depend on the order of octets in a number -/
def ordered (isBig : Bool) : List (Form × Layout) :=
  if isBig then [(single 1 1 1 16, ⟨.deepGrey, some 16⟩)]
  else
    [(single 1 1 1 12, ⟨.deepGrey, some 12⟩), (single 0 1 1 16, ⟨.deepGrey, some 16⟩),
     (single 1 1 1 16, ⟨.deepGrey, some 16⟩), (single 1 1 2 16, ⟨.deepGrey, some 16⟩),
     (single 1 1 1 32, ⟨.whole, some 32⟩)]

def layout? (f : Form) (isBig : Bool) : Option Layout :=
  (small ++ grey ++ colour ++ palette ++ other ++ ordered isBig).lookup f

end Form

end ReportPress.Tiff
