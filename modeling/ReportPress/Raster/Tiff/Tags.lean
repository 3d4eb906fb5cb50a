import ReportPress.Raster.Directory
/-!
The tags of a TIFF directory that tell how the image is made up.
-/

namespace ReportPress.Tiff

def widthTag : Nat := 256

def heightTag : Nat := 257

def depthsTag : Nat := 258

def packingTag : Nat := 259

def meaningTag : Nat := 262

def orderTag : Nat := 266

def stripsTag : Nat := 273

def turnTag : Nat := 274

def samplesTag : Nat := 277

def rowsTag : Nat := 278

def lengthsTag : Nat := 279

def planesTag : Nat := 284

def differencesTag : Nat := 317

def paletteTag : Nat := 320

def tileWidthTag : Nat := 322

def tileHeightTag : Nat := 323

def tilesTag : Nat := 324

def tileLengthsTag : Nat := 325

def extraTag : Nat := 338

def formatTag : Nat := 339

def metadataTag : Nat := 700

/-- images with this entry are of a form of their own -/
def foreignTag : Nat := 0xBC01

/-- a number that must not be negative -/
def natural? (n : Int) : Option Nat := if n < 0 then none else some n.toNat

/-- samples lie in planes of their own -/
def isParted (d : Directory) : Bool := d.number? planesTag == some 2

end ReportPress.Tiff
