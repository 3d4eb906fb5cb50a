import ReportPress.Raster.Bmp
import ReportPress.Raster.Gif
import ReportPress.Raster.Jpeg.Image
import ReportPress.Raster.Png.Image
import ReportPress.Raster.Tiff.Image
import ReportPress.Raster.WebP
/-!
The formats of images. The octets at the start tell which format an image has. An image is opened by its head, and its
pixels are read after that, because an image that is far too large is turned away before its pixels are looked at.
-/

namespace ReportPress

inductive ImageFormat where
  | png
  | jpeg
  /-- several JPEG images in one file -/
  | album
  | gif
  | bmp
  | webp
  | tiff
deriving DecidableEq, Repr

def ImageFormat.name : ImageFormat → String
  | .png => "PNG"
  | .jpeg => "JPEG"
  | .album => "MPO"
  | .gif => "GIF"
  | .bmp => "BMP"
  | .webp => "WEBP"
  | .tiff => "TIFF"

/-- an image whose pixels have been read -/
structure Picture where
  format : ImageFormat
  width : Nat
  height : Nat
  /-- its pixels can be brought to plain colours -/
  isFlattenable : Bool := true
deriving DecidableEq, Repr

/-- an image whose head has been read -/
inductive Opened where
  | png (o : Png.Opening)
  | jpeg (o : Jpeg.Opening)
  | gif (o : Gif.Opening)
  | bmp (o : Bmp.Opening)
  | webp (o : WebP.Opening)
  | tiff (o : Tiff.Opening)

namespace Opened

/-- opens an image of the format that its first octets tell -/
def ofOctets (b : ByteArray) : Except ImageFault Opened :=
  if Png.isSigned b then Opened.png <$> Png.open_ b
  else if Jpeg.isSigned b then Opened.jpeg <$> ImageFault.found (Jpeg.open? b)
  else if Gif.isSigned b then Opened.gif <$> Gif.open_ b
  else if Bmp.isSigned b then Opened.bmp <$> Bmp.open_ b
  else if WebP.isSigned b then Opened.webp <$> WebP.open_ b
  else if Tiff.isSigned b then Opened.tiff <$> ImageFault.found (Tiff.open? b)
  else .error .unreadable

/-- the size that the head tells -/
def size : Opened → Nat × Nat
  | .png o => o.stream.size
  | .jpeg o => o.size
  | .gif o => o.screen
  | .bmp o => (o.width, o.height)
  | .webp o => o.size
  | .tiff o => o.size

/-- reads the pixels of an opened image, which may turn it -/
def load (b : ByteArray) : Opened → Except ImageFault Picture
  | .png o => return ⟨.png, o.stream.size.1, o.stream.size.2, ← o.load b⟩
  | .jpeg o => do
    Jpeg.load b
    return ⟨if o.isAlbum then .album else .jpeg, o.size.1, o.size.2, true⟩
  | .gif o => do
    o.load b
    return ⟨.gif, o.screen.1, o.screen.2, true⟩
  | .bmp o => do
    o.load b
    return ⟨.bmp, o.width, o.height, true⟩
  | .webp o => return ⟨.webp, o.size.1, o.size.2, true⟩
  | .tiff o => do
    o.load b
    return ⟨.tiff, o.uprightSize.1, o.uprightSize.2, true⟩

end Opened

/-- reads an image; the size is checked between its head and its pixels -/
def Picture.ofOctets (b : ByteArray) : Except ImageFault Picture := do
  let opened ← Opened.ofOctets b
  ImageFault.demandSize opened.size
  opened.load b

end ReportPress
