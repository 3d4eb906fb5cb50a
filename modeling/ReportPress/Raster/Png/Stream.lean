import ReportPress.Raster.Inflate
import ReportPress.Raster.Png.Chunk
/-!
What the chunks of a PNG image have told so far. `Stream.take` takes in a chunk that holds no image data; a chunk of a
name that is not known is left to the caller. The parts of an animation are numbered from zero on.
-/

namespace ReportPress.Png

/-- a kind of colour and the depth of its samples -/
structure Kind where
  colour : Nat
  depth : Nat
deriving DecidableEq, Repr

namespace Kind

/-- samples of a pixel, for each kind of colour with the depths it may have -/
def table : List (Nat × Nat × List Nat) :=
  [(0, 1, [1, 2, 4, 8, 16]), (2, 3, [8, 16]), (3, 1, [1, 2, 4, 8]), (4, 2, [8, 16]), (6, 4, [8, 16])]

def ofNumbers? (colour depth : Nat) : Option Kind :=
  if table.any fun k => k.1 == colour && k.2.2.contains depth then some ⟨colour, depth⟩ else none

def samples (k : Kind) : Nat := ((table.find? fun t => t.1 == k.colour).map (·.2.1)).getD 1

def isPalette (k : Kind) : Bool := k.colour == 3

def isGrey (k : Kind) : Bool := k.colour == 0

/-- a palette can be laid over the pixels -/
def takesPalette (k : Kind) : Bool := k.isPalette || [⟨0, 2⟩, ⟨0, 4⟩, ⟨0, 8⟩, ⟨4, 8⟩].contains k

def isPlainColour (k : Kind) : Bool := k.colour == 2

end Kind

/-- what of an image is transparent -/
inductive Transparency where
  /-- one entry of the palette -/
  | entry (index : Nat)
  /-- a level for each entry of the palette -/
  | levels (count : Nat)
  | grey (level : Nat)
  | colour
deriving DecidableEq, Repr

/-- a part of the image -/
structure Area where
  left : Nat
  top : Nat
  right : Nat
  bottom : Nat
deriving DecidableEq, Repr

structure Stream where
  size : Nat × Nat := (0, 0)
  kind : Option Kind := none
  interlaced : Bool := false
  /-- octets of the palette -/
  palette : Option Nat := none
  transparency : Option Transparency := none
  /-- frames of an animation -/
  frames : Option Nat := none
  /-- the number of the last part of an animation -/
  part : Option Nat := none
  /-- where the frame at hand lies -/
  area : Option Area := none

/-- unpacked texts of more octets are refused -/
def textLimit : Nat := 1048576

/-- the packed text from a place up to another, if it gets no longer than allowed -/
def demandText (b : ByteArray) (start stop : Nat) : Except ImageFault Unit :=
  ImageFault.demand !(Inflate.run (b.extract start stop) ⟨textLimit + 1, textLimit⟩).hadMore

/-- a packed part of a chunk: the octet at a place tells the method, of which there is one, and the rest is packed -/
def demandPacked (b : ByteArray) (c : Chunk) (place : Nat) : Except ImageFault Unit := do
  let method := Octets.at_ b place
  if method != 0 then throw (.packing method c.name)
  demandText b (place + 1) (c.start + c.length)

/-- what follows the first null octet -/
def afterNull (xs : List Nat) : Option (List Nat) :=
  match xs.dropWhile (· != 0) with
  | [] => none
  | _ :: rest => some rest

/-- an international text: a mark of packing and its method, a language and a keyword, and then the text -/
def demandWords (b : ByteArray) (c : Chunk) : Except ImageFault Unit :=
  match afterNull (c.octets b) with
  | some (packed :: method :: rest) =>
    match (afterNull rest).bind afterNull with
    | some text =>
      if packed != 0 && method == 0 then demandText b (c.start + c.length - text.length) (c.start + c.length)
      else .ok ()
    | none => .ok ()
  | _ => .ok ()

namespace Stream

def readHead (s : Stream) (b : ByteArray) (c : Chunk) : Except ImageFault Stream := do
  ImageFault.demand (13 ≤ c.length)
  if Octets.at_ b (c.start + 11) != 0 then throw .filterCategory
  return { s with
    size := (Octets.big32 b c.start, Octets.big32 b (c.start + 4))
    kind := (Kind.ofNumbers? (Octets.at_ b (c.start + 9)) (Octets.at_ b (c.start + 8))).or s.kind
    interlaced := s.interlaced || Octets.at_ b (c.start + 12) != 0 }

/-- levels of which one is zero and all others are full stand for one entry -/
def readTransparency (s : Stream) (b : ByteArray) (c : Chunk) : Except ImageFault Stream := do
  let xs := c.octets b
  match s.kind with
  | none => return s
  | some k =>
    if k.isPalette then
      let opaqueCount := (xs.takeWhile (· == 255)).length
      let rest := xs.drop opaqueCount
      if rest.head? == some 0 && rest.tail.all (· == 255) then
        return { s with transparency := some (.entry opaqueCount) }
      else return { s with transparency := some (.levels xs.length) }
    else if k.isGrey then do
      ImageFault.demand (2 ≤ c.length)
      return { s with transparency := some (.grey (Octets.big16 b c.start)) }
    else if k.isPlainColour then do
      ImageFault.demand (6 ≤ c.length)
      return { s with transparency := some .colour }
    else return s

/-- a second announcement of an animation takes the first one back -/
def readAnimation (s : Stream) (b : ByteArray) (c : Chunk) : Except ImageFault Stream := do
  ImageFault.demand (8 ≤ c.length)
  let frames := Octets.big32 b c.start
  if s.frames.isSome then return { s with frames := none }
  else if frames == 0 || 0x80000000 < frames then return s
  else return { s with frames := some frames }

/-- the next part of an animation has to have the next number; the first one of all may be told to be part zero -/
def readFrame (s : Stream) (b : ByteArray) (c : Chunk) : Except ImageFault Stream := do
  ImageFault.demand (26 ≤ c.length)
  let word (k : Nat) := Octets.big32 b (c.start + 4 * k)
  let expected := match s.part with
    | some n => n + 1
    | none => 0
  if word 0 != expected then throw .frameOrder
  let area : Area := ⟨word 3, word 4, word 3 + word 1, word 4 + word 2⟩
  if s.size.1 < area.right || s.size.2 < area.bottom then throw .frameBounds
  return { s with part := some expected, area := some area }

/-- image data of an animation: they start with the number of the part -/
def readPart (s : Stream) (b : ByteArray) (c : Chunk) : Except ImageFault Stream := do
  ImageFault.demand (4 ≤ c.length && Octets.isThere b c.start 4)
  let number := Octets.big32 b c.start
  if s.part.map (· + 1) != some number then throw .frameOrder
  return { s with part := some number }

/-- the place of the method of a profile's packing: after the name, or at the start if no null octet ends the name -/
def methodPlace (b : ByteArray) (c : Chunk) : Nat :=
  match afterNull (c.octets b) with
  | some rest => c.length - rest.length
  | none => 0

/-- takes in a chunk without image data; nothing if its name is not known -/
def take? (s : Stream) (b : ByteArray) (c : Chunk) : Option (Except ImageFault Stream) :=
  let whole (next : Except ImageFault Stream) : Option (Except ImageFault Stream) :=
    some (do ImageFault.demand (c.isThere b); next)
  let noting (check : Except ImageFault Unit) := whole (do check; return s)
  match c.name with
  | "IHDR" => whole (s.readHead b c)
  | "PLTE" => whole (return if s.kind.any Kind.isPalette then { s with palette := some c.length } else s)
  | "tRNS" => whole (s.readTransparency b c)
  | "acTL" => whole (s.readAnimation b c)
  | "fcTL" => whole (s.readFrame b c)
  | "gAMA" => noting (ImageFault.demand (4 ≤ c.length))
  | "cHRM" => noting (ImageFault.demand (32 ≤ c.length))
  | "sRGB" => noting (ImageFault.demand (1 ≤ c.length))
  | "pHYs" => noting (ImageFault.demand (9 ≤ c.length))
  | "iCCP" =>
    noting (do
      let place := methodPlace b c
      if c.length ≤ place then throw .noMethod
      demandPacked b c (c.start + place))
  | "zTXt" =>
    noting (match afterNull (c.octets b) with
      | none | some [] => return ()
      | some rest => demandPacked b c (c.start + c.length - rest.length))
  | "iTXt" => noting (demandWords b c)
  | "tEXt" | "eXIf" => noting (return ())
  | _ => none

end Stream

end ReportPress.Png
