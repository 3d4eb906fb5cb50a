import ReportPress.Raster.Jpeg.Scan
/-!
Decoding a JPEG image: the segments up to the first scan, the checks on its frame, and its scans. An image whose first
scan holds all components, each at once, is done when the units of that scan are; the segments that follow may break
off, but must be right as far as they go, and there must not be another scan. Any other image is decoded scan by scan
up to the end marker.
-/

namespace ReportPress.Jpeg

/-- the longest edge that is decoded -/
def edgeLimit : Nat := 65500

/-- the least whole number that is not below a quotient -/
def ceilDiv (n d : Nat) : Nat := (n + d - 1) / d

namespace Frame

def maxAcross (f : Frame) : Nat := f.components.foldl (fun m c => max m c.across) 1

def maxDown (f : Frame) : Nat := f.components.foldl (fun m c => max m c.down) 1

/-- sizes and ratios of samples that can be decoded: samples fit a whole number of times into those of the component
with the most -/
def isDecodable (f : Frame) : Bool :=
  f.width ≤ edgeLimit && f.height ≤ edgeLimit &&
    f.components.all fun c =>
      1 ≤ c.across && c.across ≤ 4 && 1 ≤ c.down && c.down ≤ 4 && f.maxAcross % c.across == 0 && f.maxDown % c.down == 0

/-- blocks of a component in a row -/
def blocksAcross (f : Frame) (c : Component) : Nat := ceilDiv (f.width * c.across) (8 * f.maxAcross)

def blocksDown (f : Frame) (c : Component) : Nat := ceilDiv (f.height * c.down) (8 * f.maxDown)

/-- units of a scan of several components -/
def units (f : Frame) : Nat := ceilDiv f.width (8 * f.maxAcross) * ceilDiv f.height (8 * f.maxDown)

/-- the image is sent in several scans -/
def hasManyScans (f : Frame) (s : Scan) : Bool :=
  s.parts.length < f.components.length || f.coding == .progressive

end Frame

/-- blocks that a unit may have -/
def blockLimit : Nat := 10

/-- a part of a scan with its component -/
abbrev Members := List (ScanPart × Component)

def Scan.members (s : Scan) (f : Frame) : Members :=
  s.parts.filterMap fun p => (f.components[p.index]?).map fun c => (p, c)

/-- how many units a scan has: a single component counts block by block -/
def unitCount (f : Frame) : Members → Nat
  | [(_, c)] => f.blocksAcross c * f.blocksDown c
  | _ => f.units

/-- how many blocks of a member there are in a unit -/
def share (members : Members) (c : Component) : Nat := if members.length = 1 then 1 else c.across * c.down

/-- symbols of a code for means stand for at most fifteen bits -/
def meanBound : Nat := 16

def meanCode (t : Tables) (standard : List (Nat × Code)) (n : Nat) : Stepping Code :=
  match (t.means.lookup n).or (standard.lookup n) with
  | some c => if c.isLegal && c.isBelow meanBound then .ok c else broken
  | none => broken

def otherCode (t : Tables) (standard : List (Nat × Code)) (n : Nat) : Stepping Code :=
  match (t.coefficients.lookup n).or (standard.lookup n) with
  | some c => if c.isLegal then .ok c else broken
  | none => broken

/-- the bounds of a progressive scan: means by themselves, other coefficients of one component at a time, and one bit
more than before -/
def Scan.isProgression (s : Scan) : Bool :=
  (if s.first = 0 then s.last = 0 else s.first ≤ s.last && s.last < 64 && s.parts.length = 1) &&
    (s.high = 0 || s.low + 1 = s.high) && s.low ≤ 13

/-- what decoding has come to: where it stands, the components whose tables are settled, and which coefficients of their
blocks are not zero -/
structure Progress where
  reader : Reader
  settled : List Nat := []
  traces : List (Nat × Array Traces) := []

/-- runs decoding, and gives the reader at its end -/
def runScan (r : Reader) (decode : Decoding Unit) : Stepping Reader :=
  match decode.run.run r with
  | (.ok (), r) => .ok r
  | (.error stop, _) => .error stop

def sequentialScan (p : Plan) (t : Tables) (f : Frame) (members : Members) (r : Reader) : Stepping Reader := do
  let codes ← members.mapM fun (part, c) => do
    let codes : BlockCodes :=
      ⟨← meanCode t standardMeans part.means, ← otherCode t standardCoefficients part.coefficients⟩
    return List.replicate (share members c) codes
  runScan r (units p (unlessStarved (sequentialUnit p codes.flatten)) (unitCount f members))

def meansScan (p : Plan) (t : Tables) (f : Frame) (s : Scan) (members : Members) (r : Reader) : Stepping Reader := do
  if s.high = 0 then
    let codes ← members.mapM fun (part, c) => do
      return List.replicate (share members c) (← meanCode t [] part.means)
    runScan r (units p (unlessStarved (meansFirst p.octets codes.flatten)) (unitCount f members))
  else
    let blocks := members.foldl (fun n m => n + share members m.2) 0
    runScan r (units p (meansRefine p.octets blocks) (unitCount f members))

/-- a scan of other coefficients of one component -/
def bandScan (p : Plan) (t : Tables) (f : Frame) (s : Scan) (part : ScanPart) (c : Component) (progress : Progress) :
    Stepping Progress := do
  let code ← otherCode t [] part.coefficients
  let count := f.blocksAcross c * f.blocksDown c
  let traces := (progress.traces.lookup part.index).getD (Array.replicate count 0)
  match (bandUnits p ⟨code, s.last, s.low⟩ s count 0 traces).run.run progress.reader with
  | (.ok traces, r) => .ok { progress with reader := r, traces := (part.index, traces) :: progress.traces }
  | (.error stop, _) => .error stop

/-- a scan whose data start at a place. Data that are not coded bit by bit are passed over: they end at a marker, or the
file ends in them -/
def decodeScan (b : ByteArray) (t : Tables) (f : Frame) (s : Scan) (place : Nat) (progress : Progress) :
    Stepping Progress := do
  let members := s.members f
  let blocks := members.foldl (fun n m => n + m.2.across * m.2.down) 0
  demand (members.length = 1 || blocks ≤ blockLimit)
  demand (members.all fun m => progress.settled.contains m.1.index || t.quantizers.contains m.2.table)
  demand (f.coding == .sequential || s.isProgression)
  let p : Plan := ⟨b, t.interval⟩
  let r : Reader := { place := place, toGo := t.interval }
  let progress := { progress with reader := r, settled := s.parts.map (·.index) ++ progress.settled }
  if f.isArithmetic then
    if (nextMarker? b b.size place).isSome then return progress else throw .cut
  else
    match f.coding, members with
    | .sequential, _ => return { progress with reader := ← sequentialScan p t f members r }
    | .progressive, [(part, c)] =>
      if s.first = 0 then return { progress with reader := ← meansScan p t f s members r }
      else bandScan p t f s part c progress
    | .progressive, _ => return { progress with reader := ← meansScan p t f s members r }

/-- scan after scan, up to the end marker -/
def absorb (b : ByteArray) (f : Frame) : Nat → Tables → Progress → Stepping Unit
  | 0, _, _ => .error .cut
  | fuel + 1, t, progress => do
    let (halt, t, place) ← readSegments b b.size progress.reader.marker progress.reader.place t
    match halt with
    | .finish => return
    | .scan s => absorb b f fuel t (← decodeScan b t f s place progress)

/-- the first scan: tables may come in a stream of their own before -/
def firstScan (b : ByteArray) : Nat → Nat → Tables → Stepping (Scan × Tables × Nat)
  | 0, _, _ => .error .cut
  | fuel + 1, i, t => do
    if !Octets.isThere b i 2 then throw .cut
    demand (Octets.matchesAt b i [0xFF, 0xD8])
    let (halt, t, place) ← readSegments b b.size 0 (i + 2) { t with interval := 0 }
    match halt with
    | .scan s => return (s, t, place)
    | .finish =>
      demand t.frame.isNone
      firstScan b fuel place t

/-- octets that a file is read by -/
def pieceSize : Nat := 65536

/-- what follows the only scan is right as far as it goes, within the piece of the file that ended the scan -/
def demandEnd (b : ByteArray) (r : Reader) (t : Tables) : Stepping Unit :=
  let seen := b.extract 0 (ceilDiv r.place pieceSize * pieceSize)
  match readSegments seen seen.size r.marker r.place t with
  | .ok (.finish, _) | .error .cut => .ok ()
  | _ => broken

/-- all pixels can be had -/
def decode (b : ByteArray) : Stepping Unit := do
  let (s, t, place) ← firstScan b b.size 0 {}
  match t.frame with
  | none => broken
  | some f =>
    demand f.isDecodable
    let progress ← decodeScan b t f s place { reader := { place := place } }
    if f.hasManyScans s then absorb b f b.size t progress else demandEnd b progress.reader t

end ReportPress.Jpeg
