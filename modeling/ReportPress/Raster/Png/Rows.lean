import ReportPress.Raster.Png.Stream
/-!
The rows of a PNG image: each starts with the number of its filter. An interlaced image is sent in seven passes. A row
is only started while there is something left of the compressed stream, so a stream that is cut off just where its last
row starts lacks that row; a stream may end where a row ends.
-/

namespace ReportPress.Png

/-- octets of a row of `w` pixels, its filter included -/
def Kind.rowLength (k : Kind) (w : Nat) : Nat := (w * k.depth * k.samples + 7) / 8 + 1

/-- the passes of an interlaced image: first column and step, first row and step -/
def passes : List (Nat × Nat × Nat × Nat) :=
  [(0, 8, 0, 8), (4, 8, 0, 8), (0, 4, 4, 8), (2, 4, 0, 4), (0, 2, 2, 4), (1, 2, 0, 2), (0, 1, 1, 2)]

/-- how many places there are from `first` on in steps below `n` -/
def stepsBelow (n first step : Nat) : Nat := (n - first + step - 1) / step

/-- the lengths of all rows, in the order they are sent, as a number of rows of each length -/
abbrev Rows := List (Nat × Nat)

namespace Rows

def ofSize (k : Kind) (interlaced : Bool) (width height : Nat) : Rows :=
  if interlaced then
    passes.filterMap fun (x, dx, y, dy) =>
      let w := stepsBelow width x dx
      let n := stepsBelow height y dy
      if w = 0 ∨ n = 0 then none else some (n, k.rowLength w)
  else [(height, k.rowLength width)]

def total (rows : Rows) : Nat := rows.foldl (fun n r => n + r.1 * r.2) 0

/-- all rows as the goal of decoding, and the start of the last as the place to be watched -/
def goal (rows : Rows) : Inflate.Goal := ⟨rows.total, rows.total - (rows.getLast?.map (·.2)).getD 0⟩

/-- the rows that are whole in the output start with a filter that there is -/
def filtersFit (out : ByteArray) (start length : Nat) : Nat → Bool
  | 0 => true
  | n + 1 =>
    if out.size < start + length then true
    else Octets.at_ out start ≤ 4 && filtersFit out (start + length) length n

def allFiltersFit (out : ByteArray) : Nat → Rows → Bool
  | _, [] => true
  | start, (n, length) :: rest => filtersFit out start length n && allFiltersFit out (start + n * length) rest

/-- `size` octets are a number of whole rows, at least one -/
def endsRow (size : Nat) : Nat → Rows → Bool
  | _, [] => false
  | start, (n, length) :: rest =>
    (start < size && size ≤ start + n * length && (size - start) % length == 0) ||
      endsRow size (start + n * length) rest

end Rows

/-- what the compressed octets that are there so far amount to -/
inductive Verdict where
  | whole
  | broken
  /-- more octets are needed -/
  | wanting
deriving DecidableEq, Repr

def Verdict.ofData (rows : Rows) (compressed : ByteArray) : Verdict :=
  let r := Inflate.run compressed rows.goal
  let isComplete := rows.total ≤ r.out.size && r.hadMore
  if r.ending = .broken || !rows.allFiltersFit r.out 0 then .broken
  else if isComplete || (r.ending = .finished && rows.endsRow r.out.size 0) then .whole
  else .wanting

end ReportPress.Png
