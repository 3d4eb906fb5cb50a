/-!
Stable sorting by a relation "comes before" that need not be an order. The leading run of the list is kept as it is, or
turned round if each of its items comes before the one ahead of it; every later item is placed by halving: behind the
middle item unless it comes before that one. Which items are compared makes a difference only where "comes before" is no
order: there is but one stable order of a list.
-/

namespace ReportPress.Order

variable {α : Type}

/-- the place of `x` among the first `hi` items, at least `lo`, found by halving; `fuel` bounds the halvings -/
def place (before : α → α → Bool) (x : α) (sorted : Array α) : Nat → Nat → Nat → Nat
  | 0, lo, _ => lo
  | fuel + 1, lo, hi =>
    if lo < hi then
      let mid := lo + (hi - lo) / 2
      match sorted[mid]? with
      | some y => if before x y then place before x sorted fuel lo mid else place before x sorted fuel (mid + 1) hi
      | none => lo
    else lo

def insertAt (x : α) : Nat → List α → List α
  | 0, ys => x :: ys
  | _ + 1, [] => [x]
  | n + 1, y :: ys => y :: insertAt x n ys

def insert (before : α → α → Bool) (sorted : List α) (x : α) : List α :=
  insertAt x (place before x sorted.toArray (sorted.length + 1) 0 sorted.length) sorted

/-- the items after `last` as long as `goesOn` holds between neighbours, and the rest -/
def run (goesOn : α → α → Bool) (last : α) : List α → List α × List α
  | [] => ([], [])
  | x :: rest =>
    if goesOn last x then
      let (taken, left) := run goesOn x rest
      (x :: taken, left)
    else ([], x :: rest)

def sort (before : α → α → Bool) : List α → List α
  | [] => []
  | [x] => [x]
  | x :: y :: rest =>
    if before y x then
      let (taken, left) := run (fun a b => before b a) y rest
      left.foldl (insert before) (x :: y :: taken).reverse
    else
      let (taken, left) := run (fun a b => !before b a) y rest
      left.foldl (insert before) (x :: y :: taken)

end ReportPress.Order
