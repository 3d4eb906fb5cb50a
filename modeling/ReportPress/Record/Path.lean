import ReportPress.Failure
/-!
Paths into a record. A path is a list of segments between points; a segment names a field of an object or, if it
consists of digits, an item of a list. A path that leads nowhere resolves to nothing, which is not a failure.
Main statement: `follow_append`, a path put together from two is followed by following one after the other.
-/

namespace ReportPress.Record

/-- the value that one segment leads to -/
def step (v : Value) (segment : List Char) : Except Failure (Option Value) :=
  match v with
  | .object _ fields => .ok (Fields.get? fields (String.ofList segment))
  | .list _ items =>
    if segment ≠ [] ∧ segment.all Text.isDigitLike then
      match Numeral.readInt (String.ofList segment) with
      | .ok n => .ok items[n.toNat]?
      | .error .malformed => .error (.badIndex (String.ofList segment))
      | .error (.tooLong digits) => .error (.tooManyDigits digits)
    else .ok none
  | _ => .ok none

/-- the value that some segments lead to, one after the other -/
def follow : List (List Char) → Value → Except Failure (Option Value)
  | [], v => .ok (some v)
  | segment :: rest, v =>
    match step v segment with
    | .ok (some w) => follow rest w
    | r => r

/-- the value at a path; the empty path is the record itself -/
def resolve (record : Value) (path : String) : Except Failure (Option Value) :=
  if path = "" then .ok (some record) else follow (Text.split '.' path.toList) record

theorem follow_append (a b : List (List Char)) (v : Value) :
    follow (a ++ b) v =
      match follow a v with
      | .ok (some w) => follow b w
      | r => r := by
  induction a generalizing v with
  | nil => rfl
  | cons s r ih =>
    simp only [List.cons_append, follow]
    split
    · exact ih _
    · next h => split <;> simp_all

end ReportPress.Record
