import ReportPress.Toml.Scalar
/-!
TOML documents as values. A document is a sequence of statements: assignments, and headers that open a table or a
further item of a list of tables. What an inline list or table has set, and what a header or a dotted key has opened,
is marked, and may not be opened or changed again.
-/

namespace ReportPress.Toml

abbrev Key := List String

/-- marks on keys: set for good, with all that is below; or opened explicitly -/
inductive Mark where
  | frozen
  | opened
deriving DecidableEq, Repr

structure MarkedKey where
  key : Key
  mark : Mark
  /-- the mark also holds of all keys below -/
  deep : Bool

abbrev Marks := List MarkedKey

def Marks.has (ms : Marks) (key : Key) (mark : Mark) : Bool :=
  ms.any fun m => m.mark == mark && (m.key == key || (m.deep && m.key.isPrefixOf key && !m.key.isEmpty)) && key != []

/-- without the marks of a key and of all below it -/
def Marks.clear (ms : Marks) (key : Key) : Marks := ms.filter fun m => !key.isPrefixOf m.key

/-- changes the table at a key, opening the tables on the way; a list stands for its last table if `lists` is set -/
def changeTable (lists : Bool) (change : Fields → Except Fault Fields) : Key → Fields → Except Fault Fields
  | [], fields => change fields
  | k :: rest, fields =>
    match Fields.get? fields k with
    | none => (changeTable lists change rest []).map fun sub => Fields.put k (.object .record sub) fields
    | some (.object o sub) => (changeTable lists change rest sub).map fun sub => Fields.put k (.object o sub) fields
    | some (.list o xs) =>
      match lists, xs.getLast? with
      | true, some (.object p sub) =>
        (changeTable lists change rest sub).map fun sub =>
          Fields.put k (.list o (xs.dropLast ++ [.object p sub])) fields
      | _, _ => .error .overwritten
    | some _ => .error .overwritten

/-- puts a value under a name that is not taken -/
def assign (taken : Fault) (name : String) (v : Value) (fields : Fields) : Except Fault Fields :=
  if Fields.contains fields name then .error taken else .ok (fields ++ [(name, v)])

/-- adds an empty table to the list under a name -/
def addTable (name : String) (fields : Fields) : Except Fault Fields :=
  match Fields.get? fields name with
  | none => .ok (fields ++ [(name, .list .record [.object .record []])])
  | some (.list o (x :: xs)) => .ok (Fields.put name (.list o (x :: xs ++ [.object .record []])) fields)
  | some _ => .error .overwritten

def isBareKey (c : Char) : Bool := Text.isAsciiLetter c || Text.isAsciiDigit c || c == '-' || c == '_'

def keyPart (cs : List Char) : Read String :=
  match cs with
  | '\'' :: r => (literalString r).map fun p => (String.ofList p.1, p.2)
  | '"' :: r => (basicString false (r.length + 1) [] r).map fun p => (String.ofList p.1, p.2)
  | _ =>
    let name := cs.takeWhile isBareKey
    if name.isEmpty then .error (.fault .keyStart cs) else .ok (String.ofList name, cs.dropWhile isBareKey)

/-- a key of parts between points, blanks around them skipped; `fuel` bounds the parts -/
def key : Nat → List Char → Read Key
  | 0, cs => .error (.fault .keyStart cs)
  | fuel + 1, cs =>
    match keyPart cs with
    | .error stop => .error stop
    | .ok (part, r) =>
      match skipSpace r with
      | '.' :: r' => (key fuel (skipSpace r')).map fun p => (part :: p.1, p.2)
      | r' => .ok ([part], r')

/-- blanks, line ends and comments within a list -/
def skipInList : Nat → List Char → Except Stop (List Char)
  | 0, cs => .ok cs
  | fuel + 1, cs =>
    match cs.dropWhile isSpaceOrLine with
    | '#' :: r =>
      match skipComment ('#' :: r) with
      | .ok r' => skipInList fuel r'
      | .error stop => .error stop
    | r => .ok r

def isContainer : Value → Bool
  | .list _ (_ :: _) => true
  | .object .. => true
  | _ => false

/-- a value with whether it is an inline list or table -/
abbrev Inline := Value × Bool

mutual
/-- a value; `fuel` bounds depth and length together -/
def value : Nat → List Char → Read Inline
  | 0, cs => .error (.fault .value cs)
  | fuel + 1, cs =>
    match string? cs with
    | some (.ok (s, r)) => .ok ((.string (String.ofList s), false), r)
    | some (.error stop) => .error stop
    | none =>
      match cs with
      | '[' :: r =>
        match skipInList (r.length + 1) r with
        | .error stop => .error stop
        | .ok (']' :: r') => .ok ((.list .record [], true), r')
        | .ok r' => items fuel [] r'
      | '\x7b' :: r =>
        match skipSpace r with
        | '\x7d' :: r' => .ok ((.object .record [], true), r')
        | r' => inlineFields fuel [] [] r'
      | _ => (scalar cs).map fun p => ((p.1, false), p.2)

/-- the items of a list from the next item on -/
def items : Nat → List Value → List Char → Read Inline
  | 0, _, cs => .error (.fault .value cs)
  | fuel + 1, acc, cs =>
    match value fuel cs with
    | .error stop => .error stop
    | .ok ((v, _), r) =>
      match skipInList (r.length + 1) r with
      | .error stop => .error stop
      | .ok (']' :: r') => .ok ((.list .record (v :: acc).reverse, true), r')
      | .ok (',' :: r') =>
        match skipInList (r'.length + 1) r' with
        | .error stop => .error stop
        | .ok (']' :: r'') => .ok ((.list .record (v :: acc).reverse, true), r'')
        | .ok r'' => items fuel (v :: acc) r''
      | .ok r' => .error (.fault .unclosedArray r')

/-- the assignments of an inline table from the next key on -/
def inlineFields : Nat → Marks → Fields → List Char → Read Inline
  | 0, _, _, cs => .error (.fault .value cs)
  | fuel + 1, marks, fields, cs =>
    match assignment fuel cs with
    | .error stop => .error stop
    | .ok ((k, v, container), r) =>
      if marks.has k .frozen then .error (.fault (.immutable k) r)
      else
        let name := k.getLast?.getD ""
        match changeTable false (assign (.duplicateInline name) name v) k.dropLast fields with
        | .error f => .error (.fault f r)
        | .ok fields =>
          match skipSpace r with
          | '\x7d' :: r' => .ok ((.object .record fields, true), r')
          | ',' :: r' =>
            inlineFields fuel (if container then ⟨k, .frozen, true⟩ :: marks else marks) fields (skipSpace r')
          | r' => .error (.fault .unclosedInline r')

/-- a key, an equals sign and a value -/
def assignment : Nat → List Char → Read (Key × Value × Bool)
  | 0, cs => .error (.fault .value cs)
  | fuel + 1, cs =>
    match key (cs.length + 1) cs with
    | .error stop => .error stop
    | .ok (k, '=' :: r) => (value fuel (skipSpace r)).map fun p => ((k, p.1.1, p.1.2), p.2)
    | .ok (_, r) => .error (.fault .equalsSign r)
end

/-- a document as far as it is read -/
structure Document where
  fields : Fields := []
  marks : Marks := []
  /-- marks that hold from the next header on -/
  pending : Marks := []
  header : Key := []

namespace Document

/-- the first keys of `k`, without the whole of it, each below the header -/
def openedBy (header k : Key) : List Key :=
  (List.range (k.length - 1)).map fun i => header ++ k.take (i + 1)

/-- the effect of an assignment; faults are placed after it -/
def set (d : Document) (k : Key) (v : Value) (container : Bool) : Except Fault Document :=
  let opened := openedBy d.header k
  let above := d.header ++ k.dropLast
  match opened.find? fun key => d.marks.has key .opened with
  | some key => .error (.redefined key)
  | none =>
    if d.marks.has above .frozen then .error (.immutable above)
    else
      match changeTable true (assign .overwritten (k.getLast?.getD "") v) above d.fields with
      | .error f => .error f
      | .ok fields =>
        .ok { d with
          fields := fields
          marks := if container then ⟨d.header ++ k, .frozen, true⟩ :: d.marks else d.marks
          pending := opened.map (⟨·, .opened, false⟩) ++ d.pending }

/-- pending marks take effect -/
def settle (d : Document) : Document := { d with marks := d.pending ++ d.marks, pending := [] }

def openTable (d : Document) (k : Key) : Except Fault Document :=
  if d.marks.has k .opened || d.marks.has k .frozen then .error (.declaredTwice k)
  else
    match changeTable true .ok k d.fields with
    | .error f => .error f
    | .ok fields => .ok { d with fields := fields, marks := ⟨k, .opened, false⟩ :: d.marks, header := k }

def openItem (d : Document) (k : Key) : Except Fault Document :=
  if d.marks.has k .frozen then .error (.immutable k)
  else
    match changeTable true (addTable (k.getLast?.getD "")) k.dropLast d.fields with
    | .error f => .error f
    | .ok fields => .ok { d with fields := fields, marks := ⟨k, .opened, false⟩ :: d.marks.clear k, header := k }

/-- one statement, which starts at a character that is neither blank nor a line end -/
def statement (d : Document) (cs : List Char) : Read Document :=
  match cs with
  | '[' :: '[' :: r =>
    match key (r.length + 1) (skipSpace r) with
    | .error stop => .error stop
    | .ok (k, r) =>
      match d.settle.openItem k with
      | .error f => .error (.fault f r)
      | .ok d => match r with
        | ']' :: ']' :: r' => .ok (d, r')
        | _ => .error (.fault .arrayEnd r)
  | '[' :: r =>
    match key (r.length + 1) (skipSpace r) with
    | .error stop => .error stop
    | .ok (k, r) =>
      match d.settle.openTable k with
      | .error f => .error (.fault f r)
      | .ok d => match r with
        | ']' :: r' => .ok (d, r')
        | _ => .error (.fault .tableEnd r)
  | '#' :: _ => .ok (d, cs)
  | c :: _ =>
    if isBareKey c || c == '"' || c == '\'' then
      match assignment (2 * cs.length + 2) cs with
      | .error stop => .error stop
      | .ok ((k, v, container), r) =>
        match d.set k v container with
        | .error f => .error (.fault f r)
        | .ok d => .ok (d, r)
    else .error (.fault .statement cs)
  | [] => .ok (d, [])

/-- the statements from some place on; `fuel` bounds their number -/
def statements : Nat → Document → List Char → Except Stop Document
  | 0, d, _ => .ok d
  | fuel + 1, d, cs =>
    match skipSpace cs with
    | [] => .ok d
    | '\n' :: r => statements fuel d r
    | cs' =>
      match d.statement cs' with
      | .error stop => .error stop
      | .ok (d, r) =>
        match skipComment (skipSpace r) with
        | .error stop => .error stop
        | .ok [] => .ok d
        | .ok ('\n' :: r') => statements fuel d r'
        | .ok r' => .error (.fault .statementEnd r')

end Document

/-- a carriage return before a line feed is dropped -/
def plainLineEnds : List Char → List Char
  | [] => []
  | '\r' :: '\n' :: r => '\n' :: plainLineEnds r
  | c :: r => c :: plainLineEnds r

def placeOf (whole rest : List Char) : Place :=
  if rest.isEmpty then .documentEnd
  else
    let p := Json.Place.after (whole.take (whole.length - rest.length))
    .at p.line p.column

/-- the fields of a document -/
def parseChars (source : List Char) : Except Error Fields :=
  let cs := plainLineEnds source
  match Document.statements (cs.length + 1) {} cs with
  | .ok d => .ok d.fields
  | .error (.fault f rest) => .error (.malformed f (placeOf cs rest))
  | .error (.tooLong n) => .error (.tooLong n)

end ReportPress.Toml
