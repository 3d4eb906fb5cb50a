import ReportPress.Failure
/-!
Home directories: what a tilde at the start of a path stands for. Alone it is the user's own home, named by a variable
of the environment; before a name it is the home of the account of that name.
-/

namespace ReportPress

/-- the variables of the environment, and the homes of accounts -/
structure Environment where
  settings : List (String × String)
  accounts : List (String × String)

namespace Environment

def value? (e : Environment) (name : String) : Option String := e.settings.lookup name

def dropEndSlashes (s : String) : String :=
  String.ofList ((s.toList.reverse.dropWhile (· == '/')).reverse)

/-- the home that the first name of a path stands for, without slashes at its end -/
def strippedHome? (e : Environment) (name : String) : Option String :=
  let home := if name = "~" then some ((e.value? "HOME").getD "/root")
    else e.accounts.lookup (String.ofList (name.toList.drop 1))
  home.map dropEndSlashes

def home? (e : Environment) (name : String) : Option String :=
  (e.strippedHome? name).map fun h => if h = "" then "/" else h

/-- the path with a tilde at its start replaced; no account has a null character in its name -/
def expand (e : Environment) (p : Path) : Except Failure Path :=
  match p.slashes, p.parts with
  | 0, first :: rest =>
    if first.toList.head? = some '~' then
      if first.toList.contains '\x00' then .error .nullInPath
      else
        match e.home? first with
        | some h =>
          if h.toList.head? = some '~' then .error .noHome
          else .ok (Path.join (Path.ofString h) (Path.relative rest))
        | none => .error .noHome
    else .ok p
  | _, _ => .ok p

end Environment

end ReportPress
