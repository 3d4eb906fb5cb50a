/-!
Why a stored template cannot be read: which field of the payload is at fault and what it has to be.
-/

namespace ReportPress

namespace Template

/-- what a field has to be -/
inductive Need where
  | text
  | number
  | boolean
  | mapping
  | point
  | size
  | list
  | oneOf (choices : List String)
deriving DecidableEq, Repr

def Need.phrase : Need → String
  | .text => "a non-empty string"
  | .number => "a number"
  | .boolean => "a boolean"
  | .mapping => "a mapping"
  | .point => "a mapping with x and y"
  | .size => "a mapping with width and height"
  | .list => "a list"
  | .oneOf choices => "one of " ++ ", ".intercalate choices

inductive Fault where
  | must (field : String) (need : Need)
  | required (field : String)
  /-- a file whose text is no template, with the cause in words -/
  | inFile (file cause : String)
deriving DecidableEq, Repr

def Fault.message : Fault → String
  | .must field need => field ++ " must be " ++ need.phrase
  | .required field => field ++ " is required"
  | .inFile file cause => file ++ ": " ++ cause

end Template

/-- why a table component's content describes no table -/
inductive TableFault where
  | content
  | columns
  | noColumn
  | column (index : Nat)
  | columnField (index : Nat)
deriving DecidableEq, Repr

def TableFault.message : TableFault → String
  | .content => "table content must be a mapping with columns"
  | .columns => "table content requires a columns list"
  | .noColumn => "table content requires at least one column"
  | .column i => "table column " ++ Nat.repr i ++ " must be a mapping"
  | .columnField i => "table column " ++ Nat.repr i ++ " field must be a string"

end ReportPress
