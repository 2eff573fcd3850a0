/-!
# Data

What a document of settings holds, in the form that the notations for such documents share.
-/

namespace LogicalBackup

/-- A value in a document, with all that it holds. -/
inductive Datum where
  | null
  | bool (b : Bool)
  | integer (n : Int)
  /-- A number that is no integer, in its own text. -/
  | real (text : String)
  | string (s : String)
  /-- A date or a time, in its own text. -/
  | moment (text : String)
  | array (items : List Datum)
  | object (entries : List (String × Datum))
  deriving Inhabited

end LogicalBackup
