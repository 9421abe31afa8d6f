import DropletReconciler.Value

/-!
Names of loggers and their hierarchy. A name belongs under each of its parts that end before a
point; when two points stand together the first does not count.
-/

namespace DropletReconciler.Log

/-- The logger of the library, below which all its loggers are. -/
def libraryName : String := "dropletsync"

/-- The top of the hierarchy, which also goes without a name. -/
def topName : String := "root"

/-- The names above a name, which is given in reverse; the nearest first. -/
def namesAbove : List Char → List (List Char)
  | '.' :: c :: rest => (c :: rest).reverse :: namesAbove rest
  | _ :: rest => namesAbove rest
  | [] => []

/-- A logger of the library. -/
def isLibrary (name : String) : Bool :=
  name == libraryName || (namesAbove name.toList.reverse).contains libraryName.toList

/-- The name that a logger is kept under. -/
def loggerNamed (name : String) : String := if name.isEmpty then topName else name

/-- The lowest level that a logger takes; outside the library it is that of warnings. -/
def threshold (name : String) : Int := if isLibrary name then 5 else 30

/-- The logger that a value names; absent values name the top. -/
def loggerOf (v : Value) : Option String :=
  match v with
  | .text name => some (loggerNamed name)
  | v => if v.isPresent then none else some topName

end DropletReconciler.Log
