/-!
Levels of log messages, as numbers and by name.
-/

namespace DropletReconciler.Log

inductive Severity where
  | trace
  | debug
  | info
  | warning
  | error
  deriving DecidableEq, Repr

def Severity.number : Severity → Int
  | .trace => 5
  | .debug => 10
  | .info => 20
  | .warning => 30
  | .error => 40

def Severity.name : Severity → String
  | .trace => "TRACE"
  | .debug => "DEBUG"
  | .info => "INFO"
  | .warning => "WARNING"
  | .error => "ERROR"

/-- The levels that a handler can be given by name. -/
def levels : List (String × Int) :=
  [("CRITICAL", 50), ("FATAL", 50), ("ERROR", 40), ("WARN", 30), ("WARNING", 30), ("INFO", 20),
    ("DEBUG", 10), ("NOTSET", 0), ("TRACE", 5)]

/-- The capital of a letter whose capital is in ASCII. -/
def capital (c : Char) : Char :=
  if c = 'ı' then 'I' else if c = 'ſ' then 'S' else c.toUpper

/-- The level with a name in letters of either case; the lowest usual one for other names. -/
def levelNamed (name : String) : Int :=
  (levels.lookup (String.ofList (name.toList.map capital))).getD Severity.debug.number

end DropletReconciler.Log
