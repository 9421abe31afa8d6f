import DropletReconciler.Text.DecimalDigit

/-!
Names of replacement fields: a first part, then members after points and items in brackets.
-/

namespace DropletReconciler.Template

/-- A name that cannot be followed to its end. -/
inductive PathFault where
  | tooManyDigits
  | emptyPart
  | unclosedItem
  | afterItem
  deriving DecidableEq, Repr

def PathFault.message : PathFault → String
  | .tooManyDigits => "Too many decimal digits in format string"
  | .emptyPart => "Empty attribute in format string"
  | .unclosedItem => "Missing ']' in format string"
  | .afterItem => "Only '.' or '[' may follow ']' in format field specifier"

def maxIndex : Nat := 9223372036854775807

/-- A part of a name as an index, when it consists of decimal digits. -/
def readIndex (part : List Char) : Except PathFault (Option Nat) :=
  if part.isEmpty then .ok none
  else go 0 part
where
  go (index : Nat) : List Char → Except PathFault (Option Nat)
    | [] => .ok (some index)
    | c :: rest =>
      match Text.digitValue? c with
      | none => .ok none
      | some digit =>
        let next := 10 * index + digit
        if maxIndex < next then .error .tooManyDigits else go next rest

def startsPart (c : Char) : Bool := c = '.' || c = '['

def firstPart (name : List Char) : List Char := name.takeWhile fun c => !startsPart c

def laterParts (name : List Char) : List Char := name.dropWhile fun c => !startsPart c

inductive Step where
  | member (name : String)
  | key (name : String)
  | index (n : Nat)
  deriving DecidableEq, Repr

/-- The steps that can be read, and the fault after them. -/
structure Steps where
  steps : List Step
  fault : Option PathFault

def Steps.stop (fault : PathFault) : Steps := ⟨[], some fault⟩

def Steps.push (step : Step) (rest : Steps) : Steps := { rest with steps := step :: rest.steps }

/-- The part of a path that is being read; its characters are kept in reverse. -/
inductive PathMode where
  | between
  | member (read : List Char)
  | item (read : List Char)

def pushMember (read : List Char) (rest : Steps) : Steps :=
  if read.isEmpty then .stop .emptyPart else rest.push (.member (String.ofList read.reverse))

def pushItem (read : List Char) (rest : Steps) : Steps :=
  match readIndex read.reverse with
  | .error fault => .stop fault
  | .ok (some n) => rest.push (.index n)
  | .ok none =>
    if read.isEmpty then .stop .emptyPart else rest.push (.key (String.ofList read.reverse))

def readSteps : PathMode → List Char → Steps
  | .between, [] => ⟨[], none⟩
  | .member read, [] => pushMember read ⟨[], none⟩
  | .item _, [] => .stop .unclosedItem
  | .between, c :: rest =>
    if c = '.' then readSteps (.member []) rest
    else if c = '[' then readSteps (.item []) rest
    else .stop .afterItem
  | .member read, c :: rest =>
    if c = '.' then pushMember read (readSteps (.member []) rest)
    else if c = '[' then pushMember read (readSteps (.item []) rest)
    else readSteps (.member (c :: read)) rest
  | .item read, c :: rest =>
    if c = ']' then pushItem read (readSteps .between rest) else readSteps (.item (c :: read)) rest

end DropletReconciler.Template
