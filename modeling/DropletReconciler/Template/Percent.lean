import DropletReconciler.Template.Percent.Directive
import DropletReconciler.Value.Access

/-!
Percent templates. A directive takes its value from one source: the source itself, which can be
taken once, or one of its fields, named in brackets.
-/

namespace DropletReconciler.Template.Percent

inductive Fault where
  | incomplete
  | incompleteKey
  | noTable
  | misuse (fault : Value.Misuse)
  | tooFew
  | tooMany
  | countKind
  | widthRange
  | precisionRange
  | widthDigits
  | precisionDigits
  | directive (fault : DirectiveFault)
  deriving DecidableEq, Repr

def Fault.message : Fault → String
  | .incomplete => "incomplete format"
  | .incompleteKey => "incomplete format key"
  | .noTable => "format requires a mapping"
  | .misuse fault => fault.message
  | .tooFew => "not enough arguments for format string"
  | .tooMany => "not all arguments converted during string formatting"
  | .countKind => "* wants int"
  | .widthRange => "Python int too large to convert to C ssize_t"
  | .precisionRange => "Python int too large to convert to C int"
  | .widthDigits => "width too big"
  | .precisionDigits => "precision too big"
  | .directive fault => fault.message

/-- The source of values, and the value that the next directive takes. -/
structure Supply where
  source : Value
  next : Option Value

namespace Supply

def of (source : Value) : Supply := ⟨source, some source⟩

/-- Lists and tables are asked for fields, though lists have none. -/
def hasFields (s : Supply) : Bool :=
  match s.source with
  | .list _ | .table _ => true
  | _ => false

def take (s : Supply) : Except Fault (Value × Supply) :=
  match s.next with
  | some v => .ok (v, { s with next := none })
  | none => .error .tooFew

def field (s : Supply) (key : String) : Except Fault Supply :=
  match s.source.field key with
  | .ok v => .ok { s with next := some v }
  | .error fault => .error (.misuse fault)

end Supply

/-- Where the reader of a template stands, by what may come next. -/
inductive Stage where
  | plain
  | start
  | key (depth : Nat) (reversed : List Char)
  | flags
  | width
  | point
  | precision
  | precisionDigits
  | size
  | code
  deriving DecidableEq, Repr

structure Reader where
  stage : Stage
  supply : Supply
  directive : Directive
  reversed : List Char

namespace Reader

def start (source : Value) : Reader := ⟨.plain, Supply.of source, Directive.plain, []⟩

/-- A whole number that stands in place of digits. -/
def takeCount (r : Reader) : Except Fault (Int × Reader) := do
  let (v, supply) ← r.supply.take
  match v.whole? with
  | some n => pure (n, { r with supply := supply })
  | none => throw .countKind

/-- Another digit of a number that has a greatest value. -/
def addDigit (limit : Nat) (fault : Fault) (n : Nat) (c : Char) : Except Fault Nat :=
  let next := 10 * n + Numeral.asciiDigit c
  if limit < next then .error fault else .ok next

def atCode (r : Reader) (index : Nat) (c : Char) : Except Fault Reader := do
  let (v, supply) ← r.supply.take
  let cs ← (r.directive.layOut c index v).mapError .directive
  pure { r with stage := .plain, supply := supply, reversed := cs.reverse ++ r.reversed }

/-- A mark of size before the code says nothing. -/
def atSize (r : Reader) (index : Nat) (c : Char) : Except Fault Reader :=
  if c = 'h' ∨ c = 'l' ∨ c = 'L' then .ok { r with stage := .code } else r.atCode index c

def setPrecision (r : Reader) (stage : Stage) (n : Nat) : Reader :=
  { r with stage := stage, directive := { r.directive with precision := some n } }

def atPrecisionDigits (r : Reader) (index : Nat) (c : Char) : Except Fault Reader := do
  if c.isDigit then
    let n ← addDigit maxPrecision .precisionDigits (r.directive.precision.getD 0) c
    pure (r.setPrecision .precisionDigits n)
  else r.atSize index c

def atPrecision (r : Reader) (index : Nat) (c : Char) : Except Fault Reader := do
  if c = '*' then
    let (n, r) ← r.takeCount
    if n < -(maxPrecision + 1) ∨ maxPrecision < n then throw .precisionRange
    pure (r.setPrecision .size n.toNat)
  else r.atPrecisionDigits index c

def atPoint (r : Reader) (index : Nat) (c : Char) : Except Fault Reader :=
  if c = '.' then .ok (r.setPrecision .precision 0) else r.atSize index c

def setWidth (r : Reader) (stage : Stage) (n : Nat) : Reader :=
  { r with stage := stage, directive := { r.directive with width := n } }

def atWidthDigits (r : Reader) (index : Nat) (c : Char) : Except Fault Reader := do
  if c.isDigit then
    let n ← addDigit maxSize .widthDigits r.directive.width c
    pure (r.setWidth .width n)
  else r.atPoint index c

/-- A negative width that is taken from the values aligns to the left. -/
def atWidth (r : Reader) (index : Nat) (c : Char) : Except Fault Reader := do
  if c = '*' then
    let (n, r) ← r.takeCount
    if n < -(maxSize + 1) ∨ maxSize < n then throw .widthRange
    let r := r.setWidth .point n.natAbs
    pure { r with directive := { r.directive with left := r.directive.left || n < 0 } }
  else r.atWidthDigits index c

def atFlags (r : Reader) (index : Nat) (c : Char) : Except Fault Reader :=
  match r.directive.withFlag? c with
  | some d => .ok { r with stage := .flags, directive := d }
  | none => r.atWidth index c

def atStart (r : Reader) (index : Nat) (c : Char) : Except Fault Reader :=
  if c = '%' then .ok { r with stage := .plain, reversed := '%' :: r.reversed }
  else if c = '(' then
    if r.supply.hasFields then .ok { r with stage := .key 1 [] } else .error .noTable
  else r.atFlags index c

/-- Brackets inside a key come in pairs. -/
def atKey (r : Reader) (depth : Nat) (reversed : List Char) (c : Char) : Except Fault Reader := do
  if c = ')' then
    if depth ≤ 1 then
      let supply ← r.supply.field (String.ofList reversed.reverse)
      pure { r with stage := .flags, supply := supply }
    else pure { r with stage := .key (depth - 1) (c :: reversed) }
  else pure { r with stage := .key (if c = '(' then depth + 1 else depth) (c :: reversed) }

def step (r : Reader) (index : Nat) (c : Char) : Except Fault Reader :=
  match r.stage with
  | .plain =>
    if c = '%' then .ok { r with stage := .start, directive := Directive.plain }
    else .ok { r with reversed := c :: r.reversed }
  | .start => r.atStart index c
  | .key depth reversed => r.atKey depth reversed c
  | .flags => r.atFlags index c
  | .width => r.atWidthDigits index c
  | .point => r.atPoint index c
  | .precision => r.atPrecision index c
  | .precisionDigits => r.atPrecisionDigits index c
  | .size => r.atSize index c
  | .code => r.atCode index c

/-- The text read so far, at the end of a template. A source without fields must be taken. -/
def text (r : Reader) : Except Fault String :=
  match r.stage with
  | .plain =>
    if r.supply.next.isSome && !r.supply.hasFields then .error .tooMany
    else .ok (String.ofList r.reversed.reverse)
  | .key _ _ => .error .incompleteKey
  | _ => .error .incomplete

end Reader

def fill (template : String) (source : Value) : Except Fault String := do
  let r ← template.toList.zipIdx.foldlM (fun r (c, index) => r.step index c) (Reader.start source)
  r.text

end DropletReconciler.Template.Percent
