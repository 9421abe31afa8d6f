/-!
Templates as pieces. A replacement field stands between braces, and a doubled brace is a brace.
A scan always yields the pieces before the first fault together with that fault.
-/

namespace DropletReconciler.Template

/-- A place where no template can go on. -/
inductive ScanFault where
  | loneOpening
  | loneClosing
  | openingInName
  | unclosedField
  | unclosedLayout
  | noConversion
  | afterConversion
  deriving DecidableEq, Repr

def ScanFault.message : ScanFault → String
  | .loneOpening => "Single '\x7b' encountered in format string"
  | .loneClosing => "Single '\x7d' encountered in format string"
  | .openingInName => "unexpected '\x7b' in field name"
  | .unclosedField => "expected '\x7d' before end of string"
  | .unclosedLayout => "unmatched '\x7b' in format spec"
  | .noConversion => "end of string while looking for conversion specifier"
  | .afterConversion => "expected ':' after conversion specifier"

/-- A replacement field as written: `name!conversion:layout`. -/
structure Field where
  name : List Char
  conversion : Option Char
  layout : List Char
  deriving DecidableEq, Repr

inductive Piece where
  | literal (c : Char)
  | field (f : Field)
  deriving DecidableEq, Repr

structure Scanned where
  pieces : List Piece
  fault : Option ScanFault
  deriving DecidableEq, Repr

def Scanned.stop (fault : ScanFault) : Scanned := ⟨[], some fault⟩

def Scanned.push (piece : Piece) (rest : Scanned) : Scanned :=
  { rest with pieces := piece :: rest.pieces }

/-- What the scanner is in the middle of. Texts being read are kept in reverse. -/
inductive Mode where
  | outside
  | afterOpening
  | afterClosing
  | name (read : List Char)
  | index (read : List Char)
  | conversion (name : List Char)
  | afterConversion (name : List Char) (code : Char)
  | layout (name : List Char) (code : Option Char) (read : List Char) (depth : Nat)
  deriving DecidableEq, Repr

/-- What one character does: it may complete a piece, and it leaves the scanner in a mode. -/
inductive Move where
  | go (mode : Mode)
  | emit (piece : Piece)
  | stop (fault : ScanFault)

def Mode.inName (read : List Char) (c : Char) : Move :=
  match c with
  | '\x7b' => .stop .openingInName
  | '\x7d' => .emit (.field ⟨read.reverse, none, []⟩)
  | '[' => .go (.index (c :: read))
  | '!' => .go (.conversion read.reverse)
  | ':' => .go (.layout read.reverse none [] 0)
  | c => .go (.name (c :: read))

/-- Braces inside a layout nest; `depth` counts those that are open. -/
def Mode.inLayout (label : List Char) (code : Option Char) (read : List Char) (depth : Nat)
    (c : Char) : Move :=
  match c, depth with
  | '\x7d', 0 => .emit (.field ⟨label, code, read.reverse⟩)
  | '\x7d', depth + 1 => .go (.layout label code (c :: read) depth)
  | '\x7b', depth => .go (.layout label code (c :: read) (depth + 1))
  | c, depth => .go (.layout label code (c :: read) depth)

def Mode.step (mode : Mode) (c : Char) : Move :=
  match mode with
  | .outside =>
    if c = '\x7b' then .go .afterOpening
    else if c = '\x7d' then .go .afterClosing
    else .emit (.literal c)
  | .afterOpening => if c = '\x7b' then .emit (.literal c) else Mode.inName [] c
  | .afterClosing => if c = '\x7d' then .emit (.literal c) else .stop .loneClosing
  | .name read => Mode.inName read c
  | .index read => .go (if c = ']' then .name (c :: read) else .index (c :: read))
  | .conversion label => .go (.afterConversion label c)
  | .afterConversion label code =>
    if c = '\x7d' then .emit (.field ⟨label, some code, []⟩)
    else if c = ':' then .go (.layout label (some code) [] 0)
    else .stop .afterConversion
  | .layout label code read depth => Mode.inLayout label code read depth c

/-- The fault of a template that ends in a mode. -/
def Mode.atEnd : Mode → Option ScanFault
  | .outside => none
  | .afterOpening => some .loneOpening
  | .afterClosing => some .loneClosing
  | .name _ => some .unclosedField
  | .index _ => some .unclosedField
  | .conversion _ => some .noConversion
  | .afterConversion _ _ => some .unclosedLayout
  | .layout _ _ _ _ => some .unclosedLayout

def scanFrom : Mode → List Char → Scanned
  | mode, [] => ⟨[], mode.atEnd⟩
  | mode, c :: rest =>
    match mode.step c with
    | .go next => scanFrom next rest
    | .emit piece => (scanFrom .outside rest).push piece
    | .stop fault => .stop fault

def scan (template : List Char) : Scanned := scanFrom .outside template

end DropletReconciler.Template
