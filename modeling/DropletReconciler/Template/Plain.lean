import DropletReconciler.Value.Text

/-!
Plain templates: text and named fields, nothing else.
-/

namespace DropletReconciler.Template

inductive Part where
  | text (s : String)
  | field (name : String)
  deriving DecidableEq, Repr

abbrev Plain := List Part

/-- A brace is written twice. -/
def doubled (c : Char) : List Char := if c = '\x7b' ∨ c = '\x7d' then [c, c] else [c]

def Part.source : Part → List Char
  | .text s => s.toList.flatMap doubled
  | .field name => '\x7b' :: (name.toList ++ ['\x7d'])

/-- The template as it is written. -/
def Plain.source (t : Plain) : String := String.ofList (t.flatMap Part.source)

/-- A field shows the value of its name, and nothing when the name has none. -/
def Part.render (named : Table) : Part → String
  | .text s => s
  | .field name => ((Table.get? name named).map Value.written).getD ""

def Plain.render (named : Table) (t : Plain) : String := String.join (t.map (Part.render named))

end DropletReconciler.Template
