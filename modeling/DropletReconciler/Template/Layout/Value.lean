import DropletReconciler.Template.Layout.Whole

/-!
Values in a layout: texts, truth values and numbers. Other values have no layout but the empty one.
-/

namespace DropletReconciler.Template

def Layout.ofText (layout : Layout) (s : String) : Except LayoutFault (List Char) :=
  match layout.presentation with
  | some 's' =>
    if layout.sign = some ' ' then .error .textSpace
    else if layout.sign.isSome then .error .textSign
    else if layout.positiveZero then .error .textZero
    else if layout.alternate then .error .textAlternate
    else if layout.align = .afterSign then .error .textAlign
    else
      let cs := s.toList
      layout.checked fun () => layout.pad (match layout.precision with
        | some count => cs.take count
        | none => cs)
  | some code => .error (.unknownCode code .text)
  | none => .error (.unknownCode 's' .text)

/-- A value in the layout that a specifier gives; an empty one leaves its usual text. -/
def layOut (v : Value) (spec : List Char) : Except LayoutFault (List Char) :=
  if spec.isEmpty then (v.write.mapError .tooLong).map String.toList
  else
    match v with
    | .text s => do (← Layout.read .text spec).ofText s
    | .int n => do (← Layout.read .int spec).ofWhole .int n
    | .bool b => do (← Layout.read .bool spec).ofWhole .bool (if b then 1 else 0)
    | .float x => do
      let layout ← Layout.read .float spec
      match layout.presentation with
      | none => layout.ofFloat x
      | some '\x00' => Layout.ofFloat { layout with presentation := none } x
      | some code =>
        if isFloatCode code ∨ code = 'n' then layout.ofFloat x
        else .error (.unknownCode code .float)
    | v => .error (.unsupported v.kind.word)

end DropletReconciler.Template
