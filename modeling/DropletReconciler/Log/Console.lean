import DropletReconciler.Log.Lines

/-!
What a console asks of an entry before it shows it.
-/

namespace DropletReconciler.Log.Entry

/-- The three values that an error is given by. -/
def three (error : Value) : Except EntryFault (Value × Value × Value) :=
  match error.items with
  | .ok [first, second, third] => .ok (first, second, third)
  | .ok items =>
    .error (if items.length < 3 then .fewerThanThree items.length else .moreThanThree)
  | .error _ => .error (.notThree error.kind)

/-- A console shows the errors that are bound to an entry in detail, and no value has any. -/
def checkError (entry : Entry) : Except EntryFault Unit := do
  let error ← entry.part .error
  if error.isPresent && !entry.ownError then
    let (first, second, _) ← three error
    if first = .null ∨ second = .null then throw .noError
    throw (.misuse (.noMember first.kind "__name__"))

/-- No value can highlight a text. -/
def checkHighlighter (entry : Entry) : Except EntryFault Unit := do
  if entry.asks .highlighter then
    throw (.notCallable (← entry.part .highlighter).kind)

def checkText (v : Value) (fault : Value.Kind → EntryFault) : Except EntryFault Unit :=
  match v with
  | .text _ => .ok ()
  | v => .error (fault v.kind)

/-- All that a console asks, in the order of asking. -/
def checkConsole (entry : Entry) : Except EntryFault Unit := do
  let text ← entry.withTail (← entry.message)
  entry.checkError
  if entry.asks .markup then (Markup.check text).mapError .markup
  entry.checkHighlighter
  checkText (← entry.part .path) .notPath
  checkText (← entry.part .level) fun kind => .misuse (.noMember kind "ljust")
  (Instant.checkCalendar (← entry.part .created)).mapError .instant
  let _ ← entry.part .line

end DropletReconciler.Log.Entry
