import DropletReconciler.Text.Blank

/-!
Markup on a console: a tag in brackets starts a style, and one with a slash ends it. A slash alone
ends the style that started last.
-/

namespace DropletReconciler.Log.Markup

inductive Fault where
  | nothingOpen (position : Nat)
  | notOpen (tag : String) (position : Nat)
  deriving DecidableEq, Repr

def Fault.message : Fault → String
  | .nothingOpen position =>
    "closing tag '[/]' at position " ++ toString position ++ " has nothing to close"
  | .notOpen tag position =>
    "closing tag '[" ++ tag ++ "]' at position " ++ toString position ++
      " doesn't match any open tag"

/-- The text of a tag whose bracket stands right before. -/
def tagText? : List Char → Option (List Char)
  | [] => none
  | c :: rest =>
    if c.isLower || c = '#' || c = '/' || c = '@' then
      let inside := rest.takeWhile fun d => d ≠ '[' && d ≠ ']'
      if (rest.drop inside.length).head? = some ']' then some (c :: inside) else none
    else none

/-- The tags of a text with their positions. A bracket behind an odd count of backslashes starts
none. -/
def tagsFrom (position : Nat) (escaped : Bool) : List Char → List (Nat × List Char)
  | [] => []
  | c :: rest =>
    let later := tagsFrom (position + 1) (c = '\\' && !escaped) rest
    if c = '[' ∧ !escaped then (tagText? rest).elim later fun text => (position, text) :: later
    else later

/-- Styles that have a short name as well. -/
def shortNames : List (String × String) :=
  [("b", "bold"), ("c", "conceal"), ("d", "dim"), ("i", "italic"), ("o", "overline"),
    ("r", "reverse"), ("s", "strike"), ("u", "underline"), ("uu", "underline2")]

def styleOf (name : List Char) : String :=
  let word := String.ofList ((Text.trim name).map Char.toLower)
  (shortNames.lookup word).getD word

/-- The styles that are in use behind a tag, the latest first. -/
def step (styles : List String) (tag : Nat × List Char) : Except Fault (List String) :=
  match tag.2.takeWhile (· ≠ '=') with
  | '/' :: name =>
    if (Text.trim name).isEmpty then
      match styles with
      | [] => .error (.nothingOpen tag.1)
      | _ :: others => .ok others
    else if styles.contains (styleOf name) then .ok (styles.erase (styleOf name))
    else .error (.notOpen (String.ofList tag.2) tag.1)
  | name => .ok (styleOf name :: styles)

/-- Each tag with a slash must end a style that has started. -/
def check (text : String) : Except Fault Unit :=
  ((tagsFrom 0 false text.toList).foldlM step []).map fun _ => ()

end DropletReconciler.Log.Markup
