import DropletReconciler.Toml.Clock
import DropletReconciler.Toml.Draft
import DropletReconciler.Toml.Number

/-!
TOML documents, read line by line into a table. The first place where the document cannot go on is
its fault.
-/

namespace DropletReconciler.Toml

def isBlankOrLineEnd (c : Char) : Bool := isBlank c || c == '\n'

/-- Skips a comment, up to the end of its line. -/
def skipComment : List Char → Except Fault (List Char)
  | '#' :: rest =>
    if (rest.takeWhile (· ≠ '\n')).all (mayStand false) then .ok (rest.dropWhile (· ≠ '\n'))
    else .error .malformed
  | cs => .ok cs

/-- Skips blanks, line ends and comments; the fuel bounds the count of comments. -/
def skipSpace : (fuel : Nat) → List Char → Except Fault (List Char)
  | 0, cs => .ok cs
  | fuel + 1, cs =>
    match cs.dropWhile isBlankOrLineEnd with
    | '#' :: rest => do skipSpace fuel (← skipComment ('#' :: rest))
    | cs => .ok cs

/-- A value inside an array or an inline table, and what comes after it. -/
abbrev Result := Except Fault (Value × List Char)

def expected {α : Type} (reading : Reading α) : Except Fault (α × List Char) :=
  match reading with
  | some result => .ok result
  | none => .error .malformed

/-- Reads a value that holds no other values. -/
def readScalar (cs : List Char) : Result :=
  match readText cs with
  | some reading => do
    let (text, rest) ← expected reading
    pure (.text (String.ofList text), rest)
  | none =>
    match cs with
    | 't' :: 'r' :: 'u' :: 'e' :: rest => .ok (.bool true, rest)
    | 'f' :: 'a' :: 'l' :: 's' :: 'e' :: rest => .ok (.bool false, rest)
    | _ =>
      match readMoment cs with
      | some (moment, rest) =>
        if onCalendar moment then .ok (.moment moment, rest) else .error .malformed
      | none => (readNumber cs).getD (.error .malformed)

/-- The key of an entry, its equals sign, and what comes after the blanks behind it. -/
def readEntryKey (cs : List Char) : Except Fault (List String × List Char) := do
  let (key, rest) ← expected (readKey cs)
  match rest with
  | '=' :: rest => pure (key, skipBlanks rest)
  | _ => throw .malformed

/-- The room for nested values. Of the thousand frames that the stack has, fourteen are in use where
the reader comes to a value, and half of them belong to what is above the reader. That is so for a
program that loads its configuration from close to its entry; from deeper down there is less. -/
def nestingRoom : Nat := 986

/-- The room that an array takes. -/
def arrayRoom : Nat := 2

/-- The room that an inline table takes. -/
def tableRoom : Nat := 3

/-- What is left of the room behind one more value. -/
def leave (taken room : Nat) : Except Fault Nat :=
  if room < taken then .error .tooDeep else .ok (room - taken)

mutual

/-- Reads a value. The fuel bounds the steps, each of which takes a character or goes one level
down behind one. -/
def readValue : (fuel room : Nat) → List Char → Result
  | 0, _, _ => .error .malformed
  | fuel + 1, room, cs =>
    match cs with
    | '[' :: rest => do
      let room ← leave arrayRoom room
      match ← skipSpace rest.length rest with
      | ']' :: rest => pure (.list [], rest)
      | rest =>
        let (items, rest) ← readItems fuel room rest
        pure (.list items, rest)
    | '\x7b' :: rest => do
      let room ← leave tableRoom room
      match skipBlanks rest with
      | '\x7d' :: rest => pure (.table [], rest)
      | rest =>
        let (draft, rest) ← readEntries fuel room [] rest
        pure (.table draft.values, rest)
    | _ => readScalar cs

/-- Reads the items of an array and its closing bracket. -/
def readItems : (fuel room : Nat) → List Char → Except Fault (List Value × List Char)
  | 0, _, _ => .error .malformed
  | fuel + 1, room, cs => do
    let (item, rest) ← readValue fuel room cs
    match ← skipSpace rest.length rest with
    | ']' :: rest => pure ([item], rest)
    | ',' :: rest =>
      match ← skipSpace rest.length rest with
      | ']' :: rest => pure ([item], rest)
      | rest =>
        let (items, rest) ← readItems fuel room rest
        pure (item :: items, rest)
    | _ => throw .malformed

/-- Reads the entries of an inline table and its closing brace. -/
def readEntries : (fuel room : Nat) → Draft → List Char → Except Fault (Draft × List Char)
  | 0, _, _, _ => .error .malformed
  | fuel + 1, room, draft, cs => do
    let (key, rest) ← readEntryKey cs
    let (value, rest) ← readValue fuel room rest
    match Draft.assign 0 value key draft with
    | none => throw .malformed
    | some draft =>
      match skipBlanks rest with
      | '\x7d' :: rest => pure (draft, rest)
      | ',' :: rest => readEntries fuel room draft (skipBlanks rest)
      | _ => throw .malformed

end

/-- A document as far as it is read: the table that its entries go to, and the count of headers. -/
structure Progress where
  draft : Draft
  header : List String
  part : Nat

def Progress.start : Progress := ⟨[], [], 0⟩

def accepted {α : Type} (change : Option α) : Except Fault α :=
  match change with
  | some result => .ok result
  | none => .error .malformed

/-- Reads a header behind its opening brackets, whose count is that of the closing ones. -/
def readHeader (closing cs : List Char) : Except Fault (List String × List Char) := do
  let (key, rest) ← expected (readKey (skipBlanks cs))
  if closing.isPrefixOf rest then pure (key, rest.drop closing.length) else throw .malformed

/-- Reads a header or an entry, which starts with something other than a blank. -/
def readStatement (progress : Progress) (cs : List Char) :
    Except Fault (Progress × List Char) := do
  match cs with
  | '[' :: '[' :: rest =>
    let (key, rest) ← readHeader [']', ']'] rest
    let draft ← accepted (progress.draft.append key)
    pure (⟨draft, key, progress.part + 1⟩, rest)
  | '[' :: rest =>
    let (key, rest) ← readHeader [']'] rest
    let draft ← accepted (progress.draft.declare key)
    pure (⟨draft, key, progress.part + 1⟩, rest)
  | _ =>
    let (key, rest) ← readEntryKey cs
    let (value, rest) ← readValue (2 * rest.length + 2) nestingRoom rest
    let draft ← accepted
      (progress.draft.within (Draft.assign progress.part value key) progress.header)
    pure ({ progress with draft := draft }, rest)

/-- Reads lines up to the end of the document; the fuel bounds their count. -/
def readLines : (fuel : Nat) → Progress → List Char → Except Fault Draft
  | 0, progress, _ => .ok progress.draft
  | fuel + 1, progress, cs => do
    let cs := skipBlanks cs
    let (progress, cs) ←
      match cs with
      | [] => pure (progress, [])
      | c :: _ =>
        if c = '\n' ∨ c = '#' then pure (progress, cs) else readStatement progress cs
    match ← skipComment (skipBlanks cs) with
    | [] => pure progress.draft
    | '\n' :: rest => readLines fuel progress rest
    | _ => throw .malformed

/-- A line end of two characters counts as one. -/
def joinLineEnds : List Char → List Char
  | '\r' :: '\n' :: rest => '\n' :: joinLineEnds rest
  | c :: rest => c :: joinLineEnds rest
  | [] => []

def readChars (cs : List Char) : Except Fault Table := do
  let cs := joinLineEnds cs
  let draft ← readLines (cs.length + 1) Progress.start cs
  pure draft.values

/-- Reads a document from its bytes, which must be text. -/
def read (bytes : ByteArray) : Except Fault Table :=
  match String.fromUTF8? bytes with
  | some text => readChars text.toList
  | none => .error .notText

end DropletReconciler.Toml
