/-!
Texts and keys of a TOML document. A basic text stands between double quotes and has escapes; a
literal text stands between single quotes and has none. Each has a form over several lines between
three quotes.
-/

namespace DropletReconciler.Toml

/-- What could be read, and the characters after it. -/
abbrev Reading (α : Type) := Option (α × List Char)

def isBlank (c : Char) : Bool := c == ' ' || c == '\t'

def isControl (c : Char) : Bool := c.toNat < 0x20 || c.toNat == 0x7f

/-- Control characters other than the tab, and the line end outside the forms over several lines,
must be escaped. -/
def mayStand (multiline : Bool) (c : Char) : Bool :=
  !isControl c || c == '\t' || (multiline && c == '\n')

def skipBlanks (cs : List Char) : List Char := cs.dropWhile isBlank

def hexValue? (c : Char) : Option Nat :=
  if '0' ≤ c ∧ c ≤ '9' then some (c.toNat - '0'.toNat)
  else if 'a' ≤ c ∧ c ≤ 'f' then some (c.toNat - 'a'.toNat + 10)
  else if 'A' ≤ c ∧ c ≤ 'F' then some (c.toNat - 'A'.toNat + 10)
  else none

/-- The character that an escape of one letter stands for. -/
def escaped? : Char → Option Char
  | 'b' => some '\x08'
  | 't' => some '\t'
  | 'n' => some '\n'
  | 'f' => some '\x0c'
  | 'r' => some '\r'
  | '"' => some '"'
  | '\\' => some '\\'
  | _ => none

/-- A code point as a character, unless it is a surrogate or too large. -/
def scalar? (code : Nat) : Option Char :=
  if code.isValidChar then some (Char.ofNat code) else none

/-- What the reader of a basic text is in the middle of. -/
inductive BasicMode where
  | plain
  | escape
  /-- Hexadecimal digits: how many follow, and the value of those before. -/
  | code (left value : Nat)
  /-- Blanks between a backslash and the end of its line. -/
  | lineEnd
  /-- Blanks and line ends after a line that ends in a backslash. -/
  | margin

/-- The mode after the letter of an escape, or the character that the escape stands for. -/
def afterBackslash (multiline : Bool) (c : Char) : Option (BasicMode ⊕ Char) :=
  if multiline ∧ c = '\n' then some (.inl .margin)
  else if multiline ∧ isBlank c then some (.inl .lineEnd)
  else if c = 'u' then some (.inl (.code 4 0))
  else if c = 'U' then some (.inl (.code 8 0))
  else (escaped? c).map .inr

/-- Reads a basic text behind its opening quotes; what was read is kept in reverse. -/
def readBasic (multiline : Bool) : BasicMode → List Char → List Char → Reading (List Char)
  | _, _, [] => none
  | .escape, acc, c :: rest =>
    match afterBackslash multiline c with
    | some (.inl mode) => readBasic multiline mode acc rest
    | some (.inr d) => readBasic multiline .plain (d :: acc) rest
    | none => none
  | .code left value, acc, c :: rest =>
    match hexValue? c with
    | none => none
    | some digit =>
      if left ≤ 1 then
        match scalar? (16 * value + digit) with
        | some d => readBasic multiline .plain (d :: acc) rest
        | none => none
      else readBasic multiline (.code (left - 1) (16 * value + digit)) acc rest
  | .lineEnd, acc, c :: rest =>
    if isBlank c then readBasic multiline .lineEnd acc rest
    else if c = '\n' then readBasic multiline .margin acc rest
    else none
  | mode, acc, c :: rest =>
    if mode matches .margin ∧ (isBlank c ∨ c = '\n') then readBasic multiline .margin acc rest
    else if c = '\\' then readBasic multiline .escape acc rest
    else if c = '"' then
      if multiline then
        match rest with
        | '"' :: '"' :: rest => some (acc.reverse, rest)
        | _ => readBasic multiline .plain ('"' :: acc) rest
      else some (acc.reverse, rest)
    else if mayStand multiline c then readBasic multiline .plain (c :: acc) rest
    else none

/-- Reads a literal text of one line behind its opening quote. -/
def readLiteral (cs : List Char) : Reading (List Char) :=
  let body := cs.takeWhile (· ≠ '\'')
  match cs.dropWhile (· ≠ '\'') with
  | [] => none
  | _ :: rest => if body.all (mayStand false) then some (body, rest) else none

/-- Reads a literal text of several lines behind its opening quotes. -/
def readLongLiteral : List Char → Reading (List Char)
  | '\'' :: '\'' :: '\'' :: rest => some ([], rest)
  | c :: rest =>
    if mayStand true c then
      (readLongLiteral rest).map fun (body, after) => (c :: body, after)
    else none
  | [] => none

/-- Up to two quotes before the closing ones belong to a text of several lines. -/
def withClosingQuotes (quote : Char) (body rest : List Char) : List Char × List Char :=
  match rest with
  | c :: d :: after =>
    if c = quote ∧ d = quote then (body ++ [c, d], after)
    else if c = quote then (body ++ [c], d :: after)
    else (body, rest)
  | [c] => if c = quote then (body ++ [c], []) else (body, rest)
  | [] => (body, rest)

/-- A line end right behind the opening quotes does not belong to the text. -/
def dropFirstLineEnd : List Char → List Char
  | '\n' :: rest => rest
  | cs => cs

/-- Reads a text in any of its forms; `none` when none stands here. -/
def readText : List Char → Option (Reading (List Char))
  | '"' :: '"' :: '"' :: rest =>
    some ((readBasic true .plain [] (dropFirstLineEnd rest)).map fun (body, after) =>
      withClosingQuotes '"' body after)
  | '"' :: rest => some (readBasic false .plain [] rest)
  | '\'' :: '\'' :: '\'' :: rest =>
    some ((readLongLiteral (dropFirstLineEnd rest)).map fun (body, after) =>
      withClosingQuotes '\'' body after)
  | '\'' :: rest => some (readLiteral rest)
  | _ => none

def isBareKeyChar (c : Char) : Bool := c.isAlphanum || c == '-' || c == '_'

def readKeyPart (cs : List Char) : Reading String :=
  match cs with
  | '"' :: rest => (readBasic false .plain [] rest).map fun (part, after) =>
    (String.ofList part, after)
  | '\'' :: rest => (readLiteral rest).map fun (part, after) => (String.ofList part, after)
  | _ =>
    let part := cs.takeWhile isBareKeyChar
    if part.isEmpty then none else some (String.ofList part, cs.dropWhile isBareKeyChar)

/-- Reads a key of parts divided by points; the fuel bounds their count. -/
def readKeyParts : (fuel : Nat) → List Char → Option (List String × List Char)
  | 0, _ => none
  | fuel + 1, cs => do
    let (part, rest) ← readKeyPart cs
    match skipBlanks rest with
    | '.' :: rest =>
      let (parts, rest) ← readKeyParts fuel (skipBlanks rest)
      pure (part :: parts, rest)
    | rest => pure ([part], rest)

def readKey (cs : List Char) : Reading (List String) := readKeyParts (cs.length + 1) cs

end DropletReconciler.Toml
