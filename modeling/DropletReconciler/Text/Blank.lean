/-!
Blank characters and the words between them.
-/

namespace DropletReconciler.Text

/-- Unicode white space together with the four separators U+001C to U+001F. -/
def isBlank (c : Char) : Bool :=
  let code := c.toNat
  (0x09 ≤ code && code ≤ 0x0d) || (0x1c ≤ code && code ≤ 0x20) || code == 0x85 || code == 0xa0 ||
    code == 0x1680 || (0x2000 ≤ code && code ≤ 0x200a) || code == 0x2028 || code == 0x2029 ||
    code == 0x202f || code == 0x205f || code == 0x3000

/-- Words read from right to left: the word still open, and those already closed. -/
structure WordSplit where
  current : List Char
  finished : List (List Char)

def WordSplit.close (split : WordSplit) : List (List Char) :=
  if split.current.isEmpty then split.finished else split.current :: split.finished

def WordSplit.push (c : Char) (split : WordSplit) : WordSplit :=
  if isBlank c then ⟨[], split.close⟩ else ⟨c :: split.current, split.finished⟩

/-- The maximal runs of characters that are not blank. -/
def words (cs : List Char) : List (List Char) :=
  (cs.foldr WordSplit.push ⟨[], []⟩).close

/-- A text without the blanks at both ends. -/
def trim (cs : List Char) : List Char :=
  ((cs.dropWhile isBlank).reverse.dropWhile isBlank).reverse

end DropletReconciler.Text
