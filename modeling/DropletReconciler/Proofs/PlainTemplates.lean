import DropletReconciler.Proofs.Tables
import DropletReconciler.Report
import Mathlib.Data.List.TakeWhile

/-!
# Plain templates

A plain template is filled with the texts of its values, one after another. Whatever braces stand in
its own text are doubled, and what stands in a value is not looked at again (`format_source`).
-/

namespace DropletReconciler.Template

variable {c : Char} {cs read rest : List Char} {name : String} {v : Value} {named : Table}
  {part : Part} {t : Plain} {args : Arguments} {expand : Expand} {numbering : Numbering}

/-- The characters that end or divide the name of a field. -/
def marks : List Char := ['\x7b', '\x7d', '[', '.', '!', ':']

/-- A name that a field can have as it is. -/
structure IsFieldName (name : String) : Prop where
  ne_empty : name ≠ ""
  unmarked : ∀ c ∈ name.toList, c ∉ marks
  notNumber : ∀ c ∈ name.toList.head?, Text.digitValue? c = none

theorem IsFieldName.exists_cons (h : IsFieldName name) :
    ∃ c cs, name.toList = c :: cs ∧ Text.digitValue? c = none := by
  cases hlist : name.toList with
  | nil => exact absurd (String.toList_eq_nil_iff.mp hlist) h.ne_empty
  | cons c cs => exact ⟨c, cs, rfl, h.notNumber c (by rw [hlist]; rfl)⟩

/-- Letters, digits and underscores. Which characters beyond ASCII are letters is left open. -/
def isNameChar (c : Char) : Bool := c.isAlphanum || c == '_' || 128 ≤ c.toNat

theorem not_mem_marks_of_isNameChar (hc : isNameChar c = true) : c ∉ marks := by
  intro hmark
  have hcases : c = '\x7b' ∨ c = '\x7d' ∨ c = '[' ∨ c = '.' ∨ c = '!' ∨ c = ':' := by
    simpa [marks] using hmark
  obtain rfl | rfl | rfl | rfl | rfl | rfl := hcases <;> exact absurd hc (by decide)

/-- Identifiers are names of fields: they consist of letters, digits and underscores, and do not begin
with a digit. -/
theorem isFieldName_of_identifier (c : Char) (cs : List Char) (hfirst : Text.digitValue? c = none)
    (hall : (c :: cs).all isNameChar = true) : IsFieldName (String.ofList (c :: cs)) where
  ne_empty := by simp
  unmarked d hd := by
    rw [String.toList_ofList] at hd
    exact not_mem_marks_of_isNameChar (List.all_eq_true.mp hall d hd)
  notNumber d hd := by
    rw [String.toList_ofList] at hd
    obtain rfl := Option.some.inj hd
    exact hfirst

/-! ### Scanning -/

/-- What the scanner finds in a part. -/
def Part.pieces : Part → List Piece
  | .text s => s.toList.map .literal
  | .field name => [.field ⟨name.toList, none, []⟩]

/-- A field has a name that stands for itself. -/
def Part.WellNamed : Part → Prop
  | .text _ => True
  | .field name => IsFieldName name

/-- A field has a name that stands in a table. -/
def Part.NamedIn (named : Table) : Part → Prop
  | .text _ => True
  | .field name => name ∈ Table.keys named

theorem scanFrom_doubled (c : Char) (rest : List Char) :
    scanFrom .outside (doubled c ++ rest) = (scanFrom .outside rest).push (.literal c) := by
  by_cases hopening : c = '\x7b'
  · subst hopening
    rfl
  · by_cases hclosing : c = '\x7d'
    · subst hclosing
      rfl
    · have hsingle : doubled c = [c] := if_neg (by simp [hopening, hclosing])
      have hstep : Mode.outside.step c = .emit (.literal c) := by
        rw [Mode.step, if_neg hopening, if_neg hclosing]
      rw [hsingle, List.singleton_append, scanFrom, hstep]

theorem inName_of_unmarked (hc : c ∉ marks) : Mode.inName read c = .go (.name (c :: read)) := by
  unfold Mode.inName
  split <;> first | rfl | exact absurd (by decide) hc

theorem scanFrom_name (hcs : ∀ c ∈ cs, c ∉ marks) :
    scanFrom (.name read) (cs ++ '\x7d' :: rest) =
      (scanFrom .outside rest).push (.field ⟨read.reverse ++ cs, none, []⟩) := by
  induction cs generalizing read with
  | nil =>
    rw [List.append_nil]
    rfl
  | cons c cs ih =>
    obtain ⟨hc, hcs⟩ := List.forall_mem_cons.mp hcs
    have hstep : (Mode.name read).step c = .go (.name (c :: read)) := inName_of_unmarked hc
    rw [List.cons_append, scanFrom, hstep]
    dsimp only
    rw [ih hcs, List.reverse_cons, List.append_assoc]
    rfl

theorem scanFrom_part (h : part.WellNamed) (rest : List Char) :
    scanFrom .outside (part.source ++ rest) =
      part.pieces.foldr Scanned.push (scanFrom .outside rest) := by
  cases part with
  | text s =>
    rw [Part.source, Part.pieces]
    induction s.toList with
    | nil => rfl
    | cons c cs ih =>
      rw [List.flatMap_cons, List.append_assoc, scanFrom_doubled, ih]
      rfl
  | field name =>
    obtain ⟨c, cs, hlist, -⟩ := IsFieldName.exists_cons h
    have hmarks := IsFieldName.unmarked h
    rw [hlist] at hmarks
    obtain ⟨hc, hcs⟩ := List.forall_mem_cons.mp hmarks
    have hbrace : c ≠ '\x7b' := fun heq => hc (heq ▸ by decide)
    have hopened : Mode.afterOpening.step c = .go (.name [c]) := by
      rw [Mode.step, if_neg hbrace, inName_of_unmarked hc]
    have hsource : Part.source (.field name) ++ rest = '\x7b' :: c :: (cs ++ '\x7d' :: rest) := by
      rw [Part.source, hlist]
      simp
    have hopening : Mode.outside.step '\x7b' = .go .afterOpening := rfl
    rw [hsource, scanFrom, hopening]
    dsimp only
    rw [scanFrom, hopened]
    dsimp only
    rw [scanFrom_name hcs, Part.pieces, hlist]
    rfl

theorem foldr_push_pieces (pieces : List Piece) (scanned : Scanned) :
    pieces.foldr Scanned.push scanned = ⟨pieces ++ scanned.pieces, scanned.fault⟩ := by
  induction pieces with
  | nil => rfl
  | cons piece pieces ih =>
    rw [List.foldr_cons, ih]
    rfl

/-- A plain template is scanned as the pieces of its parts. -/
theorem scan_source (h : ∀ part ∈ t, part.WellNamed) :
    scan t.source.toList = ⟨t.flatMap Part.pieces, none⟩ := by
  rw [Plain.source, String.toList_ofList, scan]
  induction t with
  | nil => rfl
  | cons part t ih =>
    obtain ⟨hpart, ht⟩ := List.forall_mem_cons.mp h
    rw [List.flatMap_cons, scanFrom_part hpart, ih ht, foldr_push_pieces, List.flatMap_cons]

/-! ### Filling -/

/-- The text of a part, where a numeral in a value may be too long to be written. -/
def Part.write (named : Table) : Part → Except Numeral.TooLong String
  | .text s => .ok s
  | .field name => ((Table.get? name named).map Value.write).getD (.ok "")

/-- The texts of all parts, one after another. -/
def Plain.write (named : Table) (t : Plain) : Except Numeral.TooLong String :=
  (t.mapM (Part.write named)).map String.join

/-- A name without marks has no further parts. -/
theorem parts_of_unmarked (hcs : ∀ c ∈ cs, c ∉ marks) : firstPart cs = cs ∧ laterParts cs = [] := by
  have hstarts : ∀ c ∈ cs, (!startsPart c) = true := by
    intro c hc
    have hmark := hcs c hc
    simp only [marks, List.mem_cons, not_or] at hmark
    simp [startsPart, hmark]
  exact ⟨List.takeWhile_eq_self_iff.mpr hstarts, List.dropWhile_eq_nil_iff.mpr hstarts⟩

theorem readIndex_cons_of_not_digit (hc : Text.digitValue? c = none) (cs : List Char) :
    readIndex (c :: cs) = .ok none := by
  rw [readIndex, if_neg (by simp), readIndex.go, hc]

theorem first_name (hname : IsFieldName name) (hvalue : Table.get? name args.named = some v) :
    args.first numbering name.toList = .ok (v, numbering) := by
  obtain ⟨c, cs, hlist, hdigit⟩ := hname.exists_cons
  have hnamed : args.namedAs (String.ofList name.toList) = .ok v := by
    rw [String.ofList_toList, Arguments.namedAs, hvalue]
    rfl
  rw [hlist] at hnamed ⊢
  unfold Arguments.first
  rw [readIndex_cons_of_not_digit hdigit]
  change ((args.namedAs (String.ofList (c :: cs))) >>= fun v => pure (v, numbering)) = _
  rw [hnamed]
  rfl

theorem fillField_name (hname : IsFieldName name) (hvalue : Table.get? name args.named = some v) :
    fillField args expand numbering ⟨name.toList, none, []⟩ =
      (v.write.mapError Fault.tooLong).map fun s => (s.toList, numbering) := by
  obtain ⟨hfirst, hlater⟩ := parts_of_unmarked hname.unmarked
  rw [fillField, hfirst, hlater, first_name hname hvalue]
  change (((v.write.mapError LayoutFault.tooLong).map String.toList).mapError Fault.layout >>=
    fun cs => pure (cs, numbering)) = _
  cases v.write <;> rfl

theorem fillPieces_literals (cs : List Char) (rest : List Piece) :
    fillPieces args expand numbering (cs.map .literal ++ rest) =
      (fillPieces args expand numbering rest).map fun filled => (cs ++ filled.1, filled.2) := by
  induction cs with
  | nil =>
    rw [List.map_nil, List.nil_append]
    cases fillPieces args expand numbering rest <;> rfl
  | cons c cs ih =>
    rw [List.map_cons, List.cons_append, fillPieces, ih]
    cases fillPieces args expand numbering rest <;> rfl

/-- The text of a part comes before what the pieces behind it are filled with. -/
theorem fillPieces_part (hname : part.WellNamed) (hnamed : part.NamedIn args.named)
    (rest : List Piece) :
    fillPieces args expand numbering (part.pieces ++ rest) =
      (part.write args.named).mapError Fault.tooLong >>= fun s =>
        (fillPieces args expand numbering rest).map fun filled =>
          (s.toList ++ filled.1, filled.2) := by
  cases part with
  | text s => exact fillPieces_literals s.toList rest
  | field name =>
    obtain ⟨v, hv⟩ : ∃ v, Table.get? name args.named = some v := by
      rw [← Option.ne_none_iff_exists']
      exact fun hnone => Table.get?_eq_none_iff.mp hnone hnamed
    rw [Part.pieces, List.singleton_append, fillPieces, fillField_name hname hv, Part.write, hv,
      Option.map_some, Option.getD_some]
    cases v.write <;> rfl

theorem write_cons (part : Part) (t : Plain) :
    Plain.write named (part :: t) =
      part.write named >>= fun s => (Plain.write named t).map fun rest => s ++ rest := by
  rw [Plain.write, List.mapM_cons, Plain.write]
  cases part.write named with
  | error fault => rfl
  | ok s =>
    cases t.mapM (Part.write named) with
    | error fault => rfl
    | ok texts => exact congrArg Except.ok String.join_cons

theorem fillPieces_plain (hnames : ∀ part ∈ t, part.WellNamed)
    (hnamed : ∀ part ∈ t, part.NamedIn args.named) :
    fillPieces args expand numbering (t.flatMap Part.pieces) =
      ((t.write args.named).mapError Fault.tooLong).map fun s => (s.toList, numbering) := by
  induction t with
  | nil => rfl
  | cons part t ih =>
    obtain ⟨hname, hnames⟩ := List.forall_mem_cons.mp hnames
    obtain ⟨hpart, hnamed⟩ := List.forall_mem_cons.mp hnamed
    rw [List.flatMap_cons, fillPieces_part hname hpart, ih hnames hnamed, write_cons]
    cases part.write args.named with
    | error fault => rfl
    | ok s =>
      cases Plain.write args.named t with
      | error fault => rfl
      | ok rest => exact congrArg (fun cs => Except.ok (cs, numbering)) String.toList_append.symm

/-- A plain template is filled with the texts of its parts. -/
theorem fill_source (hnames : ∀ part ∈ t, part.WellNamed)
    (hnamed : ∀ part ∈ t, part.NamedIn args.named) :
    fill t.source args = (t.write args.named).mapError Fault.tooLong := by
  rw [fill, fillScanned, scan_source hnames]
  dsimp only
  rw [fillPieces_plain hnames hnamed]
  cases t.write args.named with
  | error fault => rfl
  | ok s => exact congrArg Except.ok String.ofList_toList

/-! ### Values that can be written -/

/-- A field has a value in which no numeral is too long to be written. -/
def Part.WritableIn (named : Table) : Part → Prop
  | .text _ => True
  | .field name => ∀ v ∈ Table.get? name named, v.isWritable = true

theorem Part.write_of_writable (h : part.WritableIn named) :
    part.write named = .ok (part.render named) := by
  cases part with
  | text s => rfl
  | field name =>
    rw [Part.write, Part.render]
    cases hv : Table.get? name named with
    | none => rfl
    | some v => exact if_pos (h v hv)

theorem write_of_writable (h : ∀ part ∈ t, part.WritableIn named) :
    t.write named = .ok (t.render named) := by
  induction t with
  | nil => rfl
  | cons part t ih =>
    obtain ⟨hpart, ht⟩ := List.forall_mem_cons.mp h
    rw [write_cons, Part.write_of_writable hpart, ih ht]
    exact congrArg Except.ok String.join_cons.symm

/-- A value that cannot be written fails its field, and the field its template. -/
theorem Part.write_of_not_writable (h : ¬ part.WritableIn named) :
    part.write named = .error ⟨none⟩ := by
  cases part with
  | text s => exact absurd trivial h
  | field name =>
    rw [Part.write]
    cases hv : Table.get? name named with
    | none =>
      refine absurd ?_ h
      rw [Part.WritableIn, hv]
      exact nofun
    | some v =>
      refine if_neg fun hwritable => h ?_
      rw [Part.WritableIn, hv]
      rintro _ ⟨⟩
      exact hwritable

theorem write_of_not_writable (h : ¬ ∀ part ∈ t, part.WritableIn named) :
    t.write named = .error ⟨none⟩ := by
  induction t with
  | nil => exact absurd (List.forall_mem_nil _) h
  | cons part t ih =>
    rw [write_cons]
    by_cases hpart : part.WritableIn named
    · rw [Part.write_of_writable hpart, ih fun ht => h (List.forall_mem_cons.mpr ⟨hpart, ht⟩)]
      rfl
    · rw [Part.write_of_not_writable hpart]
      rfl

theorem Part.writableIn_of_forall (h : ∀ field ∈ named, field.2.isWritable = true) (part : Part) :
    part.WritableIn named := by
  cases part with
  | text s => trivial
  | field name => exact fun v hv => h (name, v) (Table.mem_of_get?_eq_some hv)

end DropletReconciler.Template

namespace DropletReconciler

open Template (IsFieldName Part Plain)

variable {t : Plain} {named : Table}

theorem isFieldName_name : IsFieldName "name" :=
  Template.isFieldName_of_identifier 'n' ['a', 'm', 'e'] (by decide) rfl

theorem isFieldName_id : IsFieldName "id" :=
  Template.isFieldName_of_identifier 'i' ['d'] (by decide) rfl

namespace Log

theorem format_source (hnames : ∀ part ∈ t, part.WellNamed)
    (hnamed : ∀ part ∈ t, part.NamedIn named) (hne : named ≠ []) (positional : List Value) :
    format t.source positional named = (t.write named).mapError Template.Fault.tooLong := by
  rw [format, if_pos (by simpa using hne)]
  exact Template.fill_source hnames hnamed

theorem format_source_of_writable (hnames : ∀ part ∈ t, part.WellNamed)
    (hnamed : ∀ part ∈ t, part.NamedIn named) (hne : named ≠ []) (positional : List Value)
    (hwritable : ∀ part ∈ t, part.WritableIn named) :
    format t.source positional named = .ok (t.render named) := by
  rw [format_source hnames hnamed hne, Template.write_of_writable hwritable]
  rfl

/-- **Templates are filled as they stand.** With named values a plain template becomes its own texts
and the texts of its values, one after another, whatever is in the values, whichever positional values
come with them and however many of the named ones it does not use. With no values at all any message
stands as it is. -/
theorem format_plain (t : Plain) (hnames : ∀ part ∈ t, part.WellNamed)
    (hnamed : ∀ part ∈ t, part.NamedIn named) (hne : named ≠ []) (positional : List Value) :
    format t.source positional named = (t.write named).mapError Template.Fault.tooLong ∧
      ((∀ part ∈ t, part.WritableIn named) →
        format t.source positional named = .ok (t.render named)) ∧
      ∀ message, format message [] [] = .ok message :=
  ⟨format_source hnames hnamed hne positional,
    format_source_of_writable hnames hnamed hne positional, fun _ => rfl⟩

/-- A value that looks like a template, among values that are not asked for. -/
theorem format_plain_hostile :
    let t : Plain := [.text "Created \x7b", .field "name", .text "\x7d as ", .field "id"]
    let named : Table :=
      [("id", .int 7), ("name", .text "\x7bid\x7d\x7b0!r:\x7d\x7b"), ("rest", .null)]
    (∀ part ∈ t, part.WellNamed) ∧ (∀ part ∈ t, part.NamedIn named) ∧ named ≠ [] ∧
      (∀ part ∈ t, part.WritableIn named) ∧
      format "Created \x7b\x7b\x7bname\x7d\x7d\x7d as \x7bid\x7d" [.null] named =
        .ok "Created \x7b\x7bid\x7d\x7b0!r:\x7d\x7b\x7d as 7" := by
  intro t named
  have hnames : ∀ part ∈ t, part.WellNamed := by
    simp [t, Part.WellNamed, isFieldName_name, isFieldName_id]
  have hnamed : ∀ part ∈ t, part.NamedIn named := by
    simp [t, named, Part.NamedIn, Table.keys]
  have hne : named ≠ [] := List.cons_ne_nil _ _
  have hwritable : ∀ part ∈ t, part.WritableIn named :=
    fun part _ => part.writableIn_of_forall (by decide +kernel)
  exact ⟨hnames, hnamed, hne, hwritable, (format_plain t hnames hnamed hne [.null]).2.1 hwritable⟩

end Log

/-! ### The library's own messages -/

namespace Report

theorem wellNamed (r : Report) : ∀ part ∈ r.template, part.WellNamed := by
  cases r <;> simp [template, Part.WellNamed, isFieldName_name, isFieldName_id]

theorem namedIn (r : Report) : ∀ part ∈ r.template, part.NamedIn r.values := by
  cases r <;> simp [template, values, Part.NamedIn, Table.keys]

/-- The message of a report is its template, filled. -/
theorem format_template (r : Report) :
    Log.format r.template.source [] r.values =
      (r.template.write r.values).mapError Template.Fault.tooLong := by
  have hne : r.values ≠ [] := by
    cases r <;> exact List.cons_ne_nil _ _
  exact Log.format_source r.wellNamed r.namedIn hne []

end Report

end DropletReconciler
