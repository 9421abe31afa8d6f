import DropletReconciler.Log.Rotation
import DropletReconciler.Proofs.DecimalDigits
import DropletReconciler.Proofs.Words

/-!
# Sizes as they are written

A size is a text of two words, a number of decimal digits and a unit. It is read as that many units,
every other text as the usual size, and a number of too many digits cannot be read
(`rotationBytes_eq_iff`). The blanks and the case of the letters make no difference
(`rotationBytes_of_alike`).
-/

namespace DropletReconciler.Log

open Numeral (maxDigits)
open Text (DigitOf LaidOut)

variable {text other : String} {number unit : List Char} {digits : List Nat} {size : Nat}
  {result : Except Numeral.TooLong Nat}

/-! ### Units -/

/-- The bytes in a unit, which is written in letters of either case. -/
inductive UnitOf : List Char → Nat → Prop
  | kilobyte {k b : Char} (hk : k = 'K' ∨ k = 'k') (hb : b = 'B' ∨ b = 'b') : UnitOf [k, b] 1024
  | megabyte {m b : Char} (hm : m = 'M' ∨ m = 'm') (hb : b = 'B' ∨ b = 'b') :
      UnitOf [m, b] (1024 * 1024)

theorem unitSize?_eq_some_iff : unitSize? unit = some size ↔ UnitOf unit size := by
  have hk {c : Char} : c.toUpper = 'K' ↔ c = 'K' ∨ c = 'k' :=
    Text.toUpper_eq_iff (by decide) rfl (by decide)
  have hm {c : Char} : c.toUpper = 'M' ↔ c = 'M' ∨ c = 'm' :=
    Text.toUpper_eq_iff (by decide) rfl (by decide)
  have hb {c : Char} : c.toUpper = 'B' ↔ c = 'B' ∨ c = 'b' :=
    Text.toUpper_eq_iff (by decide) rfl (by decide)
  unfold unitSize?
  constructor
  · intro h
    split at h
    · next hunit =>
      obtain ⟨k, _, rfl, hcapital, hrest⟩ := List.map_eq_cons_iff.mp hunit
      obtain ⟨b, rfl, hcapital'⟩ := List.map_eq_singleton_iff.mp hrest
      obtain rfl := Option.some.inj h
      exact .kilobyte (hk.mp hcapital) (hb.mp hcapital')
    · next hunit =>
      obtain ⟨m, _, rfl, hcapital, hrest⟩ := List.map_eq_cons_iff.mp hunit
      obtain ⟨b, rfl, hcapital'⟩ := List.map_eq_singleton_iff.mp hrest
      obtain rfl := Option.some.inj h
      exact .megabyte (hm.mp hcapital) (hb.mp hcapital')
    · cases h
  · intro h
    cases h with
    | kilobyte hletter hletter' =>
      rw [List.map_cons, List.map_singleton, hk.mpr hletter, hb.mpr hletter']
      rfl
    | megabyte hletter hletter' =>
      rw [List.map_cons, List.map_singleton, hm.mpr hletter, hb.mpr hletter']
      rfl

theorem unitOf_map_toUpper : UnitOf (unit.map Char.toUpper) size ↔ UnitOf unit size := by
  have htwice : Char.toUpper ∘ Char.toUpper = Char.toUpper := funext Text.toUpper_toUpper
  have hcase : unitSize? (unit.map Char.toUpper) = unitSize? unit := by
    rw [unitSize?, List.map_map, htwice, unitSize?]
  rw [← unitSize?_eq_some_iff, hcase, unitSize?_eq_some_iff]

theorem UnitOf.isWord (h : UnitOf unit size) : Text.IsWord unit := by
  have hpair {first last : Char} (hfirst : Text.isBlank first = false)
      (hlast : Text.isBlank last = false) : Text.IsWord [first, last] :=
    ⟨List.cons_ne_nil _ _,
      List.forall_mem_cons.mpr ⟨hfirst, List.forall_mem_singleton.mpr hlast⟩⟩
  cases h with
  | kilobyte hk hb => obtain rfl | rfl := hk <;> obtain rfl | rfl := hb <;> exact hpair rfl rfl
  | megabyte hm hb => obtain rfl | rfl := hm <;> obtain rfl | rfl := hb <;> exact hpair rfl rfl

/-! ### Sizes -/

/-- A text that is a size: a number, given by its digits, and a unit. -/
def SizeIn (text : String) (digits : List Nat) (size : Nat) : Prop :=
  ∃ number unit, LaidOut text.toList [number, unit] ∧ List.Forall₂ DigitOf number digits ∧
    UnitOf unit size

/-- What a text stands for. -/
inductive BytesOf (text : String) : Except Numeral.TooLong Nat → Prop
  | size {digits : List Nat} {size : Nat} (h : SizeIn text digits size)
      (hshort : digits.length ≤ maxDigits) :
      BytesOf text (.ok (Nat.ofDigits 10 digits.reverse * size))
  | tooLong {digits : List Nat} {size : Nat} (h : SizeIn text digits size)
      (hlong : maxDigits < digits.length) : BytesOf text (.error ⟨some digits.length⟩)
  | usual (h : ∀ digits size, ¬ SizeIn text digits size) : BytesOf text (.ok (50 * 1024 * 1024))

theorem rotationBytes_of_sizeIn (h : SizeIn text digits size) :
    rotationBytes text = (Numeral.read digits).map (· * size) := by
  obtain ⟨number, unit, hwords, hnumber, hunit⟩ := h
  rw [rotationBytes, hwords.words_eq]
  dsimp only
  rw [unitSize?_eq_some_iff.mpr hunit, Numeral.digits?_eq_some_iff.mpr hnumber]

theorem rotationBytes_of_not_sizeIn (h : ∀ digits size, ¬ SizeIn text digits size) :
    rotationBytes text = .ok usualRotation := by
  unfold rotationBytes
  split
  · next number unit hwords =>
    split
    · next size digits hunit hnumber =>
      exact absurd ⟨number, unit, Text.words_eq_iff.mp hwords,
        Numeral.digits?_eq_some_iff.mp hnumber, unitSize?_eq_some_iff.mp hunit⟩ (h digits size)
    · rfl
  · rfl

theorem bytesOf_rotationBytes (text : String) : BytesOf text (rotationBytes text) := by
  by_cases hsize : ∃ digits size, SizeIn text digits size
  · obtain ⟨digits, size, h⟩ := hsize
    rw [rotationBytes_of_sizeIn h, Numeral.read]
    by_cases hlong : maxDigits < digits.length
    · rw [if_pos hlong]
      exact .tooLong h hlong
    · rw [if_neg hlong, Numeral.value_eq_ofDigits]
      exact .size h (Nat.le_of_not_lt hlong)
  · have hnone : ∀ digits size, ¬ SizeIn text digits size :=
      fun digits size h => hsize ⟨digits, size, h⟩
    rw [rotationBytes_of_not_sizeIn hnone]
    exact .usual hnone

theorem BytesOf.eq_rotationBytes (h : BytesOf text result) : rotationBytes text = result := by
  cases h with
  | size h hshort =>
    rw [rotationBytes_of_sizeIn h, Numeral.read, if_neg (Nat.not_lt.mpr hshort),
      Numeral.value_eq_ofDigits]
    rfl
  | tooLong h hlong =>
    rw [rotationBytes_of_sizeIn h, Numeral.read, if_pos hlong]
    rfl
  | usual h => exact rotationBytes_of_not_sizeIn h

theorem rotationBytes_eq_iff : rotationBytes text = result ↔ BytesOf text result :=
  ⟨fun h => h ▸ bytesOf_rotationBytes text, BytesOf.eq_rotationBytes⟩

example : rotationBytes "\u0664\u0662 kB" = .ok (1024 * 42) := by decide

/-! ### Texts that stand for the same size -/

/-- Two texts of the same words, up to the case of their letters. -/
def AlikeInWords (text other : String) : Prop :=
  ∃ found others, LaidOut text.toList found ∧ LaidOut other.toList others ∧
    found.map (List.map Char.toUpper) = others.map (List.map Char.toUpper)

theorem AlikeInWords.symm (h : AlikeInWords text other) : AlikeInWords other text := by
  obtain ⟨found, others, hfound, hothers, hcase⟩ := h
  exact ⟨others, found, hothers, hfound, hcase.symm⟩

theorem SizeIn.of_alike (h : SizeIn text digits size) (halike : AlikeInWords text other) :
    SizeIn other digits size := by
  obtain ⟨number, unit, hwords, hnumber, hunit⟩ := h
  obtain ⟨found, others, hfound, hothers, hcase⟩ := halike
  obtain rfl : found = [number, unit] := hfound.words_eq.symm.trans hwords.words_eq
  obtain ⟨number', rest, rfl, hnumber', hrest⟩ := List.map_eq_cons_iff.mp hcase.symm
  obtain ⟨unit', rfl, hunit'⟩ := List.map_eq_singleton_iff.mp hrest
  refine ⟨number', unit', hothers, ?_, ?_⟩
  · rwa [← Numeral.forall₂_digitOf_map_toUpper, hnumber', Numeral.forall₂_digitOf_map_toUpper]
  · rwa [← unitOf_map_toUpper, hunit', unitOf_map_toUpper]

theorem BytesOf.of_alike (h : BytesOf text result) (halike : AlikeInWords text other) :
    BytesOf other result := by
  cases h with
  | size h hshort => exact .size (h.of_alike halike) hshort
  | tooLong h hlong => exact .tooLong (h.of_alike halike) hlong
  | usual h => exact .usual fun digits size hother => h digits size (hother.of_alike halike.symm)

/-- Neither the blanks around the words matter nor the case of the letters. -/
theorem rotationBytes_of_alike (halike : AlikeInWords text other) :
    rotationBytes other = rotationBytes text :=
  ((bytesOf_rotationBytes text).of_alike halike).eq_rotationBytes

/-! ### Numerals -/

theorem isWord_numeral (n : Nat) : Text.IsWord (toString n).toList := by
  rw [Nat.toString_eq_repr, Nat.toList_repr]
  refine ⟨Nat.toDigits_ne_nil, fun c hc => ?_⟩
  have hdigit := Nat.isDigit_of_mem_toDigits (by decide) (by decide) hc
  have hbounds : 48 ≤ c.toNat ∧ c.toNat ≤ 57 := Char.isDigit_iff_toNat.mp hdigit
  simp only [Text.isBlank, Bool.or_eq_false_iff, Bool.and_eq_false_imp, decide_eq_true_eq,
    decide_eq_false_iff_not, beq_eq_false_iff_ne]
  omega

/-- A numeral and a unit with one blank between them. -/
theorem rotationBytes_numeral (n : Nat) (hshort : (toString n).length ≤ maxDigits)
    (hunit : UnitOf unit size) :
    rotationBytes (toString n ++ String.ofList (' ' :: unit)) = .ok (size * n) := by
  have hgap : Text.IsGap [] := List.forall_mem_nil _
  have hblank : Text.IsGap [' '] := List.forall_mem_singleton.mpr rfl
  have hrest : LaidOut (' ' :: unit) [unit] := by
    have h : LaidOut ([' '] ++ unit ++ []) [unit] :=
      .word hblank hunit.isWord (by rintro c ⟨⟩) (.gap hgap)
    rwa [List.append_nil] at h
  have hlaidOut : LaidOut (toString n ++ String.ofList (' ' :: unit)).toList
      [(toString n).toList, unit] := by
    have h := LaidOut.word hgap (isWord_numeral n) (by rintro c ⟨⟩; rfl) hrest
    rwa [List.nil_append, ← String.toList_ofList (l := ' ' :: unit), ← String.toList_append] at h
  have hsize : SizeIn (toString n ++ String.ofList (' ' :: unit)) _ size :=
    ⟨_, unit, hlaidOut, Numeral.forall₂_digitOf_numeral n, hunit⟩
  have hlength : ¬ maxDigits < ((toString n).toList.map Numeral.asciiDigit).length := by
    rw [List.length_map, String.length_toList]
    exact Nat.not_lt.mpr hshort
  rw [rotationBytes_of_sizeIn hsize, Numeral.read, if_neg hlength, Numeral.value_numeral,
    Nat.mul_comm]
  rfl

/-- **Sizes are read exactly.** A text is a size when it has two words, decimal digits of any script
and a unit in letters of either case; it stands for that many units, unless the digits are too many.
Every other text stands for the usual size. Texts of the same words stand for the same, whatever
their blanks and the case of their letters, and a numeral with a unit behind it for that many. -/
theorem rotation_sizes (text : String) :
    (∀ result, rotationBytes text = result ↔ BytesOf text result) ∧
      (∀ other, AlikeInWords text other → rotationBytes other = rotationBytes text) ∧
      ∀ n : Nat, (toString n).length ≤ maxDigits →
        rotationBytes (toString n ++ " KB") = .ok (1024 * n) ∧
          rotationBytes (toString n ++ " MB") = .ok (1048576 * n) := by
  refine ⟨fun _ => rotationBytes_eq_iff, fun _ => rotationBytes_of_alike, ?_⟩
  intro n hshort
  exact ⟨rotationBytes_numeral n hshort (.kilobyte (.inl rfl) (.inl rfl)),
    rotationBytes_numeral n hshort (.megabyte (.inl rfl) (.inl rfl))⟩

theorem rotation_sizes_spaced :
    AlikeInWords "10 MB" "\t10\u2003 mB\n" ∧ (toString 10).length ≤ maxDigits ∧
      rotationBytes "\t10\u2003 mB\n" = .ok 10485760 := by
  have halike : AlikeInWords "10 MB" "\t10\u2003 mB\n" :=
    ⟨[['1', '0'], ['M', 'B']], [['1', '0'], ['m', 'B']], Text.words_eq_iff.mp rfl,
      Text.words_eq_iff.mp rfl, rfl⟩
  have hshort : (toString 10).length ≤ maxDigits := by decide
  obtain ⟨-, hsame, hnumeral⟩ := rotation_sizes "10 MB"
  exact ⟨halike, hshort, (hsame _ halike).trans (hnumeral 10 hshort).2⟩

end DropletReconciler.Log
