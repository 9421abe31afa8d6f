import DropletReconciler.Proofs.ExternalName
import Mathlib.Data.List.Forall2
import Mathlib.Data.List.Induction
import Mathlib.Data.List.Pairwise
import Mathlib.Data.Nat.Digits.Defs

/-!
# Decimal digits of any script

Each script has its ten digits in a row, and the rows do not overlap, so the value of a digit is its
distance from the first one of its script (`digitValue?_eq_some_iff`). Letters are no digits, in
whichever case they are written.
-/

namespace DropletReconciler

namespace Text

variable {c capital small : Char} {digit : Nat}

/-! ### Digits of any script -/

/-- A digit stands as far behind the first one of its script as its value says. -/
def DigitOf (c : Char) (digit : Nat) : Prop :=
  digit < 10 ∧ ∃ first ∈ zeroDigits, c.toNat = first + digit

/-- The digits of one script end before those of the next one begin. -/
theorem zeroDigits_apart : zeroDigits.Pairwise fun first next => first + 10 ≤ next := by
  decide +kernel

theorem eq_of_mem_zeroDigits {first other : Nat} (hfirst : first ∈ zeroDigits)
    (hother : other ∈ zeroDigits) (hlow : first < other + 10) (hhigh : other < first + 10) :
    first = other := by
  by_contra hne
  have hapart : zeroDigits.Pairwise fun a b => a + 10 ≤ b ∨ b + 10 ≤ a :=
    zeroDigits_apart.imp Or.inl
  have : Std.Symm fun a b : Nat => a + 10 ≤ b ∨ b + 10 ≤ a := ⟨fun _ _ => Or.symm⟩
  have := hapart.forall hfirst hother hne
  omega

theorem digitValue?_eq_some_iff : digitValue? c = some digit ↔ DigitOf c digit := by
  unfold digitValue? DigitOf
  constructor
  · intro h
    obtain ⟨first, hfind, rfl⟩ := Option.map_eq_some_iff.mp h
    have hrange := List.find?_some hfind
    simp only [Bool.and_eq_true, decide_eq_true_eq] at hrange
    exact ⟨by omega, first, List.mem_of_find?_eq_some hfind, by omega⟩
  · rintro ⟨hlt, first, hmem, hc⟩
    cases hfind : zeroDigits.find? fun first => first ≤ c.toNat && c.toNat < first + 10 with
    | none =>
      have hnone := List.find?_eq_none.mp hfind first hmem
      simp only [Bool.and_eq_true, decide_eq_true_eq] at hnone
      omega
    | some found =>
      have hrange := List.find?_some hfind
      simp only [Bool.and_eq_true, decide_eq_true_eq] at hrange
      obtain rfl : found = first :=
        eq_of_mem_zeroDigits (List.mem_of_find?_eq_some hfind) hmem (by omega) (by omega)
      rw [Option.map_some, hc, Nat.add_sub_cancel_left]

theorem digitOf_asciiDigit (hc : c.isDigit = true) : DigitOf c (Numeral.asciiDigit c) := by
  have hvalue : Numeral.asciiDigit c = c.toNat - 48 := rfl
  have hbounds : 48 ≤ c.toNat ∧ c.toNat ≤ 57 := Char.isDigit_iff_toNat.mp hc
  exact ⟨by omega, 48, by decide, by omega⟩

/-! ### Letters of either case -/

theorem toNat_toUpper (hlow : 97 ≤ c.toNat) (hhigh : c.toNat ≤ 122) :
    c.toUpper.toNat = c.toNat - 32 := by
  have hsmall : 'a'.val ≤ c.val ∧ c.val ≤ 'z'.val :=
    ⟨UInt32.le_iff_toNat_le.mpr hlow, UInt32.le_iff_toNat_le.mpr hhigh⟩
  have hupper : c.toUpper = _ := dif_pos hsmall
  have hshift : ('A'.val - 'a'.val).toNat = 2 ^ 32 - 32 := rfl
  have hnat : c.val.toNat = c.toNat := rfl
  rw [hupper]
  change (c.val + ('A'.val - 'a'.val)).toNat = c.toNat - 32
  rw [UInt32.toNat_add, hshift]
  omega

theorem toUpper_of_not_small (h : ¬ (97 ≤ c.toNat ∧ c.toNat ≤ 122)) : c.toUpper = c := by
  apply dif_neg
  rintro ⟨hlow, hhigh⟩
  exact h ⟨UInt32.le_iff_toNat_le.mp hlow, UInt32.le_iff_toNat_le.mp hhigh⟩

/-- A capital letter comes from itself and from the small letter 32 places behind it. -/
theorem toUpper_eq_iff (hcapital : capital.toNat ≤ 90) (hsmall : small.toNat = capital.toNat + 32)
    (hletter : 65 ≤ capital.toNat) : c.toUpper = capital ↔ c = capital ∨ c = small := by
  rw [← Char.toNat_inj, ← Char.toNat_inj, ← Char.toNat_inj]
  by_cases h : 97 ≤ c.toNat ∧ c.toNat ≤ 122
  · rw [toNat_toUpper h.1 h.2]
    omega
  · rw [toUpper_of_not_small h]
    omega

theorem toUpper_toUpper (c : Char) : c.toUpper.toUpper = c.toUpper := by
  by_cases h : 97 ≤ c.toNat ∧ c.toNat ≤ 122
  · have := toNat_toUpper h.1 h.2
    exact toUpper_of_not_small (by omega)
  · rw [toUpper_of_not_small h, toUpper_of_not_small h]

/-- No letter is a digit. -/
theorem digitOf_toUpper_iff : DigitOf c.toUpper digit ↔ DigitOf c digit := by
  by_cases h : 97 ≤ c.toNat ∧ c.toNat ≤ 122
  · have hgap : ∀ first ∈ zeroDigits, first = 48 ∨ 1632 ≤ first := by decide
    have hupper := toNat_toUpper h.1 h.2
    constructor
    · rintro ⟨hlt, first, hmem, hc⟩
      have := hgap first hmem
      omega
    · rintro ⟨hlt, first, hmem, hc⟩
      have := hgap first hmem
      omega
  · rw [toUpper_of_not_small h]

end Text

/-! ### Numbers of decimal digits -/

namespace Numeral

open Text (DigitOf)

variable {cs : List Char} {digits : List Nat}

theorem digits?_eq_some_iff : digits? cs = some digits ↔ List.Forall₂ DigitOf cs digits := by
  unfold digits?
  induction cs generalizing digits with
  | nil => simp [eq_comm]
  | cons c cs ih =>
    simp only [List.mapM_cons, Option.bind_eq_bind, Option.bind_eq_some_iff, Option.pure_def,
      Option.some.injEq, Text.digitValue?_eq_some_iff, ih, List.forall₂_cons_left_iff]
    constructor
    · rintro ⟨digit, hc, rest, hrest, rfl⟩
      exact ⟨digit, rest, hc, hrest, rfl⟩
    · rintro ⟨digit, rest, hc, hrest, rfl⟩
      exact ⟨digit, hc, rest, hrest, rfl⟩

theorem forall₂_digitOf_map_toUpper :
    List.Forall₂ DigitOf (cs.map Char.toUpper) digits ↔ List.Forall₂ DigitOf cs digits := by
  rw [List.forall₂_map_left_iff]
  constructor
  · exact fun h => h.imp fun _ _ => Text.digitOf_toUpper_iff.mp
  · exact fun h => h.imp fun _ _ => Text.digitOf_toUpper_iff.mpr

theorem value_eq_ofDigits (digits : List Nat) : value digits = Nat.ofDigits 10 digits.reverse := by
  induction digits using List.reverseRecOn with
  | nil => rfl
  | append_singleton digits digit ih =>
    have hvalue : value (digits ++ [digit]) = 10 * value digits + digit := by
      rw [value, List.foldl_append]
      rfl
    rw [hvalue, ih, List.reverse_append, List.reverse_singleton, List.singleton_append,
      Nat.ofDigits_cons, Nat.add_comm]

theorem forall₂_digitOf_numeral (n : Nat) :
    List.Forall₂ DigitOf (toString n).toList ((toString n).toList.map asciiDigit) := by
  rw [List.forall₂_map_right_iff, List.forall₂_same]
  intro c hc
  rw [Nat.toString_eq_repr, Nat.toList_repr] at hc
  exact Text.digitOf_asciiDigit (Nat.isDigit_of_mem_toDigits (by decide) (by decide) hc)

theorem value_numeral (n : Nat) : value ((toString n).toList.map asciiDigit) = n := by
  rw [value_asciiDigit, Nat.toString_eq_repr, Nat.toList_repr, Nat.ofDigitChars_ten_toDigits]

end Numeral

end DropletReconciler
