import DropletReconciler.Record

/-!
# External names and the ids they denote

Digits that denote a positive number are an id, too many digits cannot be read, an empty name is no
identity, and any other name is one that the user chose (`parse_eq_iff`). A positive id that is short
enough to be written has a numeral, and the numeral is read as that id again.
-/

namespace DropletReconciler

namespace Numeral

/-- A text of ASCII digits only, be it empty. -/
def AsciiDigits (text : String) : Prop := ∀ c ∈ text.toList, c.isDigit = true

/-- The number that the digits of a text denote. -/
def denoted (text : String) : Nat := Nat.ofDigitChars 10 text.toList 0

theorem value_asciiDigit (cs : List Char) :
    value (cs.map asciiDigit) = Nat.ofDigitChars 10 cs 0 := by
  rw [value, List.foldl_map, Nat.ofDigitChars_eq_foldl]
  rfl

theorem readAscii_toList (text : String) :
    readAscii text.toList =
      if maxDigits < text.length then .error ⟨some text.length⟩ else .ok (denoted text) := by
  rw [readAscii, read, List.length_map, String.length_toList, value_asciiDigit]
  rfl

theorem write_eq_ok_iff {n : Int} {text : String} :
    write n = .ok text ↔ n.natAbs < Nat.pow 10 maxDigits ∧ toString n = text := by
  unfold write
  by_cases hlong : Nat.pow 10 maxDigits ≤ n.natAbs
  · rw [if_pos hlong]
    simp only [reduceCtorEq, false_iff, not_and]
    exact fun hshort => absurd hlong (Nat.not_le.mpr hshort)
  · rw [if_neg hlong]
    simp only [Except.ok.injEq]
    exact ⟨fun h => ⟨Nat.not_le.mp hlong, h⟩, And.right⟩

end Numeral

namespace Identity

open Numeral (AsciiDigits denoted maxDigits TooLong)

variable {name : String} {reading : Except TooLong Identity}

/-- The grammar of external names. -/
inductive ReadAs (name : String) : Except TooLong Identity → Prop
  | unassigned (hempty : name = "") : ReadAs name (.ok .unassigned)
  | assigned (hne : name ≠ "") (hdigits : AsciiDigits name) (hshort : name.length ≤ maxDigits)
      (hpos : 0 < denoted name) : ReadAs name (.ok (.assigned (denoted name)))
  | tooLong (hdigits : AsciiDigits name) (hlong : maxDigits < name.length) :
      ReadAs name (.error ⟨some name.length⟩)
  | pending (hne : name ≠ "")
      (hname : ¬ (AsciiDigits name ∧ (maxDigits < name.length ∨ 0 < denoted name))) :
      ReadAs name (.ok (.pending name))

theorem readAs_parse (name : String) : ReadAs name (parse name) := by
  unfold parse
  dsimp only
  by_cases hempty : name = ""
  · subst hempty
    exact .unassigned rfl
  · have hcons : name.toList.isEmpty = false := by simpa using hempty
    rw [hcons, if_neg Bool.false_ne_true]
    by_cases hdigits : AsciiDigits name
    · rw [if_pos (List.all_eq_true.mpr hdigits), Numeral.readAscii_toList]
      by_cases hlong : maxDigits < name.length
      · rw [if_pos hlong]
        exact .tooLong hdigits hlong
      · rw [if_neg hlong]
        -- What is left is the sequence of reading the digits and of testing the number.
        change ReadAs name
          (.ok (if 0 < denoted name then .assigned (denoted name) else .pending name))
        by_cases hpos : 0 < denoted name
        · rw [if_pos hpos]
          exact .assigned hempty hdigits (Nat.le_of_not_lt hlong) hpos
        · rw [if_neg hpos]
          exact .pending hempty fun h => h.2.elim hlong hpos
    · rw [if_neg fun h => hdigits (List.all_eq_true.mp h)]
      exact .pending hempty fun h => hdigits h.1

/-- The cases of the grammar exclude each other. -/
theorem ReadAs.unique {other : Except TooLong Identity} (h : ReadAs name reading)
    (hother : ReadAs name other) : reading = other := by
  have hempty : "".length = 0 := rfl
  have hzero : denoted "" = 0 := rfl
  cases h <;> cases hother <;> grind

theorem parse_eq_iff : parse name = reading ↔ ReadAs name reading :=
  ⟨fun h => h ▸ readAs_parse name, (readAs_parse name).unique⟩

theorem toList_toString_of_pos {id : Int} (hpos : 0 < id) :
    (toString id).toList = Nat.toDigits 10 id.natAbs := by
  have hnat : id.toNat = id.natAbs := by omega
  rw [Int.toString_eq_repr, Int.repr_eq_if, if_pos (by omega), hnat, Nat.toList_repr]

theorem length_toString_le_iff {id : Int} (hpos : 0 < id) {limit : Nat} (hlimit : 0 < limit) :
    (toString id).length ≤ limit ↔ id.natAbs < Nat.pow 10 limit := by
  rw [← String.length_toList, toList_toString_of_pos hpos]
  exact Nat.length_toDigits_le_iff (by decide) hlimit

/-- A text with zeros in front. -/
def padded (zeros : Nat) (text : String) : String :=
  String.ofList (List.replicate zeros '0') ++ text

theorem toList_padded_toString {id : Int} (hpos : 0 < id) (zeros : Nat) :
    (padded zeros (toString id)).toList =
      List.replicate zeros '0' ++ Nat.toDigits 10 id.natAbs := by
  rw [padded, String.toList_append, String.toList_ofList, toList_toString_of_pos hpos]

/-- Zeros in front of an id make no difference, but they count as digits. -/
theorem parse_padded {id : Int} (hpos : 0 < id) {zeros : Nat}
    (hshort : (padded zeros (toString id)).length ≤ maxDigits) :
    parse (padded zeros (toString id)) = .ok (.assigned id) := by
  have hlist := toList_padded_toString hpos zeros
  have hdenoted : (denoted (padded zeros (toString id)) : Int) = id := by
    rw [denoted, hlist, Nat.ofDigitChars_append, Nat.ofDigitChars_replicate_zero, Nat.mul_zero,
      Nat.ofDigitChars_ten_toDigits]
    omega
  have hne : padded zeros (toString id) ≠ "" := by
    intro hempty
    rw [hempty] at hlist
    exact Nat.toDigits_ne_nil (List.append_eq_nil_iff.mp hlist.symm).2
  have hdigits : AsciiDigits (padded zeros (toString id)) := by
    intro c hc
    rw [hlist] at hc
    obtain hzero | hdigit := List.mem_append.mp hc
    · rw [List.eq_of_mem_replicate hzero]
      rfl
    · exact Nat.isDigit_of_mem_toDigits (by decide) (by decide) hdigit
  have hread := ReadAs.assigned hne hdigits hshort (by omega)
  rw [hdenoted] at hread
  exact parse_eq_iff.mpr hread

/-- **A written id is read back.** -/
theorem parse_toString {id : Int} (hpos : 0 < id)
    (hshort : id.natAbs < Nat.pow 10 Numeral.maxDigits) :
    parse (toString id) = .ok (.assigned id) := by
  have hbare : padded 0 (toString id) = toString id := String.empty_append
  have hlength := (length_toString_le_iff hpos (by decide)).mpr hshort
  rw [← hbare] at hlength
  rw [← parse_padded hpos hlength, hbare]

theorem parse_eq_error_iff {externalName : String} :
    (∃ fault, parse externalName = .error fault) ↔
      externalName.toList.all Char.isDigit = true ∧
        Numeral.maxDigits < externalName.toList.length := by
  rw [List.all_eq_true, String.length_toList]
  constructor
  · rintro ⟨fault, h⟩
    cases parse_eq_iff.mp h with
    | tooLong hdigits hlong => exact ⟨hdigits, hlong⟩
  · rintro ⟨hdigits, hlong⟩
    exact ⟨_, parse_eq_iff.mpr (.tooLong hdigits hlong)⟩

end Identity

end DropletReconciler
