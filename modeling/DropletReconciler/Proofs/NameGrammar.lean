import DropletReconciler.Proofs.ExternalName

/-!
# Which names are read as one identity

The names of an id are its numeral and the numeral with zeros in front of it; every other identity
has one name. So a name that is read is rendered as it was unless it is an id that begins with a zero
(`render_parse_iff`). What a name is read as is rendered and read again as the same (`parse_grammar`).
-/

namespace DropletReconciler

namespace Numeral

variable {c : Char} {cs : List Char} {n : Nat}

theorem digitChar_of_isDigit (h : c.isDigit = true) :
    c.toNat - '0'.toNat < 10 ∧ Nat.digitChar (c.toNat - '0'.toNat) = c := by
  obtain ⟨hlow, hhigh⟩ := Char.isDigit_iff_toNat.mp h
  have hzero : '0'.toNat = 48 := rfl
  have hnine : '9'.toNat = 57 := rfl
  have hlt : c.toNat - '0'.toNat < 10 := by omega
  refine ⟨hlt, Char.toNat_inj.mp ?_⟩
  rw [Nat.toNat_digitChar_of_lt_ten hlt]
  omega

/-- Digits that follow a positive number are digits of its numeral. -/
theorem toDigits_append (hdigits : ∀ c ∈ cs, c.isDigit = true) (hpos : 0 < n) :
    Nat.toDigits 10 n ++ cs = Nat.toDigits 10 (Nat.ofDigitChars 10 cs n) := by
  induction cs generalizing n with
  | nil => rw [List.append_nil, Nat.ofDigitChars_nil]
  | cons c cs ih =>
    obtain ⟨hc, hcs⟩ := List.forall_mem_cons.mp hdigits
    obtain ⟨hlt, hchar⟩ := digitChar_of_isDigit hc
    have hone : Nat.toDigits 10 n ++ [c] = Nat.toDigits 10 (10 * n + (c.toNat - '0'.toNat)) := by
      rw [← Nat.toDigits_append_toDigits (by decide) hpos hlt, Nat.toDigits_of_lt_base hlt, hchar]
    calc Nat.toDigits 10 n ++ c :: cs = (Nat.toDigits 10 n ++ [c]) ++ cs := by simp
      _ = Nat.toDigits 10 (10 * n + (c.toNat - '0'.toNat)) ++ cs := by rw [hone]
      _ = Nat.toDigits 10 (Nat.ofDigitChars 10 (c :: cs) n) := by
        rw [ih hcs (by omega), Nat.ofDigitChars_cons]

/-- Digits of a positive number are its numeral, with zeros in front. -/
theorem exists_zeros (hdigits : ∀ c ∈ cs, c.isDigit = true)
    (hpos : 0 < Nat.ofDigitChars 10 cs 0) :
    ∃ zeros, cs = List.replicate zeros '0' ++ Nat.toDigits 10 (Nat.ofDigitChars 10 cs 0) := by
  induction cs with
  | nil => cases hpos
  | cons c cs ih =>
    obtain ⟨hc, hcs⟩ := List.forall_mem_cons.mp hdigits
    obtain ⟨hlt, hchar⟩ := digitChar_of_isDigit hc
    rw [Nat.ofDigitChars_cons, Nat.mul_zero, Nat.zero_add] at hpos ⊢
    by_cases hzero : c.toNat - '0'.toNat = 0
    · rw [hzero] at hchar hpos ⊢
      obtain ⟨zeros, hzeros⟩ := ih hcs hpos
      refine ⟨zeros + 1, ?_⟩
      rw [List.replicate_succ, List.cons_append, ← hzeros, ← hchar]
      rfl
    · refine ⟨0, ?_⟩
      rw [← toDigits_append hcs (Nat.pos_of_ne_zero hzero), Nat.toDigits_of_lt_base hlt, hchar]
      rfl

/-- The numeral of a positive number does not begin with a zero. -/
theorem toDigits_ne_zero_cons (hpos : 0 < n) (rest : List Char) :
    Nat.toDigits 10 n ≠ '0' :: rest := by
  intro hzero
  have hdigits : ∀ c ∈ rest, c.isDigit = true := by
    intro c hc
    have hmem : c ∈ Nat.toDigits 10 n := hzero ▸ List.mem_cons_of_mem _ hc
    exact Nat.isDigit_of_mem_toDigits (by decide) (by decide) hmem
  have hvalue : Nat.ofDigitChars 10 rest 0 = n := by
    rw [← Nat.ofDigitChars_ten_toDigits (n := n), hzero, Nat.ofDigitChars_cons]
    rfl
  obtain ⟨zeros, hzeros⟩ := exists_zeros hdigits (hvalue ▸ hpos)
  -- The numeral would be a part of its own tail.
  rw [hvalue, hzero] at hzeros
  have hlength := congrArg List.length hzeros
  rw [List.length_append, List.length_cons] at hlength
  omega

end Numeral

namespace Identity

open Numeral (AsciiDigits denoted maxDigits)

variable {name : String} {identity : Identity} {id : Int}

/-- The names of an id are its numeral, with zeros in front as long as it does not grow too long. -/
theorem parse_eq_assigned_iff :
    parse name = .ok (.assigned id) ↔
      0 < id ∧ name.length ≤ maxDigits ∧ ∃ zeros, name = padded zeros (toString id) := by
  constructor
  · intro h
    cases parse_eq_iff.mp h with
    | assigned _ hdigits hshort hpos =>
      have hid : (0 : Int) < denoted name := by omega
      obtain ⟨zeros, hzeros⟩ := Numeral.exists_zeros hdigits hpos
      refine ⟨hid, hshort, zeros, String.toList_inj.mp ?_⟩
      rw [toList_padded_toString hid]
      exact hzeros
  · rintro ⟨hpos, hshort, zeros, rfl⟩
    exact parse_padded hpos hshort

/-! ### Names that survive -/

/-- A numeral begins with another digit than zero, so an id is rendered as it was exactly when no
zero is in front. -/
theorem toString_eq_padded_iff (hpos : 0 < id) (zeros : Nat) :
    toString id = padded zeros (toString id) ↔
      (padded zeros (toString id)).toList.head? ≠ some '0' := by
  have hnumeral := Numeral.toDigits_ne_zero_cons (show 0 < id.natAbs by omega)
  rw [← String.toList_inj, toList_padded_toString hpos, toList_toString_of_pos hpos]
  cases zeros with
  | zero =>
    rw [List.replicate_zero, List.nil_append]
    refine iff_of_true rfl fun hhead => ?_
    obtain ⟨rest, hrest⟩ := List.head?_eq_some_iff.mp hhead
    exact hnumeral rest hrest
  | succ zeros =>
    rw [List.replicate_succ, List.cons_append, List.head?_cons]
    exact iff_of_false (hnumeral _) fun h => h rfl

/-- **Names that survive.** A name that can be read is rendered as it was, unless it is an id with a
zero in front. The names of an id are its numeral and the numeral with zeros in front, as long as the
digits are not too many. -/
theorem render_parse_iff (h : parse name = .ok identity) :
    (identity.render = name ↔
        ∀ id, identity = .assigned id → name.toList.head? ≠ some '0') ∧
      ∀ id, identity = .assigned id → ∀ other, parse other = .ok identity ↔
        other.length ≤ maxDigits ∧ ∃ zeros, other = padded zeros (toString id) := by
  cases identity with
  | unassigned =>
    cases parse_eq_iff.mp h with
    | unassigned hempty => exact ⟨iff_of_true hempty.symm nofun, nofun⟩
  | pending chosen =>
    cases parse_eq_iff.mp h with
    | pending => exact ⟨iff_of_true rfl nofun, nofun⟩
  | assigned id =>
    obtain ⟨hpos, -, zeros, rfl⟩ := parse_eq_assigned_iff.mp h
    refine ⟨?_, ?_⟩
    · rw [render, toString_eq_padded_iff hpos]
      simp
    · rintro _ ⟨⟩ other
      rw [parse_eq_assigned_iff]
      exact and_iff_right hpos

theorem render_parse_iff_padded :
    parse "007" = .ok (.assigned 7) ∧ (Identity.assigned 7).render ≠ "007" ∧
      parse "0007" = .ok (.assigned 7) := by
  have hparse : parse "007" = .ok (.assigned 7) :=
    parse_eq_assigned_iff.mpr ⟨by decide, by decide, 2, rfl⟩
  obtain ⟨hrender, hnames⟩ := render_parse_iff hparse
  refine ⟨hparse, fun h => hrender.mp h 7 rfl rfl, ?_⟩
  exact (hnames 7 rfl "0007").mpr ⟨by decide, 3, rfl⟩

/-- Two names of one droplet, of which one does not survive. -/
theorem padded_name_lost :
    ¬ (∀ identity, parse "007" = .ok identity → identity.render = "007") ∧
      parse "007" = .ok (.assigned 7) ∧ parse "7" = .ok (.assigned 7) := by
  have hpadded : parse "007" = .ok (.assigned 7) :=
    parse_eq_assigned_iff.mpr ⟨by decide, by decide, 2, rfl⟩
  have hbare : parse "7" = .ok (.assigned 7) :=
    parse_eq_assigned_iff.mpr ⟨by decide, by decide, 0, rfl⟩
  exact ⟨fun hsurvives => absurd (hsurvives _ hpadded) (by decide), hpadded, hbare⟩

/-! ### Identities that names are read as -/

/-- The identities that some name denotes. -/
def Canonical : Identity → Prop
  | .unassigned => True
  | .assigned id => 1 ≤ id ∧ (toString id).length ≤ maxDigits
  | .pending name =>
    name ≠ "" ∧ ¬ (AsciiDigits name ∧ 0 < denoted name) ∧ ¬ (AsciiDigits name ∧ maxDigits < name.length)

theorem canonical_of_parse (h : parse name = .ok identity) : identity.Canonical := by
  cases identity with
  | unassigned => trivial
  | pending chosen =>
    cases parse_eq_iff.mp h with
    | pending hne hname =>
      exact ⟨hne, fun h => hname ⟨h.1, .inr h.2⟩, fun h => hname ⟨h.1, .inl h.2⟩⟩
  | assigned id =>
    obtain ⟨hpos, hshort, zeros, rfl⟩ := parse_eq_assigned_iff.mp h
    refine ⟨hpos, Nat.le_trans ?_ hshort⟩
    rw [padded, String.length_append]
    exact Nat.le_add_left _ _

theorem Canonical.parse_render (h : identity.Canonical) : parse identity.render = .ok identity := by
  cases identity with
  | unassigned => exact parse_eq_iff.mpr (.unassigned rfl)
  | assigned id => exact parse_toString h.1 ((length_toString_le_iff h.1 (by decide)).mp h.2)
  | pending name =>
    obtain ⟨hne, hnumber, hlong⟩ := h
    refine parse_eq_iff.mpr (.pending hne ?_)
    rintro ⟨hdigits, htoo | hpos⟩
    · exact hlong ⟨hdigits, htoo⟩
    · exact hnumber ⟨hdigits, hpos⟩

/-- **The grammar of external names, and its inverse.** An empty name is no identity; ASCII digits
that denote a positive number are an id unless there are too many of them; too many digits are the
one error; and everything else is a name. The identities that come about in this way are the
canonical ones, and these are what is read again when they are rendered. -/
theorem parse_grammar (name : String) (identity : Identity) :
    (parse name = .ok .unassigned ↔ name = "") ∧
      (∀ id : Int, parse name = .ok (.assigned id) ↔
        name ≠ "" ∧ AsciiDigits name ∧ name.length ≤ maxDigits ∧ (denoted name : Int) = id ∧ 0 < id) ∧
      ((∃ fault, parse name = .error fault) ↔ AsciiDigits name ∧ maxDigits < name.length) ∧
      (∀ chosen, parse name = .ok (.pending chosen) ↔
        chosen = name ∧ name ≠ "" ∧
          ¬ (AsciiDigits name ∧ (maxDigits < name.length ∨ 0 < denoted name))) ∧
      ((∃ source, parse source = .ok identity) ↔ identity.Canonical) ∧
      (parse identity.render = .ok identity ↔ identity.Canonical) := by
  refine ⟨?_, ?_, ?_, ?_, ?_, ?_⟩
  · rw [parse_eq_iff]
    constructor
    · intro h
      cases h with
      | unassigned hempty => exact hempty
    · exact .unassigned
  · intro id
    rw [parse_eq_iff]
    constructor
    · intro h
      cases h with
      | assigned hne hdigits hshort hpos => exact ⟨hne, hdigits, hshort, rfl, by omega⟩
    · rintro ⟨hne, hdigits, hshort, rfl, hpos⟩
      exact .assigned hne hdigits hshort (by omega)
  · rw [parse_eq_error_iff, List.all_eq_true, String.length_toList]
    exact Iff.rfl
  · intro chosen
    rw [parse_eq_iff]
    constructor
    · intro h
      cases h with
      | pending hne hname => exact ⟨rfl, hne, hname⟩
    · rintro ⟨rfl, hne, hname⟩
      exact .pending hne hname
  · exact ⟨fun ⟨_, h⟩ => canonical_of_parse h, fun h => ⟨_, h.parse_render⟩⟩
  · exact ⟨canonical_of_parse, Canonical.parse_render⟩

end Identity

end DropletReconciler
