import DropletReconciler.Log.Registry
import Mathlib.Data.List.Nodup
import Mathlib.Logic.Relation

/-!
# Changes of a registry

A registry is changed by one handler at a time, or emptied. `Sound` holds of it at any time: what is
attached is what is registered, in order of the ids, and no id is above the last one given out.
`Evolves` is any number of changes. Since ids only grow, a handler with an id that was given out
before some changes was there before them.
-/

namespace DropletReconciler

/-! ### Numbers that ids are given by -/

theorem Binary64.magnitude_den_pos (mantissa : Nat) (exponent : Int) :
    0 < (magnitude mantissa exponent).den := by
  unfold magnitude Fraction.scale
  split
  · exact Nat.one_pos
  · rw [Nat.one_mul]
    exact Nat.pow_pos Nat.two_pos

/-- A value equals one integer at most, whatever its sort. -/
theorem Value.eq_of_equalsInt {v : Value} {m n : Int} (hm : v.equalsInt m = true)
    (hn : v.equalsInt n = true) : m = n := by
  cases v with
  | bool b => exact (beq_iff_eq.mp hm).symm.trans (beq_iff_eq.mp hn)
  | int k => exact (beq_iff_eq.mp hm).symm.trans (beq_iff_eq.mp hn)
  | float x =>
    cases x with
    | finite negative mantissa exponent =>
      have hproducts : m * (Binary64.magnitude mantissa exponent).den =
          n * (Binary64.magnitude mantissa exponent).den :=
        (beq_iff_eq.mp hm).symm.trans (beq_iff_eq.mp hn)
      have hden := Binary64.magnitude_den_pos mantissa exponent
      exact Int.eq_of_mul_eq_mul_right (by omega) hproducts
    | infinite negative | nan => cases hm
  | null | text s | moment t | list items | table fields => cases hm

namespace Log.Registry

variable {r s t : Registry}

/-- The attached handlers are the registered ones, in order of the ids given out. -/
structure Sound (r : Registry) : Prop where
  attached_eq : r.attached = r.registered
  increasing : (r.registered.map Handler.id).Pairwise (· < ·)
  positive : ∀ handler ∈ r.registered, 0 < handler.id
  id_le : ∀ handler ∈ r.registered, handler.id ≤ r.issued

/-- Keeps some handlers and takes the others away. -/
def keep (kept : Handler → Bool) (r : Registry) : Registry :=
  { r with registered := r.registered.filter kept, attached := r.attached.filter kept }

theorem keep_keep (kept kept' : Handler → Bool) (r : Registry) :
    (r.keep kept).keep kept' = r.keep fun handler => kept handler && kept' handler := by
  simp only [keep, List.filter_filter, Bool.and_comm]

theorem sound_empty : empty.Sound := ⟨rfl, .nil, nofun, nofun⟩

theorem Sound.attached_increasing (h : r.Sound) :
    (r.attached.map Handler.id).Pairwise (· < ·) := by
  rw [h.attached_eq]
  exact h.increasing

theorem Sound.id_le_of_mem_attached (h : r.Sound) {handler : Handler}
    (hmem : handler ∈ r.attached) : handler.id ≤ r.issued := by
  rw [h.attached_eq] at hmem
  exact h.id_le handler hmem

/-! ### One change -/

theorem Sound.add (h : r.Sound) (level : Int) (sink : Sink) : (r.add level sink).Sound where
  attached_eq := congrArg (· ++ _) h.attached_eq
  increasing := by
    have hlast : ∀ id ∈ r.registered.map Handler.id, id < r.issued + 1 := by
      intro id hid
      obtain ⟨handler, hmem, rfl⟩ := List.mem_map.mp hid
      exact Nat.lt_succ_of_le (h.id_le handler hmem)
    simp only [Registry.add, List.map_append, List.map_cons, List.map_nil]
    refine List.pairwise_append.mpr ⟨h.increasing, List.pairwise_singleton _ _, ?_⟩
    intro id hid last hmem
    rw [List.mem_singleton.mp hmem]
    exact hlast id hid
  positive := by
    intro handler hmem
    obtain hold | hnew := List.mem_append.mp hmem
    · exact h.positive handler hold
    · rw [List.mem_singleton.mp hnew]
      exact Nat.succ_pos r.issued
  id_le := by
    intro handler hmem
    obtain hold | hnew := List.mem_append.mp hmem
    · exact Nat.le_succ_of_le (h.id_le handler hold)
    · rw [List.mem_singleton.mp hnew]
      exact Nat.le_refl _

theorem Sound.keep (h : r.Sound) (kept : Handler → Bool) : (r.keep kept).Sound where
  attached_eq := congrArg (List.filter kept) h.attached_eq
  increasing := h.increasing.sublist (List.filter_sublist.map _)
  positive handler hmem := h.positive handler (List.mem_filter.mp hmem).1
  id_le handler hmem := h.id_le handler (List.mem_filter.mp hmem).1

theorem Sound.keep_eq_self (h : r.Sound) {kept : Handler → Bool}
    (hkept : ∀ handler ∈ r.registered, kept handler = true) : r.keep kept = r := by
  obtain ⟨issued, handlers, attached⟩ := r
  obtain rfl : attached = handlers := h.attached_eq
  rw [Registry.keep, List.filter_eq_self.mpr hkept]

theorem Sound.eq_of_id_eq (h : r.Sound) {handler other : Handler} (hmem : handler ∈ r.registered)
    (hother : other ∈ r.registered) (hid : handler.id = other.id) : handler = other := by
  have hnodup : (r.registered.map Handler.id).Nodup := h.increasing.imp Nat.ne_of_lt
  exact List.inj_on_of_nodup_map hnodup hmem hother hid

theorem Sound.removeAll_eq (h : r.Sound) : r.removeAll = r.keep fun _ => false := by
  have hdetached : detach r.registered r.attached = [] := by
    unfold detach
    rw [h.attached_eq, List.filter_eq_nil_iff]
    intro handler hmem
    simp [hmem]
  simp [removeAll, Registry.keep, hdetached]

/-- Removing an id takes away the handler that has it, and nothing when none has it. -/
theorem Sound.remove_eq (h : r.Sound) (id : Value) :
    r.remove id = r.keep fun handler => !id.equalsInt handler.id := by
  unfold remove find?
  cases hfind : r.registered.find? fun handler => id.equalsInt handler.id with
  | none =>
    refine (h.keep_eq_self ?_).symm
    intro handler hmem
    simpa using List.find?_eq_none.mp hfind handler hmem
  | some found =>
    have hmem : found ∈ r.registered := List.mem_of_find?_eq_some hfind
    have hid : id.equalsInt found.id = true := by simpa using List.find?_some hfind
    -- The id belongs to this handler and to no other.
    have hother : ∀ handler ∈ r.registered,
        (id.equalsInt handler.id = true ↔ handler.id = found.id) := by
      intro handler _
      constructor
      · exact fun hsame => Int.ofNat.inj (Value.eq_of_equalsInt hsame hid)
      · exact fun hsame => hsame ▸ hid
    have hregistered : r.registered.filter (fun other => other.id ≠ found.id) =
        r.registered.filter fun handler => !id.equalsInt handler.id := by
      apply List.filter_congr
      intro handler hhandler
      rw [decide_not, Bool.not_inj_iff, Bool.eq_iff_iff, decide_eq_true_iff]
      exact (hother handler hhandler).symm
    have hattached : detach [found] r.attached =
        r.attached.filter fun handler => !id.equalsInt handler.id := by
      unfold detach
      rw [h.attached_eq]
      apply List.filter_congr
      intro handler hhandler
      have hsame : handler = found ↔ handler.id = found.id :=
        ⟨congrArg Handler.id, h.eq_of_id_eq hhandler hmem⟩
      rw [Bool.not_inj_iff, Bool.eq_iff_iff, hother handler hhandler, ← hsame]
      simp
    simp only [Registry.keep, hregistered, hattached]

/-- One elementary change. -/
inductive Change (r : Registry) : Registry → Prop
  | add (level : Int) (sink : Sink) : Change r (r.add level sink)
  | remove (id : Value) : Change r (r.remove id)
  | removeAll : Change r r.removeAll

/-- What one change does to a sound registry: it adds a handler with the next id, or keeps some of
those that are there. -/
theorem Change.cases_of_sound (h : r.Sound) (hchange : Change r s) :
    (∃ level sink, s = r.add level sink) ∨ ∃ kept, s = r.keep kept := by
  cases hchange with
  | add level sink => exact .inl ⟨level, sink, rfl⟩
  | remove id => exact .inr ⟨_, h.remove_eq id⟩
  | removeAll => exact .inr ⟨_, h.removeAll_eq⟩

theorem Change.sound (h : r.Sound) (hchange : Change r s) : s.Sound := by
  obtain ⟨level, sink, rfl⟩ | ⟨kept, rfl⟩ := hchange.cases_of_sound h
  · exact h.add level sink
  · exact h.keep kept

theorem Change.issued_le (h : r.Sound) (hchange : Change r s) : r.issued ≤ s.issued := by
  obtain ⟨level, sink, rfl⟩ | ⟨kept, rfl⟩ := hchange.cases_of_sound h
  · exact Nat.le_succ r.issued
  · exact Nat.le_refl r.issued

/-- A handler that was not there has an id that was not given out. -/
theorem Change.mem_of_id_le (h : r.Sound) (hchange : Change r s) {handler : Handler}
    (hmem : handler ∈ s.registered) (hid : handler.id ≤ r.issued) : handler ∈ r.registered := by
  obtain ⟨level, sink, rfl⟩ | ⟨kept, rfl⟩ := hchange.cases_of_sound h
  · obtain hold | hnew := List.mem_append.mp hmem
    · exact hold
    · rw [List.mem_singleton.mp hnew] at hid
      exact absurd hid (Nat.not_succ_le_self r.issued)
  · exact (List.mem_filter.mp hmem).1

/-! ### Any number of changes -/

abbrev Evolves : Registry → Registry → Prop := Relation.ReflTransGen Change

theorem Evolves.sound (h : r.Sound) (hevolves : Evolves r s) : s.Sound := by
  induction hevolves with
  | refl => exact h
  | tail _ hchange ih => exact hchange.sound ih

theorem Evolves.issued_le (h : r.Sound) (hevolves : Evolves r s) : r.issued ≤ s.issued := by
  induction hevolves with
  | refl => exact Nat.le_refl r.issued
  | tail hearlier hchange ih => exact Nat.le_trans ih (hchange.issued_le (Evolves.sound h hearlier))

/-- **No id is given out twice.** A handler with an id from before some changes was there before
them. -/
theorem Evolves.mem_of_id_le (h : r.Sound) (hevolves : Evolves r s) {handler : Handler}
    (hmem : handler ∈ s.registered) (hid : handler.id ≤ r.issued) : handler ∈ r.registered := by
  induction hevolves with
  | refl => exact hmem
  | tail hearlier hchange ih =>
    have hissued := Nat.le_trans hid (Evolves.issued_le h hearlier)
    exact ih (hchange.mem_of_id_le (Evolves.sound h hearlier) hmem hissued)

end Log.Registry

end DropletReconciler
