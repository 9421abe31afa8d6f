import DropletReconciler.Text.Blank

/-!
# The words of a text

A text is laid out as words with blanks before, between and behind them. `words` finds these words
again (`words_eq_iff`), so it does not matter which blanks there are, nor how many.
-/

namespace DropletReconciler.Text

variable {c : Char} {cs gap word rest : List Char} {found : List (List Char)}

/-- A run of blanks, which may be empty. -/
def IsGap (cs : List Char) : Prop := ∀ c ∈ cs, isBlank c = true

structure IsWord (cs : List Char) : Prop where
  ne_nil : cs ≠ []
  solid : ∀ c ∈ cs, isBlank c = false

/-- What stands behind a word: nothing, or something that begins with a blank. -/
def EndsWord (cs : List Char) : Prop := ∀ c ∈ cs.head?, isBlank c = true

/-- A text laid out as words. -/
inductive LaidOut : List Char → List (List Char) → Prop
  | gap {gap : List Char} (hgap : IsGap gap) : LaidOut gap []
  | word {gap word rest : List Char} {found : List (List Char)} (hgap : IsGap gap)
      (hword : IsWord word) (hend : EndsWord rest) (hrest : LaidOut rest found) :
      LaidOut (gap ++ word ++ rest) (word :: found)

/-! ### The words are found -/

theorem words_cons_of_blank (hc : isBlank c = true) (cs : List Char) :
    words (c :: cs) = words cs := by
  rw [words, List.foldr_cons, WordSplit.push, if_pos hc]
  rfl

/-- The open word is the run of characters up to the first blank. -/
theorem foldr_push (cs : List Char) :
    cs.foldr WordSplit.push ⟨[], []⟩ =
      ⟨cs.takeWhile fun c => !isBlank c, words (cs.dropWhile fun c => !isBlank c)⟩ := by
  induction cs with
  | nil => rfl
  | cons c cs ih =>
    rw [List.takeWhile_cons, List.dropWhile_cons]
    cases hc : isBlank c with
    | true =>
      have hwords : words (c :: cs) = (cs.foldr WordSplit.push ⟨[], []⟩).close :=
        words_cons_of_blank hc cs
      rw [List.foldr_cons, WordSplit.push, if_pos hc, ← hwords]
      rfl
    | false =>
      rw [List.foldr_cons, WordSplit.push, if_neg (by simp [hc]), ih]
      rfl

theorem words_append_of_gap (hgap : IsGap gap) (cs : List Char) :
    words (gap ++ cs) = words cs := by
  induction gap with
  | nil => rfl
  | cons c gap ih =>
    obtain ⟨hc, hrest⟩ := List.forall_mem_cons.mp hgap
    rw [List.cons_append, words_cons_of_blank hc, ih hrest]

theorem words_append_of_word (hword : IsWord word) (hend : EndsWord rest) :
    words (word ++ rest) = word :: words rest := by
  have hsolid : ∀ c ∈ word, (!isBlank c) = true := fun c hc => by rw [hword.solid c hc]; rfl
  have hstop : (rest.takeWhile fun c => !isBlank c) = [] ∧
      (rest.dropWhile fun c => !isBlank c) = rest := by
    cases rest with
    | nil => exact ⟨rfl, rfl⟩
    | cons c rest => simp [hend c rfl]
  rw [words, foldr_push, List.takeWhile_append_of_pos hsolid, List.dropWhile_append_of_pos hsolid,
    hstop.1, hstop.2, List.append_nil, WordSplit.close, if_neg (by simpa using hword.ne_nil)]

theorem LaidOut.words_eq (h : LaidOut cs found) : words cs = found := by
  induction h with
  | @gap gap hgap =>
    rw [← List.append_nil gap, words_append_of_gap hgap]
    rfl
  | word hgap hword hend _ ih =>
    rw [List.append_assoc, words_append_of_gap hgap, words_append_of_word hword hend, ih]

/-! ### Every text is laid out -/

theorem LaidOut.cons_blank (h : LaidOut cs found) (hc : isBlank c = true) :
    LaidOut (c :: cs) found := by
  cases h with
  | gap hgap => exact .gap (List.forall_mem_cons.mpr ⟨hc, hgap⟩)
  | word hgap hword hend hrest =>
    exact .word (List.forall_mem_cons.mpr ⟨hc, hgap⟩) hword hend hrest

/-- Another character makes a word longer, or is a word of its own where blanks follow. -/
theorem LaidOut.exists_cons_solid (h : LaidOut cs found) (hc : isBlank c = false) :
    ∃ found, LaidOut (c :: cs) found := by
  have hnone : IsGap [] := List.forall_mem_nil _
  have hone : IsWord [c] := ⟨List.cons_ne_nil _ _, List.forall_mem_singleton.mpr hc⟩
  cases h with
  | gap hgap =>
    have hend : EndsWord cs := fun d hd => hgap d (List.mem_of_mem_head? hd)
    exact ⟨_, .word hnone hone hend (.gap hgap)⟩
  | @word gap word rest found hgap hword hend hrest =>
    cases gap with
    | nil =>
      have hlonger : IsWord (c :: word) :=
        ⟨List.cons_ne_nil _ _, List.forall_mem_cons.mpr ⟨hc, hword.solid⟩⟩
      exact ⟨_, .word hnone hlonger hend hrest⟩
    | cons d gap =>
      have hblank : EndsWord (d :: gap ++ word ++ rest) := by
        rintro e ⟨⟩
        exact hgap d List.mem_cons_self
      exact ⟨_, .word hnone hone hblank (.word hgap hword hend hrest)⟩

theorem exists_laidOut (cs : List Char) : ∃ found, LaidOut cs found := by
  induction cs with
  | nil => exact ⟨[], .gap (List.forall_mem_nil _)⟩
  | cons c cs ih =>
    obtain ⟨found, h⟩ := ih
    cases hc : isBlank c with
    | true => exact ⟨found, h.cons_blank hc⟩
    | false => exact h.exists_cons_solid hc

/-- **The words of a text** are those that it is laid out as. -/
theorem words_eq_iff : words cs = found ↔ LaidOut cs found := by
  refine ⟨?_, LaidOut.words_eq⟩
  rintro rfl
  obtain ⟨found, h⟩ := exists_laidOut cs
  rwa [h.words_eq]

end DropletReconciler.Text
