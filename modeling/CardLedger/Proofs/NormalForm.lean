import Mathlib.Data.Bool.Basic
import Mathlib.Data.List.DropRight
import CardLedger.Text.Normal

/-!
# Normal forms of texts

A text in normal form is its own normal form. No lower-case form of a character has another lower-case
form, which is checked on the table row by row, and none is a capital sigma, so that a second lower-casing
finds nothing to do and no context to look at. Nor is any of them blank: what was trimmed stays trimmed.

Main statements: `normalize_normalize`, `normalize_padded`.
-/

namespace CardLedger.Text

/-! ## Rows of the table -/

namespace CaseRange

/-- The code point that a row puts in the place of another. -/
def lowered (r : CaseRange) (code : Nat) : Nat :=
  (code + r.shift).toNat

/-- Whether the lower-case forms of one row are no code points of another: they lie below or above it, or
between its code points, which are two apart. -/
def isApartFrom (r q : CaseRange) : Bool :=
  Nat.blt (r.lowered r.last) q.first || Nat.blt q.last (r.lowered r.first) ||
    (q.stride == 2 && (r.stride == 2 || r.first == r.last) && (r.lowered r.first + q.first) % 2 == 1)

/-- Whether the lower-case forms of a row are characters, not blank, and without other lower-case forms. -/
def isFinal (r : CaseRange) : Bool :=
  decide (0 ≤ r.first + r.shift) &&
    (decide (r.lowered r.last < 0xD800) ||
      decide (0xDFFF < r.lowered r.first) && decide (r.lowered r.last < 0x110000)) &&
    (decide (r.lowered r.last < 'İ'.toNat) || decide ('İ'.toNat < r.lowered r.first)) &&
    (blankRanges.all fun blank =>
      decide (r.lowered r.last < blank.1) || decide (blank.2 < r.lowered r.first)) &&
    lowerRanges.all r.isApartFrom

variable {r q : CaseRange} {code : Nat}

theorem holds_iff : r.holds code = true ↔
    r.first ≤ code ∧ code ≤ r.last ∧ (code - r.first) % r.stride = 0 := by
  simp [holds, and_assoc]

theorem lowered_bounds (hHolds : r.holds code = true) :
    r.lowered r.first ≤ r.lowered code ∧ r.lowered code ≤ r.lowered r.last := by
  obtain ⟨hFirst, hLast, -⟩ := holds_iff.mp hHolds
  unfold lowered
  omega

theorem holds_lowered_of_isApartFrom (hApart : r.isApartFrom q = true) (hShift : 0 ≤ r.first + r.shift)
    (hHolds : r.holds code = true) : q.holds (r.lowered code) = false := by
  refine Bool.eq_false_of_not_eq_true fun hOther => ?_
  obtain ⟨hLow, hHigh⟩ := lowered_bounds hHolds
  obtain ⟨hOtherFirst, hOtherLast, hOtherStride⟩ := holds_iff.mp hOther
  simp only [isApartFrom, Bool.or_eq_true, Bool.and_eq_true, Nat.blt_eq, beq_iff_eq] at hApart
  rcases hApart with (hBelow | hAbove) | ⟨⟨hTwo, hOwn⟩, hOdd⟩
  · omega
  · omega
  · -- the forms of the row are all odd steps away from the first code point of the other
    obtain ⟨hFirst, hLast, hStride⟩ := holds_iff.mp hHolds
    have hEven : (code - r.first) % 2 = 0 := by
      rcases hOwn with hOwn | hSingle
      · rwa [hOwn] at hStride
      · have hSame : code - r.first = 0 := by omega
        rw [hSame]
    rw [hTwo] at hOtherStride
    unfold lowered at hOdd hOtherStride hOtherFirst
    omega

/-- The lower-case form that a checked row gives is a character, not blank, and left alone by the table. -/
theorem lowered_of_isFinal (hFinal : r.isFinal = true) (hHolds : r.holds code = true) :
    (r.lowered code).isValidChar ∧ r.lowered code ≠ 'İ'.toNat ∧
      (∀ blank ∈ blankRanges, r.lowered code < blank.1 ∨ blank.2 < r.lowered code) ∧
      ∀ q ∈ lowerRanges, q.holds (r.lowered code) = false := by
  obtain ⟨hLow, hHigh⟩ := lowered_bounds hHolds
  simp only [isFinal, Bool.and_eq_true, Bool.or_eq_true, decide_eq_true_eq, List.all_eq_true] at hFinal
  obtain ⟨⟨⟨⟨hShift, hValid⟩, hDotted⟩, hBlank⟩, hApart⟩ := hFinal
  refine ⟨?_, by omega, fun blank hMem => ?_, fun q hMem => ?_⟩
  · unfold Nat.isValidChar
    omega
  · have hOutside := hBlank blank hMem
    omega
  · exact holds_lowered_of_isApartFrom (hApart q hMem) hShift hHolds

end CaseRange

/-- Every row of the table has passed the check. -/
theorem isFinal_rows : lowerRanges.all CaseRange.isFinal = true := by
  decide +kernel

/-! ## Lower-case characters -/

/-- A character that lower-casing leaves alone. -/
def IsLower (c : Char) : Prop :=
  c ≠ 'İ' ∧ ∀ r ∈ lowerRanges, r.holds c.toNat = false

instance (c : Char) : Decidable (IsLower c) :=
  inferInstanceAs (Decidable (_ ∧ _))

variable {c d : Char} {cs before after front back : List Char}

theorem lowerChar_of_isLower (hLower : IsLower c) : lowerChar c = [c] := by
  unfold lowerChar
  rw [if_neg hLower.1, List.find?_eq_none.mpr fun r hMem => by simp [hLower.2 r hMem]]

theorem ne_sigma_of_isLower (hLower : IsLower c) : c ≠ 'Σ' := by
  rintro rfl
  exact absurd hLower (by decide +kernel)

theorem isBlank_eq_false_iff :
    isBlank c = false ↔ ∀ blank ∈ blankRanges, c.toNat < blank.1 ∨ blank.2 < c.toNat := by
  unfold isBlank
  simp only [List.any_eq_false, Bool.and_eq_true, decide_eq_true_eq, not_and_or, Nat.not_le]

theorem toNat_ofNat {code : Nat} (hValid : code.isValidChar) : (Char.ofNat code).toNat = code := by
  rw [Char.ofNat, dif_pos hValid]
  rfl

/-- The lower-case form of a character consists of lower-case characters, which are blank only if the
character is blank itself. -/
theorem isLower_of_mem_lowerChar (hMem : d ∈ lowerChar c) :
    IsLower d ∧ (isBlank c = false → isBlank d = false) := by
  unfold lowerChar at hMem
  by_cases hDotted : c = 'İ'
  · rw [if_pos hDotted] at hMem
    have hForm : d = 'i' ∨ d = '\u0307' := by simpa using hMem
    rcases hForm with rfl | rfl
    · exact ⟨by decide +kernel, fun _ => by decide⟩
    · exact ⟨by decide +kernel, fun _ => by decide⟩
  · rw [if_neg hDotted] at hMem
    cases hRow : lowerRanges.find? fun r => r.holds c.toNat with
    | none =>
        rw [hRow] at hMem
        obtain rfl := List.mem_singleton.mp hMem
        exact ⟨⟨hDotted, by simpa using hRow⟩, id⟩
    | some r =>
        rw [hRow] at hMem
        have hFinal : r.isFinal = true :=
          List.all_eq_true.mp isFinal_rows r (List.mem_of_find?_eq_some hRow)
        have hHolds : r.holds c.toNat = true := by
          simpa using List.find?_some hRow
        obtain ⟨hValid, hNotDotted, hNotBlank, hRows⟩ := CaseRange.lowered_of_isFinal hFinal hHolds
        have hForm : d.toNat = r.lowered c.toNat := by
          rw [List.mem_singleton.mp hMem]
          exact toNat_ofNat hValid
        rw [← hForm] at hNotDotted hNotBlank hRows
        refine ⟨⟨?_, hRows⟩, fun _ => isBlank_eq_false_iff.mpr hNotBlank⟩
        rintro rfl
        exact hNotDotted rfl

/-! ## Lower-case texts -/

/-- The lower-case form of a character in its place. -/
theorem isLower_of_mem_form
    (hMem : d ∈ if c = 'Σ' then [sigmaForm before after] else lowerChar c) :
    IsLower d ∧ (isBlank c = false → isBlank d = false) := by
  by_cases hSigma : c = 'Σ'
  · rw [if_pos hSigma] at hMem
    rw [List.mem_singleton.mp hMem]
    unfold sigmaForm
    split
    · exact ⟨by decide +kernel, fun _ => by decide⟩
    · exact ⟨by decide +kernel, fun _ => by decide⟩
  · rw [if_neg hSigma] at hMem
    exact isLower_of_mem_lowerChar hMem

theorem form_ne_nil : (if c = 'Σ' then [sigmaForm before after] else lowerChar c) ≠ [] := by
  unfold lowerChar
  split
  · simp
  · split
    · simp
    · split
      · simp
      · simp

theorem isLower_of_mem_lowerFrom (hMem : d ∈ lowerFrom before cs) : IsLower d := by
  induction cs generalizing before with
  | nil => cases hMem
  | cons c after ih =>
      rcases List.mem_append.mp hMem with hFirst | hRest
      · exact (isLower_of_mem_form hFirst).1
      · exact ih hRest

theorem lowerFrom_of_isLower (hLower : ∀ c ∈ cs, IsLower c) : lowerFrom before cs = cs := by
  induction cs generalizing before with
  | nil => rfl
  | cons c after ih =>
      obtain ⟨hFirst, hRest⟩ := List.forall_mem_cons.mp hLower
      rw [lowerFrom, if_neg (ne_sigma_of_isLower hFirst), lowerChar_of_isLower hFirst, ih hRest]
      rfl

/-- To lower the case twice is to lower it once. -/
theorem lowerCase_lowerCase (text : String) : lowerCase (lowerCase text) = lowerCase text := by
  unfold lowerCase
  rw [String.toList_ofList, lowerFrom_of_isLower fun c hMem => isLower_of_mem_lowerFrom hMem]

/-! ## Trimmed texts -/

/-- A text with no blank at either end. -/
structure IsTrimmed (cs : List Char) : Prop where
  front : ∀ c ∈ cs.head?, isBlank c = false
  back : ∀ c ∈ cs.getLast?, isBlank c = false

theorem dropWhile_of_head (hHead : ∀ c ∈ cs.head?, isBlank c = false) : cs.dropWhile isBlank = cs := by
  cases cs with
  | nil => rfl
  | cons c rest => exact List.dropWhile_cons_of_neg (by simp [hHead c rfl])

theorem isBlank_head_dropWhile : ∀ c ∈ (cs.dropWhile isBlank).head?, isBlank c = false := by
  intro c hMem
  have hHead := List.head?_dropWhile_not isBlank cs
  rw [hMem] at hHead
  exact hHead

theorem trimChars_of_isTrimmed (hTrimmed : IsTrimmed cs) : trimChars cs = cs := by
  unfold trimChars trimBack trimFront
  rw [dropWhile_of_head hTrimmed.front, dropWhile_of_head, List.reverse_reverse]
  rw [List.head?_reverse]
  exact hTrimmed.back

theorem isTrimmed_trimChars : IsTrimmed (trimChars cs) where
  front := by
    intro c hMem
    -- what is left of a text that was trimmed at its front begins as the text does
    obtain ⟨rest, hRest⟩ : trimChars cs <+: trimFront cs := List.rdropWhile_prefix isBlank (trimFront cs)
    refine @isBlank_head_dropWhile cs c ?_
    change c ∈ (trimFront cs).head?
    rw [← hRest, List.head?_append, hMem]
    rfl
  back := by
    unfold trimChars trimBack
    rw [List.getLast?_reverse]
    exact isBlank_head_dropWhile

/-- To trim twice is to trim once. -/
theorem trim_trim (text : String) : trim (trim text) = trim text := by
  unfold trim
  rw [String.toList_ofList, trimChars_of_isTrimmed isTrimmed_trimChars]

/-- Blanks around a text do not count. -/
theorem trimChars_padded (hFront : ∀ c ∈ front, isBlank c = true) (hBack : ∀ c ∈ back, isBlank c = true) :
    trimChars (front ++ cs ++ back) = trimChars cs := by
  have hBackReverse : ∀ c ∈ back.reverse, isBlank c = true := fun c hMem => hBack c (List.mem_reverse.mp hMem)
  unfold trimChars trimBack trimFront
  rw [List.append_assoc, List.dropWhile_append_of_pos hFront, List.dropWhile_append]
  split
  · next hEmpty =>
      rw [List.isEmpty_iff.mp hEmpty, List.dropWhile_eq_nil_iff.mpr hBack]
  · rw [List.reverse_append, List.dropWhile_append_of_pos hBackReverse]

/-! ## Normal forms -/

theorem lowerFrom_ne_nil (hSome : cs ≠ []) : lowerFrom before cs ≠ [] := by
  cases cs with
  | nil => exact absurd rfl hSome
  | cons c after => exact List.append_ne_nil_of_left_ne_nil form_ne_nil _

/-- Lower-casing leaves no blank at the end of a text that had none. -/
theorem isBlank_getLast_lowerFrom (hBack : ∀ c ∈ cs.getLast?, isBlank c = false) :
    ∀ d ∈ (lowerFrom before cs).getLast?, isBlank d = false := by
  induction cs generalizing before with
  | nil => simp [lowerFrom]
  | cons c after ih =>
      intro d hMem
      unfold lowerFrom at hMem
      cases after with
      | nil =>
          rw [lowerFrom, List.append_nil] at hMem
          exact (isLower_of_mem_form (List.mem_of_getLast? hMem)).2 (hBack c rfl)
      | cons next rest =>
          rw [List.getLast?_append_of_ne_nil _ (lowerFrom_ne_nil (List.cons_ne_nil next rest))] at hMem
          exact ih (fun e hLast => hBack e (by rwa [List.getLast?_cons_cons])) d hMem

theorem IsTrimmed.lowerFrom (hTrimmed : IsTrimmed cs) : IsTrimmed (lowerFrom before cs) where
  front := by
    cases cs with
    | nil => simp [Text.lowerFrom]
    | cons c after =>
        intro d hMem
        unfold Text.lowerFrom at hMem
        rw [List.head?_append_of_ne_nil _ form_ne_nil] at hMem
        exact (isLower_of_mem_form (List.mem_of_head? hMem)).2 (hTrimmed.front c rfl)
  back := isBlank_getLast_lowerFrom hTrimmed.back

/-- A normal form is its own normal form. -/
theorem normalize_normalize (text : String) : normalize (normalize text) = normalize text := by
  have hTrimmed : trim (normalize text) = normalize text := by
    unfold normalize lowerCase trim
    rw [String.toList_ofList, String.toList_ofList,
      trimChars_of_isTrimmed (IsTrimmed.lowerFrom isTrimmed_trimChars)]
  calc normalize (normalize text)
    _ = lowerCase (trim (normalize text)) := rfl
    _ = lowerCase (lowerCase (trim text)) := by rw [hTrimmed]; rfl
    _ = normalize text := lowerCase_lowerCase (trim text)

theorem normalize_padded {text : String} (hFront : ∀ c ∈ front, isBlank c = true)
    (hBack : ∀ c ∈ back, isBlank c = true) :
    normalize (String.ofList front ++ text ++ String.ofList back) = normalize text := by
  unfold normalize trim
  rw [String.toList_append, String.toList_append, String.toList_ofList, String.toList_ofList,
    trimChars_padded hFront hBack]

end CardLedger.Text
