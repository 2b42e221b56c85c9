import CardLedger.Proofs.CardNumber
import CardLedger.Proofs.Digits

/-!
# What a check digit is good for

A check digit belongs to the digits in front of it, whatever else stands between them, and it is the only
one that belongs there. Two slips of a hand come to light: one digit that is wrong, wherever it stands, and
two neighbours that have changed places, unless they are a zero and a nine.

A number is valid exactly if its Luhn sum is divisible by ten (`isValidList_iff`), and a stretch of so many
digits adds to the sum by itself, in a phase that its place alone decides (`exists_numberSum_around`). So
each slip comes down to a congruence between digits.

Main statement: `check_digit_detects_slips`.
-/

namespace CardLedger.Luhn

/-- What a digit adds to a sum in which it is doubled or not. -/
def share (double : Bool) (d : Nat) : Nat :=
  if double then doubled d else d

/-- The Luhn sum of a number, its check digit included. -/
def numberSum (cs : List Char) : Nat :=
  sumFrom false (cs.reverse.filterMap Number.digit?)

variable {cs front back body : List Char} {c x y : Char} {d e : Nat} {double : Bool}

/-! ## Sums -/

@[simp]
theorem sumFrom_cons (double : Bool) (d : Nat) (rest : List Nat) :
    sumFrom double (d :: rest) = share double d + sumFrom (!double) rest := rfl

theorem sumFrom_append (double : Bool) (ds es : List Nat) :
    sumFrom double (ds ++ es) = sumFrom double ds + sumFrom (not^[ds.length] double) es := by
  induction ds generalizing double with
  | nil => exact (Nat.zero_add _).symm
  | cons d ds ih =>
      rw [List.cons_append, sumFrom_cons, sumFrom_cons, ih, List.length_cons,
        Function.iterate_succ_apply, Nat.add_assoc]

theorem share_le (double : Bool) (hDigit : d < 10) : share double d ≤ 9 := by
  unfold share doubled
  split_ifs <;> omega

theorem sumFrom_le (double : Bool) {ds : List Nat} (hDigits : ∀ d ∈ ds, d < 10) :
    sumFrom double ds ≤ 9 * ds.length := by
  induction ds generalizing double with
  | nil => exact Nat.le_refl 0
  | cons d ds ih =>
      rw [List.forall_mem_cons] at hDigits
      have hShare := share_le double hDigits.1
      have hRest := ih (!double) hDigits.2
      rw [sumFrom_cons, List.length_cons]
      omega

/-- A stretch of so many digits adds to the sum by itself, in a phase that its place alone decides. -/
theorem exists_numberSum_around (front back : List Char) (n : Nat) :
    ∃ double rest, ∀ middle : List Char, (middle.reverse.filterMap Number.digit?).length = n →
      numberSum (front ++ (middle ++ back)) =
        sumFrom double (middle.reverse.filterMap Number.digit?) + rest := by
  obtain ⟨behind, hBehind⟩ : ∃ ds, ds = back.reverse.filterMap Number.digit? := ⟨_, rfl⟩
  obtain ⟨before, hBefore⟩ : ∃ ds, ds = front.reverse.filterMap Number.digit? := ⟨_, rfl⟩
  refine ⟨not^[behind.length] false,
    sumFrom false behind + sumFrom (not^[behind.length + n] false) before, ?_⟩
  intro middle hLength
  unfold numberSum
  rw [List.reverse_append, List.reverse_append, List.filterMap_append, List.filterMap_append, ← hBehind,
    ← hBefore, sumFrom_append, sumFrom_append, List.length_append, hLength]
  omega

theorem exists_numberSum_of_one (front back : List Char) :
    ∃ double rest, ∀ x d, Number.digit? x = some d →
      numberSum (front ++ x :: back) = share double d + rest := by
  obtain ⟨double, rest, hAround⟩ := exists_numberSum_around front back 1
  refine ⟨double, rest, fun x d hx => ?_⟩
  have hDigits : [x].reverse.filterMap Number.digit? = [d] := List.filterMap_cons_some hx
  have hSum := hAround [x] (congrArg List.length hDigits)
  rwa [hDigits] at hSum

/-- Of two neighbours one is doubled and the other one is not. -/
theorem exists_numberSum_of_two (front back : List Char) :
    ∃ double rest, ∀ x y d e, Number.digit? x = some d → Number.digit? y = some e →
      numberSum (front ++ x :: y :: back) = share double e + share (!double) d + rest := by
  obtain ⟨double, rest, hAround⟩ := exists_numberSum_around front back 2
  refine ⟨double, rest, fun x y d e hx hy => ?_⟩
  have hDigits : [x, y].reverse.filterMap Number.digit? = [e, d] :=
    (List.filterMap_cons_some hy).trans (congrArg _ (List.filterMap_cons_some hx))
  have hSum := hAround [x, y] (congrArg List.length hDigits)
  rwa [hDigits] at hSum

/-! ## Valid numbers -/

theorem digit?_eq_some_iff : Number.digit? c = some d ↔ d < 10 ∧ c = Nat.digitChar d := by
  constructor
  · intro hSome
    have hDigit := (Option.ite_none_right_eq_some.mp hSome).1
    obtain ⟨e, he, rfl⟩ := Number.exists_digitChar hDigit
    rw [digit?_digitChar he, Option.some.injEq] at hSome
    exact hSome ▸ ⟨he, rfl⟩
  · rintro ⟨hd, rfl⟩
    exact digit?_digitChar hd

theorem digitChar_inj (hd : d < 10) (he : e < 10) : Nat.digitChar d = Nat.digitChar e ↔ d = e := by
  refine ⟨fun hSame => ?_, congrArg _⟩
  have hRead := digit?_digitChar hd
  rw [hSame, digit?_digitChar he, Option.some.injEq] at hRead
  exact hRead.symm

theorem exists_digit? (hDigit : c.isDigit = true) : ∃ d < 10, Number.digit? c = some d := by
  obtain ⟨d, hd, rfl⟩ := Number.exists_digitChar hDigit
  exact ⟨d, hd, digit?_digitChar hd⟩

/-- A number is valid exactly if its last digit is the check digit of those in front of it. -/
theorem isValidList_concat_iff :
    isValidList (body ++ [c]) = true ↔
      body ≠ [] ∧ (∀ x ∈ body, x.isDigit = true) ∧ c = Nat.digitChar (checkDigitOf body) := by
  have hLast : Number.digit? c = some (checkDigitOf body) ↔ c = Nat.digitChar (checkDigitOf body) := by
    rw [digit?_eq_some_iff, and_iff_right (checkDigitOf_lt body)]
  constructor
  · intro hValid
    unfold isValidList at hValid
    rw [List.reverse_concat] at hValid
    simp only [Bool.and_eq_true, decide_eq_true_eq, List.all_eq_true, beq_iff_eq,
      List.reverse_reverse] at hValid
    obtain ⟨⟨hLength, hDigits⟩, hCheck⟩ := hValid
    refine ⟨?_, fun x hx => hDigits x (by simp [hx]), hLast.mp hCheck⟩
    rintro rfl
    simp at hLength
  · rintro ⟨hSome, hDigits, rfl⟩
    exact isValidList_append hSome (List.all_eq_true.mpr hDigits)

/-- A number is valid exactly if its Luhn sum is divisible by ten. -/
theorem isValidList_iff :
    isValidList cs = true ↔
      2 ≤ cs.length ∧ (∀ x ∈ cs, x.isDigit = true) ∧ numberSum cs % 10 = 0 := by
  constructor
  · intro hValid
    have hSum := sum_of_isValidList hValid
    unfold isValidList at hValid
    simp only [Bool.and_eq_true, decide_eq_true_eq, List.all_eq_true] at hValid
    exact ⟨hValid.1.1, hValid.1.2, hSum⟩
  · rintro ⟨hLength, hDigits, hSum⟩
    rcases cs.eq_nil_or_concat' with rfl | ⟨body, c, rfl⟩
    · simp at hLength
    · obtain ⟨d, hd, hLast⟩ := exists_digit? (hDigits c (by simp))
      have hCheck : d = checkDigitOf body := by
        unfold numberSum at hSum
        rw [List.reverse_concat, List.filterMap_cons_some hLast, sumFrom_cons] at hSum
        unfold checkDigitOf
        change (d + sumFrom true _) % 10 = 0 at hSum
        omega
      refine isValidList_concat_iff.mpr ⟨?_, fun x hx => hDigits x (by simp [hx]), ?_⟩
      · rintro rfl
        simp at hLength
      · rw [← hCheck]
        exact (digit?_eq_some_iff.mp hLast).2

/-! ## Slips -/

theorem share_congr (double : Bool) (hd : d < 10) (he : e < 10)
    (hSame : share double d % 10 = share double e % 10) : d = e := by
  have hAll : ∀ double, ∀ d < 10, ∀ e < 10, share double d % 10 = share double e % 10 → d = e := by
    decide
  exact hAll double d hd e he hSame

/-- Doubling tells two digits in exchanged places apart, unless they are a zero and a nine. -/
theorem share_exchanged_iff (double : Bool) (hd : d < 10) (he : e < 10) :
    (share double d + share (!double) e) % 10 = (share double e + share (!double) d) % 10 ↔
      d = e ∨ d = 0 ∧ e = 9 ∨ d = 9 ∧ e = 0 := by
  have hAll : ∀ double, ∀ d < 10, ∀ e < 10,
      ((share double d + share (!double) e) % 10 = (share double e + share (!double) d) % 10 ↔
        d = e ∨ d = 0 ∧ e = 9 ∨ d = 9 ∧ e = 0) := by
    decide
  exact hAll double d hd e he

/-- Another digit in one place makes a valid number invalid. -/
theorem isValidList_replaced (hValid : isValidList (front ++ x :: back) = true) (hOther : y ≠ x) :
    isValidList (front ++ y :: back) = false := by
  rw [Bool.eq_false_iff]
  intro hStill
  obtain ⟨-, hDigits, hSum⟩ := isValidList_iff.mp hValid
  obtain ⟨-, hOtherDigits, hOtherSum⟩ := isValidList_iff.mp hStill
  obtain ⟨d, hd, hx⟩ := exists_digit? (hDigits x (by simp))
  obtain ⟨e, he, hy⟩ := exists_digit? (hOtherDigits y (by simp))
  obtain ⟨double, rest, hOne⟩ := exists_numberSum_of_one front back
  rw [hOne x d hx] at hSum
  rw [hOne y e hy] at hOtherSum
  have hSame : e = d := share_congr double he hd (by omega)
  exact hOther ((digit?_eq_some_iff.mp hy).2.trans (hSame ▸ (digit?_eq_some_iff.mp hx).2.symm))

/-- Two neighbours that change places make a valid number invalid, unless they are a zero and a nine. -/
theorem isValidList_exchanged_iff (hValid : isValidList (front ++ x :: y :: back) = true) :
    isValidList (front ++ y :: x :: back) = true ↔ x = y ∨ x = '0' ∧ y = '9' ∨ x = '9' ∧ y = '0' := by
  obtain ⟨hLength, hDigits, hSum⟩ := isValidList_iff.mp hValid
  obtain ⟨d, hd, rfl⟩ := Number.exists_digitChar (hDigits x (by simp))
  obtain ⟨e, he, rfl⟩ := Number.exists_digitChar (hDigits y (by simp))
  have hPerm : (front ++ Nat.digitChar e :: Nat.digitChar d :: back).Perm
      (front ++ Nat.digitChar d :: Nat.digitChar e :: back) :=
    (List.Perm.swap _ _ back).append_left front
  obtain ⟨double, rest, hTwo⟩ := exists_numberSum_of_two front back
  rw [hTwo _ _ d e (digit?_digitChar hd) (digit?_digitChar he)] at hSum
  have hZero : '0' = Nat.digitChar 0 := rfl
  have hNine : '9' = Nat.digitChar 9 := rfl
  calc
    isValidList (front ++ Nat.digitChar e :: Nat.digitChar d :: back) = true
    _ ↔ numberSum (front ++ Nat.digitChar e :: Nat.digitChar d :: back) % 10 = 0 := by
      rw [isValidList_iff, hPerm.length_eq, and_iff_right hLength, and_iff_right]
      exact fun c hc => hDigits c (hPerm.mem_iff.mp hc)
    _ ↔ (share double d + share (!double) e) % 10 = (share double e + share (!double) d) % 10 := by
      rw [hTwo _ _ e d (digit?_digitChar he) (digit?_digitChar hd)]
      omega
    _ ↔ d = e ∨ d = 0 ∧ e = 9 ∨ d = 9 ∧ e = 0 := share_exchanged_iff double hd he
    _ ↔ _ := by
      rw [hZero, hNine, digitChar_inj hd he, digitChar_inj hd (by decide), digitChar_inj he (by decide),
        digitChar_inj hd (by decide), digitChar_inj he (by decide)]

/-! ## Other characters -/

/-- The digits of a text, whatever stands between them. -/
theorem filterMap_digit?_filter (cs : List Char) :
    (cs.filter Char.isDigit).filterMap Number.digit? = cs.filterMap Number.digit? := by
  rw [List.filterMap_filter]
  refine List.filterMap_congr fun c _ => ?_
  unfold Number.digit?
  split <;> rfl

theorem checkDigitOf_congr {ds : List Char} (hDigits : cs.filter Char.isDigit = ds.filter Char.isDigit) :
    checkDigitOf cs = checkDigitOf ds := by
  unfold checkDigitOf
  rw [List.filterMap_reverse, List.filterMap_reverse, ← filterMap_digit?_filter cs, hDigits,
    filterMap_digit?_filter ds]

/-- The sum over fewer than 2 ^ 28 characters fits in a word of 32 bits. -/
theorem sumFrom_fits (double : Bool) (hShort : cs.length < 2 ^ 28) :
    sumFrom double (cs.filterMap Number.digit?) < 2 ^ 32 := by
  have hFew := List.length_filterMap_le Number.digit? cs
  have hDigits : ∀ d ∈ cs.filterMap Number.digit?, d < 10 := by
    intro d hd
    obtain ⟨c, -, hc⟩ := List.mem_filterMap.mp hd
    exact (digit?_eq_some_iff.mp hc).1
  have hSum := sumFrom_le double hDigits
  omega

/-- The check digit of a text of digits is the one character that makes a valid number behind it. One
wrong digit makes a valid number invalid, and so do two neighbours in exchanged places, unless they are a
zero and a nine. What is no digit does not count for the check digit, and no text of fewer than 2 ^ 28
characters has a sum that exceeds 32 bits. Every card number is valid, whatever is drawn for it. -/
theorem check_digit_detects_slips :
    (∀ text : String, text ≠ "" → (∀ c ∈ text.toList, c.isDigit = true) →
      checkDigit text < 10 ∧
        ∀ c, isValid (text.push c) = true ↔ c = Nat.digitChar (checkDigit text)) ∧
    (∀ (front back : List Char) (x y : Char), isValid (.ofList (front ++ x :: back)) = true →
      y ≠ x → isValid (.ofList (front ++ y :: back)) = false) ∧
    (∀ (front back : List Char) (x y : Char), isValid (.ofList (front ++ x :: y :: back)) = true →
      (isValid (.ofList (front ++ y :: x :: back)) = true ↔
        x = y ∨ x = '0' ∧ y = '9' ∨ x = '9' ∧ y = '0')) ∧
    (∀ text other : String, text.toList.filter Char.isDigit = other.toList.filter Char.isDigit →
      checkDigit text = checkDigit other) ∧
    (∀ text : String, text.length < 2 ^ 28 →
      sumFrom true (text.toList.reverse.filterMap Number.digit?) < 2 ^ 32) ∧
    ∀ draw, (cardNumber draw).toList.length = 16 ∧ (cardNumber draw).toList.all Char.isDigit = true ∧
      (cardNumber draw).toList.head? = some '4' ∧ isValid (cardNumber draw) = true := by
  refine ⟨fun text hSome hDigits => ⟨checkDigitOf_lt _, fun c => ?_⟩, ?_, ?_, ?_, ?_, fun draw => ?_⟩
  · unfold isValid checkDigit
    rw [String.toList_push, isValidList_concat_iff, and_iff_right (by simpa using hSome),
      and_iff_right hDigits]
  · unfold isValid
    simp only [String.toList_ofList]
    exact fun front back x y => isValidList_replaced
  · unfold isValid
    simp only [String.toList_ofList]
    exact fun front back x y => isValidList_exchanged_iff
  · exact fun text other => checkDigitOf_congr
  · intro text hShort
    refine sumFrom_fits true ?_
    rwa [List.length_reverse, String.length_toList]
  · have hNumber := isCardNumber_cardNumber draw
    exact ⟨hNumber.length, hNumber.digits, hNumber.first, hNumber.checked⟩

/-- A number with its check digit, one of its digits wrong, a zero and a nine that change places unnoticed,
and a hyphen that does not count. -/
theorem check_digit_detects_slips_of_numbers :
    ("7992739871" ≠ "" ∧ (∀ c ∈ "7992739871".toList, c.isDigit = true) ∧
      ∀ c, isValid ("7992739871".push c) = true ↔ c = '3') ∧
    (isValid (.ofList (['0'] ++ '9' :: ['1'])) = true ∧ '4' ≠ '9' ∧
      isValid (.ofList (['0'] ++ '4' :: ['1'])) = false) ∧
    (isValid (.ofList ([] ++ '0' :: '9' :: ['1'])) = true ∧
      isValid (.ofList ([] ++ '9' :: '0' :: ['1'])) = true) ∧
    ("4111-1111".toList.filter Char.isDigit = "41111111".toList.filter Char.isDigit ∧
      checkDigit "4111-1111" = checkDigit "41111111") ∧
    ("4111".length < 2 ^ 28 ∧ sumFrom true ("4111".toList.reverse.filterMap Number.digit?) < 2 ^ 32) ∧
    isValid (cardNumber fun _ => 7) = true := by
  obtain ⟨hLast, hReplaced, hExchanged, hOthers, hFits, hCards⟩ := check_digit_detects_slips
  have hDigits : ∀ c ∈ "7992739871".toList, c.isDigit = true := List.all_eq_true.mp (by decide)
  have hThree : Nat.digitChar (checkDigit "7992739871") = '3' := by decide +kernel
  have hShort : isValid (.ofList (['0'] ++ '9' :: ['1'])) = true := by decide +kernel
  have hSame : "4111-1111".toList.filter Char.isDigit = "41111111".toList.filter Char.isDigit := by decide
  refine ⟨⟨by decide, hDigits, ?_⟩, ⟨hShort, by decide, hReplaced _ _ _ _ hShort (by decide)⟩,
    ⟨hShort, ?_⟩, ⟨hSame, hOthers _ _ hSame⟩, ⟨by decide, hFits _ (by decide)⟩, (hCards _).2.2.2⟩
  · intro c
    rw [← hThree]
    exact (hLast _ (by decide) hDigits).2 c
  · exact (hExchanged [] ['1'] '0' '9' hShort).mpr (.inr (.inl ⟨rfl, rfl⟩))

end CardLedger.Luhn
