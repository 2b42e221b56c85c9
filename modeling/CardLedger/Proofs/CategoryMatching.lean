import Mathlib.Data.List.Forall2
import CardLedger.Proofs.AuditTrail
import CardLedger.Proofs.ControlEvaluation
import CardLedger.Proofs.NormalForm

/-!
# Matching of merchant categories

Categories match if their normal forms are the same. What a rule says of a category depends on normal forms
alone, the reason included, so that spellings of one category get one answer; among them is the normal form,
under which a purchase is recorded. A rule that has let a purchase through lets its record through as well.
-/

namespace CardLedger

open Text (normalize)

/-- The ways to spell a text again: as it is, in normal form, or with blanks around it. -/
inductive Respelled : String → String → Prop where
  | same (text : String) : Respelled text text
  | normal (text : String) : Respelled text (normalize text)
  | padded (text : String) {front back : List Char} (hFront : ∀ c ∈ front, Text.isBlank c = true)
      (hBack : ∀ c ∈ back, Text.isBlank c = true) :
      Respelled text (String.ofList front ++ text ++ String.ofList back)

/-- A rule with some of its entries spelled again. -/
structure CategoryRule.RespelledAs (rule other : CategoryRule) : Prop where
  allowed : List.Forall₂ Respelled rule.allowed other.allowed
  blocked : List.Forall₂ Respelled rule.blocked other.blocked

variable {text other category spelled : String} {entries others : List String} {rule respelled : CategoryRule}
  {time : LocalTime} {v : ControlValue} {controls : List ControlValue}

theorem Respelled.normalize_eq (hSpelled : Respelled text other) : normalize other = normalize text := by
  cases hSpelled with
  | same => rfl
  | normal => exact Text.normalize_normalize text
  | padded hFront hBack => exact Text.normalize_padded hFront hBack

/-! ## Lists of categories -/

theorem listsCategory_iff :
    listsCategory entries category = true ↔ ∃ entry ∈ entries, normalize entry = normalize category := by
  simp [listsCategory]

theorem listsCategory_respelled (hEntries : List.Forall₂ Respelled entries others)
    (hCategory : normalize spelled = normalize category) :
    listsCategory others spelled = listsCategory entries category := by
  unfold listsCategory
  induction hEntries with
  | nil => rw [List.any_nil, List.any_nil]
  | cons hEntry _ ih => rw [List.any_cons, List.any_cons, ih, hEntry.normalize_eq, hCategory]

/-! ## Rules -/

namespace CategoryRule

theorem refusal?_eq_none_iff : rule.refusal? category = none ↔
    (∀ blocked ∈ rule.blocked, normalize category ≠ normalize blocked) ∧
      (rule.allowed = [] ∨ ∃ allowed ∈ rule.allowed, normalize category = normalize allowed) := by
  have hBlocked : listsCategory rule.blocked category = true ↔
      ¬ ∀ blocked ∈ rule.blocked, normalize category ≠ normalize blocked := by
    rw [listsCategory_iff]
    simp [eq_comm]
  have hAllowed : listsCategory rule.allowed category = true ↔
      ∃ allowed ∈ rule.allowed, normalize category = normalize allowed := by
    rw [listsCategory_iff]
    simp [eq_comm]
  unfold refusal?
  dsimp only
  -- the blocked entries are asked before the allowed ones
  split
  · next hListed => exact iff_of_false (by simp) fun hPermits => hBlocked.mp hListed hPermits.1
  · next hUnlisted =>
      have hFree := not_not.mp (mt hBlocked.mpr hUnlisted)
      split
      · next hRefused =>
          simp only [Bool.and_eq_true, Bool.not_eq_true', List.isEmpty_eq_false_iff] at hRefused
          refine iff_of_false (by simp) fun hPermits => ?_
          rcases hPermits.2 with hEmpty | hListed
          · exact hRefused.1 hEmpty
          · exact Bool.false_ne_true (hRefused.2.symm.trans (hAllowed.mpr hListed))
      · next hPermitted =>
          refine iff_of_true rfl ⟨hFree, ?_⟩
          rw [← hAllowed]
          simpa [or_iff_not_imp_left] using hPermitted

theorem refusal?_of_blocked {blocked : String} (hMem : blocked ∈ rule.blocked)
    (hMatch : normalize category = normalize blocked) : rule.refusal? category =
      some ("Transaction blocked: merchant category '" ++ normalize category ++ "' is not allowed") := by
  unfold refusal?
  dsimp only
  rw [if_pos (listsCategory_iff.mpr ⟨blocked, hMem, hMatch.symm⟩)]
  rfl

/-- What a rule says depends on normal forms alone. -/
theorem refusal?_respelled (hRule : rule.RespelledAs respelled)
    (hCategory : normalize spelled = normalize category) :
    respelled.refusal? spelled = rule.refusal? category := by
  have hEmpty : respelled.allowed.isEmpty = rule.allowed.isEmpty := by
    rw [Bool.eq_iff_iff, List.isEmpty_iff_length_eq_zero, List.isEmpty_iff_length_eq_zero,
      hRule.allowed.length_eq]
  unfold refusal?
  rw [listsCategory_respelled hRule.blocked hCategory, listsCategory_respelled hRule.allowed hCategory,
    hEmpty, hCategory]

theorem respelledAs_self (rule : CategoryRule) : rule.RespelledAs rule where
  allowed := List.forall₂_same.mpr fun entry _ => .same entry
  blocked := List.forall₂_same.mpr fun entry _ => .same entry

end CategoryRule

/-! ## Recorded purchases -/

theorem ControlValue.refusal?_congr (hCategory : normalize spelled = normalize category) :
    v.refusal? spelled time = v.refusal? category time := by
  cases v with
  | merchantCategory rule =>
      exact congrArg Except.ok (CategoryRule.refusal?_respelled rule.respelledAs_self hCategory)
  | timeBased rule => rfl
  | merchantName payload => rfl
  | location payload => rfl

/-- Spellings of a category are evaluated alike. -/
theorem evaluateControls_congr (hCategory : normalize spelled = normalize category) :
    evaluateControls controls spelled time = evaluateControls controls category time := by
  unfold evaluateControls
  induction policyOrder controls with
  | nil => rfl
  | cons v rest ih =>
      unfold firstViolation
      rw [v.refusal?_congr hCategory, ih]

variable {z : Authorizer} {s : Store} {a : Ambient} {company : Uuid} {r : PurchaseRequest} {now : Instant}
  {result : AuthorizedPurchase × Store}

/-- The controls of the card let a purchase through that was authorized. -/
theorem Authorizer.evaluateControls_of_authorize (hAuthorize : z.authorize s a company r now = .ok result)
    (hControls : s.activeControlValues r.card = .ok controls) :
    evaluateControls controls r.merchantCategory (z.offset.localTime now) = .ok none := by
  obtain ⟨-, -, -, c, advisories, hScreen, -⟩ := authorize_eq_ok hAuthorize
  obtain ⟨hCard, -, -, -, hPolicy⟩ := screen_eq_ok hScreen
  obtain ⟨decoded, hDecoded, hRest⟩ := bind_eq_ok_iff.mp hPolicy
  obtain ⟨violation, hEvaluated, hVerdict⟩ := bind_eq_ok_iff.mp hRest
  -- the screen has looked at the controls of the card that was asked for
  rw [(Store.cardOf?_eq_some hCard).2.1, hControls] at hDecoded
  obtain rfl := Except.ok.inj hDecoded
  cases violation with
  | none => exact liftFault_eq_ok_iff.mp hEvaluated
  | some violation => cases hVerdict

/-- Categories match by their normal forms. A rule lets a category through exactly if it matches no blocked
entry and, unless there are no allowed entries at all, one of these; a blocked entry refuses whatever is
allowed. A normal form is its own normal form, so that verdict and reason stay the same when the category or
any entries are put in normal form, or get blanks around them. A purchase that goes through is recorded under
the normal form of its category, and the controls that have admitted it admit what is recorded. -/
theorem categories_match_by_normal_form :
    (∀ (rule : CategoryRule) category,
      (rule.refusal? category = none ↔
        (∀ blocked ∈ rule.blocked, normalize category ≠ normalize blocked) ∧
          (rule.allowed = [] ∨ ∃ allowed ∈ rule.allowed, normalize category = normalize allowed)) ∧
      ∀ blocked ∈ rule.blocked, normalize category = normalize blocked → rule.refusal? category =
        some ("Transaction blocked: merchant category '" ++ normalize category ++ "' is not allowed")) ∧
    (∀ text, normalize (normalize text) = normalize text) ∧
    (∀ (rule respelled : CategoryRule) category spelled, rule.RespelledAs respelled →
      Respelled category spelled → respelled.refusal? spelled = rule.refusal? category) ∧
    ∀ (z : Authorizer) s a company r now result, z.authorize s a company r now = .ok result →
      ∃ t, result.2.transactions = s.transactions ++ [t] ∧
        t.merchantCategory = some (normalize r.merchantCategory) ∧
        ∀ controls, s.activeControlValues r.card = .ok controls →
          evaluateControls controls (normalize r.merchantCategory) (z.offset.localTime now) = .ok none := by
  refine ⟨fun rule category => ⟨CategoryRule.refusal?_eq_none_iff, fun blocked hMem hMatch =>
      CategoryRule.refusal?_of_blocked hMem hMatch⟩, Text.normalize_normalize, ?_, ?_⟩
  · intro rule respelled category spelled hRule hCategory
    exact CategoryRule.refusal?_respelled hRule hCategory.normalize_eq
  · intro z s a company r now result hAuthorize
    obtain ⟨-, -, -, c, advisories, -, hCommit⟩ := Authorizer.authorize_eq_ok hAuthorize
    refine ⟨r.row c a now, (Store.transactions_commit hCommit).2, rfl, fun controls hControls => ?_⟩
    rw [evaluateControls_congr (Text.normalize_normalize r.merchantCategory)]
    exact Authorizer.evaluateControls_of_authorize hAuthorize hControls

namespace Sample

/-- A rule for roads and food. -/
def provisions : CategoryRule :=
  ⟨["ΟΔΟΣ", "FOOD"], [" Gambling"]⟩

/-- The store of the sample with the rule on its card. -/
def provisioned : Store :=
  { store with
    controls := [⟨.ofNat 50, card.id, "merchant_category",
      (ControlValue.merchantCategory provisions).toPayload, true, .epoch, .epoch⟩] }

end Sample

/-- The rule in another spelling lets through what it has let through, a final sigma included, and a purchase
of food is recorded under a category that it lets through as well. -/
theorem categories_match_by_normal_form_of_provisions :
    let roads : CategoryRule := ⟨[normalize "ΟΔΟΣ", "FOOD"], [" Gambling"]⟩
    normalize "ΟΔΟΣ" = "οδος" ∧ Sample.provisions.RespelledAs roads ∧
      Respelled "ΟΔΟΣ" "\tΟΔΟΣ " ∧ roads.refusal? "\tΟΔΟΣ " = none ∧
      (Sample.provisions.refusal? "GAMBLING").isSome ∧
      ∃ result t, ({} : Authorizer).authorize Sample.provisioned Sample.ambient Sample.company
          Sample.request .epoch = .ok result ∧ result.2.transactions = [t] ∧
        t.merchantCategory = some "food" ∧
        evaluateControls [.merchantCategory Sample.provisions] "food" (Offset.standard.localTime .epoch) =
          .ok none := by
  intro roads
  obtain ⟨hPermits, -, hRespelled, hRecorded⟩ := categories_match_by_normal_form
  have hRoads : Sample.provisions.RespelledAs roads :=
    ⟨.cons (.normal "ΟΔΟΣ") (.cons (.same "FOOD") .nil), .cons (.same " Gambling") .nil⟩
  have hFront : ∀ c ∈ ['\t'], Text.isBlank c = true := List.forall_mem_singleton.mpr (by decide)
  have hBack : ∀ c ∈ [' '], Text.isBlank c = true := List.forall_mem_singleton.mpr (by decide)
  have hSpelled : Respelled "ΟΔΟΣ" "\tΟΔΟΣ " := .padded "ΟΔΟΣ" hFront hBack
  have hPermitted : Sample.provisions.refusal? "ΟΔΟΣ" = none :=
    (hPermits Sample.provisions "ΟΔΟΣ").1.mpr ⟨by decide +kernel, .inr ⟨"ΟΔΟΣ", by decide, rfl⟩⟩
  have hBlocked : (Sample.provisions.refusal? "GAMBLING").isSome := by
    rw [(hPermits Sample.provisions "GAMBLING").2 " Gambling" (by decide) (by decide +kernel)]
    rfl
  obtain ⟨result, hAuthorize⟩ : ∃ result, ({} : Authorizer).authorize Sample.provisioned Sample.ambient
      Sample.company Sample.request .epoch = .ok result := by
    refine exists_ok_of_isSome ?_
    decide +kernel
  obtain ⟨t, hRecord, hCategory, hAdmits⟩ := hRecorded {} Sample.provisioned Sample.ambient Sample.company
    Sample.request .epoch result hAuthorize
  have hFood : normalize Sample.request.merchantCategory = "food" := by decide +kernel
  rw [hFood] at hCategory hAdmits
  have hControls : Sample.provisioned.activeControlValues Sample.request.card =
      .ok [.merchantCategory Sample.provisions] := by
    unfold Store.activeControlValues Store.activeControls Store.oldestFirst
    rw [show Sample.provisioned.controls.filter (fun r => r.cardId == Sample.request.card && r.isActive) =
      Sample.provisioned.controls from rfl, Sample.provisioned, List.mergeSort_singleton]
    rfl
  refine ⟨by decide +kernel, hRoads, hSpelled, ?_, hBlocked, result, t, hAuthorize, hRecord, hCategory,
    hAdmits _ hControls⟩
  exact (hRespelled _ _ _ _ hRoads hSpelled).trans hPermitted

end CardLedger
