import CardLedger.History
import CardLedger.Issuance
import CardLedger.Proofs.Administration

/-!
# What a company sees of the store

The part of a store that is a company's: its own row, its cards and queue rows, and the transactions and
controls of its cards. What operations read on behalf of a company they read in this part alone. Where a
card is looked up by its identifier only, that is so because the identifier is a key.
-/

namespace CardLedger

/-! ## Lists that are searched for what a part of them holds -/

section

variable {α : Type} {p q : α → Bool} {items : List α}

theorem any_filter_of_imp (hWithin : ∀ x ∈ items, q x = true → p x = true) :
    (items.filter p).any q = items.any q := by
  rw [Bool.eq_iff_iff, List.any_eq_true, List.any_eq_true]
  constructor
  · rintro ⟨x, hMem, hq⟩
    exact ⟨x, List.mem_of_mem_filter hMem, hq⟩
  · rintro ⟨x, hMem, hq⟩
    exact ⟨x, List.mem_filter.mpr ⟨hMem, hWithin x hMem hq⟩, hq⟩

theorem find?_filter_of_imp (hWithin : ∀ x ∈ items, q x = true → p x = true) :
    (items.filter p).find? q = items.find? q := by
  rw [List.find?_filter]
  refine List.find?_congr ?_
  intro x hMem
  cases hq : q x with
  | false => simp
  | true => simp [hWithin x hMem hq]

theorem filter_filter_of_imp (hWithin : ∀ x ∈ items, q x = true → p x = true) :
    (items.filter p).filter q = items.filter q := by
  rw [List.filter_filter]
  refine List.filter_congr ?_
  intro x hMem
  cases hq : q x with
  | false => simp
  | true => simp [hWithin x hMem hq]

end

/-- Which card a card is, and whose. -/
def Card.site (c : Card) : Uuid × Uuid :=
  (c.id, c.companyId)

namespace Store

/-- Whether a company has a card of an identifier. -/
def owns (s : Store) (company id : Uuid) : Bool :=
  s.cards.any fun c => c.id == id && c.companyId == company

/-- The part of a store that is a company's. -/
def view (s : Store) (company : Uuid) : Store :=
  { companies := s.companies.filter fun c => c.id == company
    cards := s.cards.filter fun c => c.companyId == company
    queue := s.queue.filter fun r => r.companyId == company
    transactions := s.transactions.filter fun t => s.owns company t.cardId
    controls := s.controls.filter fun r => s.owns company r.cardId }

/-- Two stores agree on a company if its part of them is the same, row by row in order, and so are the
transactions that name it. -/
structure AgreeOn (s other : Store) (company : Uuid) : Prop where
  view : s.view company = other.view company
  record : s.transactionsOfCompany company = other.transactionsOfCompany company

variable {s other third : Store} {company id : Uuid} {c : Card}

theorem AgreeOn.refl (s : Store) (company : Uuid) : s.AgreeOn s company :=
  ⟨rfl, rfl⟩

theorem AgreeOn.symm (hAgree : s.AgreeOn other company) : other.AgreeOn s company :=
  ⟨hAgree.view.symm, hAgree.record.symm⟩

theorem AgreeOn.trans (hFirst : s.AgreeOn other company) (hSecond : other.AgreeOn third company) :
    s.AgreeOn third company :=
  ⟨hFirst.view.trans hSecond.view, hFirst.record.trans hSecond.record⟩

/-- What a call for a company leaves behind: the company's record with what is added to it, and of other
companies everything as it was. -/
structure TenantEffect (s next : Store) (company : Uuid) (added : List Transaction) : Prop where
  record : next.transactionsOfCompany company = s.transactionsOfCompany company ++ added
  others : ∀ tenant, tenant ≠ company → s.AgreeOn next tenant

theorem TenantEffect.of_transactions (hRecord : other.transactions = s.transactions)
    (hOthers : ∀ tenant, tenant ≠ company → s.AgreeOn other tenant) :
    s.TenantEffect other company [] where
  record := by
    unfold transactionsOfCompany
    rw [hRecord, List.append_nil]
  others := hOthers

theorem TenantEffect.refl (s : Store) (company : Uuid) : s.TenantEffect s company [] :=
  .of_transactions rfl fun tenant _ => .refl s tenant

/-! ## Whose a card is -/

theorem owns_iff : s.owns company id = true ↔ ∃ c ∈ s.cards, c.id = id ∧ c.companyId = company := by
  simp [owns]

theorem owns_eq_isSome : s.owns company id = (s.cardOf? company id).isSome := by
  rw [Bool.eq_iff_iff]
  simp [owns, cardOf?]

theorem owns_of_cardOf? (hCard : s.cardOf? company id = some c) : s.owns company id = true := by
  rw [owns_eq_isSome, hCard]
  rfl

theorem owns_congr (hSites : other.cards.map Card.site = s.cards.map Card.site) :
    other.owns company id = s.owns company id := by
  have hOwns : ∀ t : Store, t.owns company id =
      (t.cards.map Card.site).any fun site => site.1 == id && site.2 == company := by
    intro t
    rw [List.any_map]
    rfl
  rw [hOwns, hOwns, hSites]

/-- A card is of one company. -/
theorem owns_other {tenant : Uuid} (hKeyed : s.CardsKeyed) (hOwned : s.owns company id = true)
    (hOther : tenant ≠ company) : s.owns tenant id = false := by
  rw [Bool.eq_false_iff]
  intro hBoth
  obtain ⟨c, hc, hId, hCompany⟩ := owns_iff.mp hOwned
  obtain ⟨d, hd, hOtherId, hTenant⟩ := owns_iff.mp hBoth
  have hSame := eq_of_keyed hKeyed hc hd (hId.trans hOtherId.symm)
  rw [hSame, hTenant] at hCompany
  exact hOther hCompany

theorem company_of_owns (hKeyed : s.CardsKeyed) (hOwned : s.owns company id = true) (hc : c ∈ s.cards)
    (hId : c.id = id) : c.companyId = company := by
  obtain ⟨d, hd, hOtherId, hCompany⟩ := owns_iff.mp hOwned
  rw [eq_of_keyed hKeyed hc hd (hId.trans hOtherId.symm)]
  exact hCompany

/-! ## Reading in the part of a company -/

@[simp]
theorem owns_view : (s.view company).owns company id = s.owns company id :=
  any_filter_of_imp fun _ _ hFits => (Bool.and_eq_true_iff.mp hFits).2

@[simp]
theorem company?_view : (s.view company).company? company = s.company? company :=
  find?_filter_of_imp fun _ _ hFits => hFits

@[simp]
theorem cardOf?_view : (s.view company).cardOf? company id = s.cardOf? company id :=
  find?_filter_of_imp fun _ _ hFits => (Bool.and_eq_true_iff.mp hFits).2

@[simp]
theorem getCard_view : (s.view company).getCard company id = s.getCard company id := by
  unfold getCard
  rw [cardOf?_view]

@[simp]
theorem checkActive_view : (s.view company).checkActive company = s.checkActive company := by
  unfold checkActive getCompany
  rw [company?_view]

@[simp]
theorem listCards_view : (s.view company).listCards company = s.listCards company := by
  have hRows : (s.view company).cards.filter (fun c => c.companyId == company) =
      s.cards.filter fun c => c.companyId == company :=
    filter_filter_of_imp fun _ _ hFits => hFits
  unfold listCards
  rw [hRows]

@[simp]
theorem pending_view : (s.view company).pending company = s.pending company := by
  have hRows : (s.view company).queue.filter (fun r => r.companyId == company && r.status == .pending) =
      s.queue.filter fun r => r.companyId == company && r.status == .pending :=
    filter_filter_of_imp fun _ _ hFits => (Bool.and_eq_true_iff.mp hFits).1
  unfold pending
  rw [hRows]

theorem cardsKeyed_view (hKeyed : s.CardsKeyed) : (s.view company).CardsKeyed :=
  hKeyed.sublist (List.filter_sublist.map _)

/-- A card of the company is found in its part, although it is looked up by its identifier alone. -/
theorem card?_view (hKeyed : s.CardsKeyed) (hOwned : s.owns company id = true) :
    (s.view company).card? id = s.card? id :=
  find?_filter_of_imp fun _ hc hId =>
    beq_iff_eq.mpr (company_of_owns hKeyed hOwned hc (beq_iff_eq.mp hId))

theorem transactionsOfCard_view (hOwned : s.owns company id = true) :
    (s.view company).transactionsOfCard id = s.transactionsOfCard id := by
  refine filter_filter_of_imp fun t _ hCard => ?_
  rw [beq_iff_eq.mp hCard]
  exact hOwned

theorem activeControls_view (hOwned : s.owns company id = true) :
    (s.view company).activeControls id = s.activeControls id := by
  have hRows : ((s.view company).controls.filter fun r => r.cardId == id && r.isActive) =
      s.controls.filter fun r => r.cardId == id && r.isActive := by
    refine filter_filter_of_imp fun r _ hFits => ?_
    rw [beq_iff_eq.mp (Bool.and_eq_true_iff.mp hFits).1]
    exact hOwned
  unfold activeControls
  rw [hRows]

theorem activeControlValues_view (hOwned : s.owns company id = true) :
    (s.view company).activeControlValues id = s.activeControlValues id := by
  unfold activeControlValues
  rw [activeControls_view hOwned]

theorem activeControl?_view {kind : ControlType} (hOwned : s.owns company id = true) :
    (s.view company).activeControl? id kind = s.activeControl? id kind := by
  refine find?_filter_of_imp fun r _ hFits => ?_
  simp only [ControlRow.isActiveOf, Bool.and_eq_true, beq_iff_eq] at hFits
  rw [hFits.1.1]
  exact hOwned

theorem spentIn_view {w : Window} (hOwned : s.owns company id = true) :
    (s.view company).spentIn id w = s.spentIn id w := by
  have hRows : ((s.view company).transactions.filter fun t => t.countsIn id w) =
      s.transactions.filter fun t => t.countsIn id w := by
    refine filter_filter_of_imp fun t _ hCounts => ?_
    simp only [Transaction.countsIn, Bool.and_eq_true, beq_iff_eq] at hCounts
    rw [hCounts.1.1.1.1]
    exact hOwned
  unfold spentIn
  rw [hRows]

theorem spentDuring_view {window : Except WindowFault Window} (hOwned : s.owns company id = true) :
    (s.view company).spentDuring id window = s.spentDuring id window := by
  unfold spentDuring
  cases window with
  | error fault => rw [liftFault_error, error_bind, error_bind]
  | ok w => rw [liftFault_ok, ok_bind, ok_bind, spentIn_view hOwned]

end Store

end CardLedger
