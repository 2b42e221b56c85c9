import CardLedger.Proofs.Workflow

/-!
# Operations on cards in use

Five of the operations are about a card in use: its funds, its limits and its block. They reach no
table but the cards and the record of transactions, and leave the faces of all cards as they were.
-/

namespace CardLedger

/-- Whether an operation is about a card in use. -/
def Operation.isOnCard : Operation → Bool
  | fundCard .. | setSpendingLimit .. | setPeriodLimits .. | blockCard .. | authorize .. => true
  | registerCompany .. | setCompanyStatus .. | enqueue .. | issue .. | upsertControl ..
  | deactivateControl .. => false

/-- Nothing has changed but the state of cards and the record of transactions. -/
structure CardsUsed (s next : Store) : Prop where
  companies : next.companies = s.companies
  queue : next.queue = s.queue
  controls : next.controls = s.controls
  faces : next.cards.map Card.face = s.cards.map Card.face

variable {s next : Store} {a : Ambient} {t : Transaction} {id : Uuid} {change : Card → Card}

theorem CardsUsed.of_modifyCard (hFace : ∀ c, (change c).face = c.face) :
    CardsUsed s (s.modifyCard id change) :=
  ⟨rfl, rfl, rfl, Store.map_modifyCard hFace⟩

theorem CardsUsed.of_transaction (hFace : ∀ c, (change c).face = c.face) :
    CardsUsed s ((s.modifyCard id change).withTransaction t) :=
  ⟨rfl, rfl, rfl, Store.map_modifyCard hFace⟩

theorem CardsUsed.of_revision
    (hRevised : ∃ change, Card.Revision change ∧ next = s.modifyCard id change) : CardsUsed s next := by
  obtain ⟨change, hRevision, rfl⟩ := hRevised
  exact .of_modifyCard hRevision.face

theorem cardsUsed_of_apply {operation : Operation} (hOnCard : operation.isOnCard = true)
    (hKeyed : s.CardsKeyed) (hAlone : a.interference.balanceAfterRecord = none)
    (hApply : operation.apply s a = .ok next) : CardsUsed s next := by
  unfold Operation.apply at hApply
  cases operation with
  | fundCard company card amount =>
      obtain ⟨result, hRun, rfl⟩ := map_eq_ok_iff.mp hApply
      obtain ⟨-, -, held, c, hHeld, -, rfl⟩ := Store.fundCard_eq_ok hKeyed hRun
      rw [Store.overwriteBalance_of_alone hAlone] at hHeld
      cases hHeld
      exact .of_transaction fun _ => rfl
  | setSpendingLimit company card limit =>
      obtain ⟨result, hRun, rfl⟩ := map_eq_ok_iff.mp hApply
      exact .of_revision (Store.setSpendingLimit_eq_ok hRun)
  | setPeriodLimits company card daily monthly =>
      obtain ⟨result, hRun, rfl⟩ := map_eq_ok_iff.mp hApply
      exact .of_revision (Store.setPeriodLimits_eq_ok hRun)
  | blockCard company card reason =>
      obtain ⟨result, hRun, rfl⟩ := map_eq_ok_iff.mp hApply
      exact .of_revision (Store.blockCard_eq_ok hRun)
  | authorize z company r now =>
      obtain ⟨result, hRun, rfl⟩ := map_eq_ok_iff.mp hApply
      obtain ⟨-, -, -, card, advisories, -, hCommit⟩ := Authorizer.authorize_eq_ok hRun
      obtain ⟨-, -, held, _, _, hHeld, -, -, -, rfl⟩ := Authorizer.commit_eq_ok hKeyed hCommit
      rw [Store.overwriteBalance_of_alone hAlone] at hHeld
      cases hHeld
      exact .of_transaction fun _ => rfl
  | registerCompany | setCompanyStatus | enqueue | issue | upsertControl | deactivateControl =>
      cases hOnCard

end CardLedger
