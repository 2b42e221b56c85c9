import CardLedger.Proofs.AuditTrail
import CardLedger.Proofs.IssueOutcome
import CardLedger.Proofs.Marks
import CardLedger.Proofs.TenantMoney

/-!
# Administration and money

A store has two sides. One is the terms of its cards: limits, status, blocks and controls. The other is
money: balances and the record of transactions. A call that sets up a card reads and writes the terms and
leaves the money alone; a call that moves money does it the other way round. Neither can see whether the
other has run, and so their order does not matter.
-/

namespace CardLedger

/-! ## The two sides of a store -/

/-- The terms of a card: everything but its balance and the time of its last change. -/
def Card.terms (c : Card) : Card :=
  { c.untimed with balance := 0 }

/-- The account of a card: which card it is, whose, and what is on it. -/
def Card.account (c : Card) : Uuid × Uuid × Float :=
  (c.id, c.companyId, c.balance)

namespace Store

/-- The side of a store that is set up: everything but balances and the record. -/
def terms (s : Store) : Store :=
  { s with cards := s.cards.map Card.terms, transactions := [] }

/-- The balances of a store. -/
def accounts (s : Store) : List (Uuid × Uuid × Float) :=
  s.cards.map Card.account

variable {s t next start : Store} {a b : Ambient} {company card id : Uuid} {c d : Card}
  {change change' : Card → Card} {row : Transaction}

theorem cards_terms (hTerms : s.terms = t.terms) : s.cards.map Card.terms = t.cards.map Card.terms :=
  congrArg cards hTerms

theorem controls_terms (hTerms : s.terms = t.terms) : s.controls = t.controls :=
  (congrArg controls hTerms :)

theorem owns_of_terms (hTerms : s.terms = t.terms) : s.owns company card = t.owns company card := by
  refine owns_congr ?_
  have hSites := congrArg (List.map Card.site) (cards_terms hTerms)
  rw [List.map_map, List.map_map] at hSites
  exact hSites

theorem owns_of_accounts (hAccounts : s.accounts = t.accounts) :
    s.owns company card = t.owns company card := by
  refine owns_congr ?_
  have hSites := congrArg (List.map fun account => (account.1, account.2.1)) hAccounts
  unfold accounts at hSites
  rw [List.map_map, List.map_map] at hSites
  exact hSites

theorem card?_terms : (s.card? id).map Card.terms = s.terms.card? id := by
  unfold card? terms
  rw [List.find?_map]
  rfl

theorem card?_account :
    (s.card? id).map Card.account = s.accounts.find? fun account => account.1 == id := by
  unfold card? accounts
  rw [List.find?_map]
  rfl

theorem terms_eq (hTerms : s.terms = t.terms) (hCard : s.card? id = some c) (hOther : t.card? id = some d) :
    c.terms = d.terms := by
  have hSame : (s.card? id).map Card.terms = (t.card? id).map Card.terms := by
    rw [card?_terms, card?_terms, hTerms]
  rw [hCard, hOther] at hSame
  exact Option.some.inj hSame

/-- A card is looked up in two stores of the same balances: it is in neither, or the same account in both. -/
theorem card?_of_accounts (hAccounts : s.accounts = t.accounts) (id : Uuid) :
    (s.card? id = none ∧ t.card? id = none) ∨
      ∃ c d, s.card? id = some c ∧ t.card? id = some d ∧ c.account = d.account := by
  refine option_map_cases ?_
  rw [card?_account, card?_account, hAccounts]

/-- The two sides make up the store. -/
theorem since_eq (hTerms : start.since s.terms = start.since t.terms) (hAccounts : s.accounts = t.accounts)
    (hRecord : (start.since s).transactions = (start.since t).transactions) :
    start.since s = start.since t := by
  have hCompanies : s.companies = t.companies := (congrArg companies hTerms :)
  have hQueue : s.queue = t.queue := (congrArg queue hTerms :)
  have hControls : (start.since s).controls = (start.since t).controls := (congrArg controls hTerms :)
  have hCards : s.cards.map Card.unstamped = t.cards.map Card.unstamped := by
    -- a card is put together from its terms and its account
    have hJoin : ∀ rows : List Card, rows.map Card.unstamped =
        List.zipWith (fun terms account => { terms with balance := account.2.2 })
          ((rows.map Card.terms).map Card.unstamped) (rows.map Card.account) := by
      intro rows
      rw [List.map_map, List.zipWith_map, List.zipWith_self]
      rfl
    rw [hJoin s.cards, hJoin t.cards]
    exact congr (congrArg _ (congrArg cards hTerms)) hAccounts
  exact Store.ext hCompanies hCards hQueue hRecord hControls

/-! ## Cards that are changed on one side -/

theorem map_congr_of_map_eq {α β γ δ : Type} {rows : List α} {others : List β} {f : α → γ} {g : β → γ}
    {h : α → δ} {k : β → δ} (hSame : rows.map f = others.map g) (hNext : ∀ x y, f x = g y → h x = k y) :
    rows.map h = others.map k := by
  induction rows generalizing others with
  | nil =>
      cases others with
      | nil => rfl
      | cons y others => cases hSame
  | cons x rows ih =>
      cases others with
      | nil => cases hSame
      | cons y others =>
          obtain ⟨hFirst, hRest⟩ := List.cons.inj hSame
          rw [List.map_cons, List.map_cons, hNext x y hFirst, ih hRest]

/-- What is told of the cards after a change, if it is told by what was known of each before. -/
theorem map_modifyCard_congr {α β : Type} {f : Card → α} {h : Card → β}
    (hSame : s.cards.map f = t.cards.map f) (hId : ∀ c d, f c = f d → c.id = d.id)
    (hKept : ∀ c d, f c = f d → h c = h d) (hChange : ∀ c d, f c = f d → h (change c) = h (change' d)) :
    (s.modifyCard id change).cards.map h = (t.modifyCard id change').cards.map h := by
  rw [modifyCard_cards, modifyCard_cards, List.map_map, List.map_map]
  refine map_congr_of_map_eq hSame fun c d hcd => ?_
  rw [Function.comp_apply, Function.comp_apply, hId c d hcd]
  split
  · exact hChange c d hcd
  · exact hKept c d hcd

theorem since_terms_modifyCard (hTerms : s.terms = t.terms)
    (hChange : ∀ c d, c.terms = d.terms → (change c).terms.unstamped = (change' d).terms.unstamped) :
    start.since (s.modifyCard id change).terms = start.since (t.modifyCard id change').terms := by
  have hCards : (s.modifyCard id change).cards.map (fun c => c.terms.unstamped) =
      (t.modifyCard id change').cards.map fun c => c.terms.unstamped :=
    map_modifyCard_congr (cards_terms hTerms) (fun c d hcd => (congrArg Card.id hcd :))
      (fun c d hcd => congrArg Card.unstamped hcd) hChange
  have hJoin : ∀ u : Store, (start.since u.terms).cards = u.cards.map fun c => c.terms.unstamped :=
    fun u => List.map_map
  have hControls := controls_terms hTerms
  refine Store.ext (congrArg companies hTerms :) ?_ (congrArg queue hTerms :) rfl ?_
  · rw [hJoin, hJoin]
    exact hCards
  · exact congrArg (List.map _) hControls

theorem accounts_modifyCard (hAccount : ∀ c, (change c).account = c.account) :
    (s.modifyCard id change).accounts = s.accounts :=
  map_modifyCard hAccount

theorem terms_modifyCard (id : Uuid) (change : Card → Card) (hKept : ∀ c, (change c).terms = c.terms) :
    (s.modifyCard id change).terms = s.terms := by
  unfold terms
  rw [map_modifyCard hKept]
  rfl

end Store

/-! ## The calls -/

/-- What is set up on a card. -/
inductive Setup where
  | spendingLimit (limit : Float)
  | periodLimits (daily monthly : Option Float)
  | block (reason : Option String)
  | control (v : ControlValue)
  | noControl (kind : ControlType)

/-- A call that sets up a card of a company. -/
structure SetupCall where
  company : Uuid
  card : Uuid
  setup : Setup

/-- What a call that sets up a card gives back: the card, the control, or whether there was any. -/
inductive Reply where
  | card (c : Card)
  | control (r : ControlRow)
  | found (any : Bool)

/-- An outcome with what it gives put into a reply. -/
def replied {α : Type} (reply : α → Reply) (outcome : Except Error (α × Store)) :
    Except Error (Reply × Store) :=
  outcome.map fun result => (reply result.1, result.2)

/-- Run a call that sets up a card. -/
def SetupCall.run (call : SetupCall) (s : Store) (a : Ambient) : Except Error (Reply × Store) :=
  match call.setup with
  | .spendingLimit limit => replied .card (s.setSpendingLimit a call.company call.card limit)
  | .periodLimits daily monthly => replied .card (s.setPeriodLimits a call.company call.card daily monthly)
  | .block reason => replied .card (s.blockCard a call.company call.card reason)
  | .control v => replied .control (s.upsertControl a call.company call.card v)
  | .noControl kind => replied .found (s.deactivateControl a call.company call.card kind)

/-- A call that moves money. -/
inductive MoneyCall where
  | fund (company card : Uuid) (amount : Float)
  | debit (card : Uuid) (amount : Float)
  | credit (card : Uuid) (amount : Float)

/-- Run a call that moves money. -/
def MoneyCall.run (s : Store) (a : Ambient) : MoneyCall → Except Error (Card × Store)
  | fund company card amount => s.fundCard a company card amount
  | debit card amount => s.debit a card amount
  | credit card amount => s.credit a card amount

/-- The terms of a reply, without marks that a store does not know. -/
def Reply.since (start : Store) : Reply → Reply
  | card c => .card c.terms.unstamped
  | control r => .control (r.since (start.controls.map (·.id)))
  | found any => .found any

variable {α β γ : Type} {s t next start : Store} {a b : Ambient} {company card id : Uuid} {c d : Card}
  {change change' : Card → Card}

/-! ## Each side on its own: setting up -/

theorem check_alike {x : Except Error α} {f g : α → Except Error β} {h : β → γ}
    (hNext : ∀ v, (f v).map h = (g v).map h) : (x >>= f).map h = (x >>= g).map h := by
  cases x with
  | error e => rfl
  | ok v => exact hNext v

namespace Store

/-- A company that has a card in one store has it in another one, if the sides that are read agree. -/
theorem getCard_alike {f g : Card → Except Error β} {h : β → γ} (hKeyed : s.CardsKeyed)
    (hOther : t.CardsKeyed) (hOwns : s.owns company card = t.owns company card)
    (hNext : ∀ c d, s.card? card = some c → t.card? card = some d → (f c).map h = (g d).map h) :
    (s.getCard company card >>= f).map h = (t.getCard company card >>= g).map h := by
  rw [owns_eq_isSome, owns_eq_isSome] at hOwns
  unfold getCard
  cases hFound : s.cardOf? company card with
  | none =>
      cases hSame : t.cardOf? company card with
      | none => rfl
      | some d =>
          rw [hFound, hSame] at hOwns
          cases hOwns
  | some c =>
      cases hSame : t.cardOf? company card with
      | none =>
          rw [hFound, hSame] at hOwns
          cases hOwns
      | some d =>
          obtain ⟨hMem, hId, -⟩ := cardOf?_eq_some hFound
          obtain ⟨hOtherMem, hOtherId, -⟩ := cardOf?_eq_some hSame
          exact hNext c d ((card?_eq_some_iff hKeyed).mpr ⟨hMem, hId⟩)
            ((card?_eq_some_iff hOther).mpr ⟨hOtherMem, hOtherId⟩)

end Store

/-- What is seen of an outcome that looks at terms alone. -/
def termsSeen (start : Store) (outcome : Except Error (Reply × Store)) : Except Error (Reply × Store) :=
  outcome.map fun result => (result.1.since start, start.since result.2.terms)

theorem termsSeen_replied {reply : α → Reply} {x : Except Error (α × Store)} :
    termsSeen start (replied reply x) =
      x.map fun result => ((reply result.1).since start, start.since result.2.terms) := by
  cases x with
  | error e => rfl
  | ok result => rfl

theorem termsSeen_check {reply : β → Reply} {x : Except Error α} {f g : α → Except Error (β × Store)}
    (hNext : ∀ v, termsSeen start (replied reply (f v)) = termsSeen start (replied reply (g v))) :
    termsSeen start (replied reply (x >>= f)) = termsSeen start (replied reply (x >>= g)) := by
  cases x with
  | error e => rfl
  | ok v => exact hNext v

/-- The row of a control of a card that has none of its type, with what the column kept of it. -/
def ControlValue.newRow (v : ControlValue) (payload : Value) (drawn card : Uuid) (now : Instant) :
    ControlRow :=
  { id := drawn, cardId := card, type := v.type.name, payload, isActive := true, createdAt := now
    updatedAt := now }

namespace Store

/-- A setting does the same to two stores of the same terms. -/
theorem setting_alike {i j : Interference} (hKeyed : s.CardsKeyed) (hOther : t.CardsKeyed)
    (hTerms : s.terms = t.terms) (hi : i.cardUpdatesLost = false) (hj : j.cardUpdatesLost = false)
    (hId : ∀ c, (change c).id = c.id) (hId' : ∀ c, (change' c).id = c.id)
    (hChange : ∀ c d, c.terms = d.terms → (change c).terms.unstamped = (change' d).terms.unstamped) :
    termsSeen start (replied .card (s.getCard company card >>= fun _ => s.changeCard i card change)) =
      termsSeen start (replied .card (t.getCard company card >>= fun _ => t.changeCard j card change')) := by
  rw [termsSeen_replied, termsSeen_replied]
  refine getCard_alike hKeyed hOther (owns_of_terms hTerms) fun c d hCard hSame => ?_
  rw [changeCard_of_found hKeyed hId hCard hi, changeCard_of_found hOther hId' hSame hj]
  have hReply := congrArg Reply.card (hChange c d (terms_eq hTerms hCard hSame))
  exact congrArg Except.ok (Prod.ext hReply (since_terms_modifyCard hTerms hChange))

theorem since_terms_controls {rows rows' : List ControlRow} (hTerms : s.terms = t.terms)
    (hRows : rows.map (·.since (start.controls.map (·.id))) = rows'.map (·.since (start.controls.map (·.id)))) :
    start.since { s with controls := rows }.terms = start.since { t with controls := rows' }.terms := by
  have hCards := congrArg (List.map Card.unstamped) (cards_terms hTerms)
  exact Store.ext (congrArg companies hTerms :) hCards (congrArg queue hTerms :) rfl hRows

/-- A control is set in the same way in two stores of the same terms, whatever the time and the identifier,
as long as the column keeps payloads in the same way. -/
theorem putControl_alike {drawn drawn' : Uuid} {v : ControlValue}
    (hTerms : s.terms = t.terms) (hCard : s.card? card = some c) (hSame : t.card? card = some d)
    (hColumn : a.jsonColumn = b.jsonColumn)
    (hFree : ∀ r ∈ s.controls, r.id ≠ drawn) (hFree' : ∀ r ∈ s.controls, r.id ≠ drawn') :
    termsSeen s (replied .control (s.putControl a drawn card v)) =
      termsSeen s (replied .control (t.putControl b drawn' card v)) := by
  have hWritten : a.writtenPayload v = b.writtenPayload v := by
    unfold Ambient.writtenPayload
    rw [hColumn]
  have hControls := controls_terms hTerms
  have hActive : t.activeControl? card v.type = s.activeControl? card v.type := by
    unfold activeControl?
    rw [hControls]
  rw [termsSeen_replied, termsSeen_replied]
  unfold putControl
  rw [hWritten]
  refine check_alike fun _ => check_alike fun payload => ?_
  rw [hActive]
  cases hOld : s.activeControl? card v.type with
  | some old =>
      -- the row keeps its identifier, which the store knows, and only its stamp tells the times apart
      have hKnown : old.id ∈ s.controls.map (·.id) := List.mem_map_of_mem (mem_of_activeControl? hOld).1
      have hRow : ({ old with payload, updatedAt := a.now } : ControlRow).since (s.controls.map (·.id)) =
          ({ old with payload, updatedAt := b.now } : ControlRow).since (s.controls.map (·.id)) :=
        ControlRow.since_eq_of_mem hKnown hKnown rfl
      refine congrArg Except.ok (Prod.ext (congrArg Reply.control hRow) ?_)
      refine since_terms_controls hTerms ?_
      rw [← hControls, List.map_map, List.map_map]
      refine List.map_congr_left fun r _ => ?_
      rw [Function.comp_apply, Function.comp_apply]
      split
      · exact hRow
      · rfl
  | none =>
      have hNew : drawn ∉ s.controls.map (·.id) := by simpa using hFree
      have hNew' : drawn' ∉ s.controls.map (·.id) := by simpa using hFree'
      have hRow : (v.newRow payload drawn card a.now).since (s.controls.map (·.id)) =
          (v.newRow payload drawn' card b.now).since (s.controls.map (·.id)) :=
        ControlRow.since_eq_of_not_mem hNew hNew' rfl
      have hInsert : s.insertControl (v.newRow payload drawn card a.now) =
          .ok { s with controls := s.controls ++ [v.newRow payload drawn card a.now] } :=
        insertControl_succeeds hFree (by simp [ControlValue.newRow, hCard])
      have hInsert' : t.insertControl (v.newRow payload drawn' card b.now) =
          .ok { t with controls := t.controls ++ [v.newRow payload drawn' card b.now] } :=
        insertControl_succeeds (hControls ▸ hFree') (by simp [ControlValue.newRow, hSame])
      unfold ControlValue.newRow at hInsert hInsert' hRow
      dsimp only
      rw [hInsert, hInsert']
      refine congrArg Except.ok (Prod.ext (congrArg Reply.control hRow) ?_)
      refine since_terms_controls hTerms ?_
      rw [List.map_append, List.map_append, hControls, List.map_singleton, List.map_singleton, ← hControls,
        hRow]

/-- The controls of a type are taken away in the same way in two stores of the same terms. -/
theorem deactivateControl_alike {kind : ControlType} (hKeyed : s.CardsKeyed) (hOther : t.CardsKeyed)
    (hTerms : s.terms = t.terms) :
    termsSeen s (replied .found (s.deactivateControl a company card kind)) =
      termsSeen s (replied .found (t.deactivateControl b company card kind)) := by
  have hControls := controls_terms hTerms
  rw [termsSeen_replied, termsSeen_replied]
  refine getCard_alike hKeyed hOther (owns_of_terms hTerms) fun _ _ _ _ => ?_
  refine congrArg Except.ok (Prod.ext (by rw [hControls]) ?_)
  refine since_terms_controls hTerms ?_
  rw [← hControls, List.map_map, List.map_map]
  refine List.map_congr_left fun r hMem => ?_
  have hKnown : r.id ∈ s.controls.map (·.id) := List.mem_map_of_mem hMem
  rw [Function.comp_apply, Function.comp_apply]
  split
  · exact ControlRow.since_eq_of_mem hKnown hKnown rfl
  · rfl

end Store

/-- Surroundings that nobody interferes with, and an identifier that no row has. -/
structure Ambient.Undisturbed (a : Ambient) (s : Store) : Prop where
  alone : a.interference = {}
  newTransaction : s.IsFresh (a.freshId 0)
  newControl : ∀ r ∈ s.controls, r.id ≠ a.freshId 0

theorem Ambient.cardUpdatesLost_of_alone (hAlone : a.interference = {}) :
    a.interference.cardUpdatesLost = false := by
  rw [hAlone]

/-- A call that sets up a card does the same to two stores of the same terms. -/
theorem SetupCall.run_alike (call : SetupCall) (hKeyed : s.CardsKeyed) (hOther : t.CardsKeyed)
    (hTerms : s.terms = t.terms) (ha : a.interference = {}) (hb : b.interference = {})
    (hColumn : a.jsonColumn = b.jsonColumn)
    (hFree : ∀ r ∈ s.controls, r.id ≠ a.freshId 0) (hFree' : ∀ r ∈ s.controls, r.id ≠ b.freshId 0) :
    termsSeen s (call.run s a) = termsSeen s (call.run t b) := by
  have hKept := a.cardUpdatesLost_of_alone ha
  have hKept' := b.cardUpdatesLost_of_alone hb
  obtain ⟨company, card, setup⟩ := call
  cases setup with
  | spendingLimit limit =>
      refine termsSeen_check fun _ => ?_
      refine Store.setting_alike hKeyed hOther hTerms hKept hKept' (fun _ => rfl) (fun _ => rfl) ?_
      exact fun c d hcd => congrArg (fun e : Card => { e with spendingLimit := some limit }.unstamped) hcd
  | periodLimits daily monthly =>
      refine termsSeen_check fun _ => termsSeen_check fun _ => ?_
      refine Store.setting_alike hKeyed hOther hTerms hKept hKept' (fun _ => rfl) (fun _ => rfl) ?_
      exact fun c d hcd => congrArg
        (fun e : Card => { e with dailyLimit := daily, monthlyLimit := monthly }.unstamped) hcd
  | block reason =>
      refine Store.setting_alike hKeyed hOther hTerms hKept hKept' (fun _ => rfl) (fun _ => rfl) ?_
      exact fun c d hcd => congrArg
        (fun e : Card => { e with
          status := CardStatus.blocked.name, blockedAt := some .epoch, blockedReason := reason }.unstamped) hcd
  | control v =>
      refine termsSeen_check fun _ => ?_
      rw [termsSeen_replied, termsSeen_replied]
      refine Store.getCard_alike hKeyed hOther (Store.owns_of_terms hTerms) fun c d hCard hSame => ?_
      rw [← termsSeen_replied, ← termsSeen_replied]
      exact Store.putControl_alike hTerms hCard hSame hColumn hFree hFree'
  | noControl kind => exact Store.deactivateControl_alike hKeyed hOther hTerms

/-! ## Each side on its own: moving money -/

/-- What is seen of an outcome that looks at balances and the record alone. -/
def moneySeen (start : Store) (outcome : Except Error (Card × Store)) :
    Except Error ((Uuid × Uuid × Float) × List (Uuid × Uuid × Float) × List Transaction) :=
  outcome.map fun result => (result.1.account, result.2.accounts, (start.since result.2).transactions)

namespace Store

variable {amount : Float}

theorem accounts_modifyCard_congr (id : Uuid) (hAccounts : s.accounts = t.accounts)
    (hChange : ∀ c d, c.account = d.account → (change c).account = (change' d).account) :
    (s.modifyCard id change).accounts = (t.modifyCard id change').accounts :=
  map_modifyCard_congr hAccounts (fun _ _ hcd => (congrArg Prod.fst hcd :)) (fun _ _ hcd => hcd) hChange

theorem account_credited (amount : Float) (a b : Ambient) (hcd : c.account = d.account) :
    (c.credited amount a.now).account = (d.credited amount b.now).account :=
  congrArg (fun account => (account.1, account.2.1, account.2.2 + amount)) hcd

theorem account_debited (amount : Float) (a b : Ambient) (hcd : c.account = d.account) :
    (c.debited amount a.now).account = (d.debited amount b.now).account :=
  congrArg (fun account => (account.1, account.2.1, account.2.2 - amount)) hcd

/-- The charge and the credit of a card that is there. -/
theorem fundCard_found (company : Uuid) (hKeyed : s.CardsKeyed) (hAmount : isAmount amount = true)
    (hAlone : a.interference = {}) (hFresh : s.IsFresh (a.freshId 0)) (hCard : s.card? card = some c) :
    (s.createTransaction a (topUp company card amount) a.now >>= fun written =>
      written.2.credit a card amount >>= fun funded =>
        (.ok (funded.1, funded.2.updateStatus a written.1.id .completed) : Except Error (Card × Store))) =
      .ok (c.credited amount a.now, (s.modifyCard card (·.credited amount a.now)).withTransaction
        ((topUp company card amount).completed (a.freshId 0) a.now a.now)) := by
  have hHeld : s.overwriteBalance a.interference card = .ok s :=
    overwriteBalance_of_alone (by rw [hAlone])
  have hCreate : s.createTransaction a (topUp company card amount) a.now = .ok
      ((topUp company card amount).record (a.freshId 0) a.now,
        s.withTransaction ((topUp company card amount).record (a.freshId 0) a.now)) :=
    createTransaction_eq_ok_iff.mpr ⟨hAmount, hFresh, ⟨c, hCard⟩, s, hHeld, rfl⟩
  have hCredit := credit_of_found (a := a)
    (s := s.withTransaction ((topUp company card amount).record (a.freshId 0) a.now))
    (cardsKeyed_withTransaction.mpr hKeyed) hAmount hCard (a.cardUpdatesLost_of_alone hAlone)
  rw [hCreate, ok_bind, hCredit, ok_bind, modifyCard_withTransaction]
  exact congrArg (fun next => Except.ok (_, next)) (updateStatus_withTransaction hFresh .completed)

theorem since_transactions (hRecord : s.transactions = t.transactions) :
    (start.since s).transactions = (start.since t).transactions := by
  change s.transactions.map _ = t.transactions.map _
  rw [hRecord]

variable (hKeyed : s.CardsKeyed) (hOther : t.CardsKeyed) (hAccounts : s.accounts = t.accounts)
  (hRecord : s.transactions = t.transactions)

include hKeyed hOther hAccounts hRecord

theorem debit_alike (ha : a.interference = {}) (hb : b.interference = {}) :
    moneySeen s (s.debit a card amount) = moneySeen s (t.debit b card amount) := by
  by_cases hAmount : isAmount amount = true
  · rcases card?_of_accounts hAccounts card with ⟨hNone, hNone'⟩ | ⟨c, d, hCard, hSame, hAccount⟩
    · rw [debit_of_missing hAmount hNone, debit_of_missing hAmount hNone']
    · have hBalance : c.balance = d.balance := (congrArg (·.2.2) hAccount :)
      by_cases hCovered : amount ≤ c.balance
      · rw [debit_of_covered hKeyed hAmount hCard hCovered (a.cardUpdatesLost_of_alone ha),
          debit_of_covered hOther hAmount hSame (hBalance ▸ hCovered) (b.cardUpdatesLost_of_alone hb)]
        have hNext := accounts_modifyCard_congr card
          hAccounts fun _ _ hcd => account_debited amount a b hcd
        exact congrArg Except.ok
          (Prod.ext (account_debited amount a b hAccount) (Prod.ext hNext (since_transactions hRecord)))
      · rw [debit_of_short hKeyed hAmount hCard (.inl hCovered),
          debit_of_short hOther hAmount hSame (.inl (hBalance ▸ hCovered)), hBalance]
  · unfold debit checkAmount
    rw [if_neg hAmount]
    rfl

theorem credit_alike (ha : a.interference = {}) (hb : b.interference = {}) :
    moneySeen s (s.credit a card amount) = moneySeen s (t.credit b card amount) := by
  by_cases hAmount : isAmount amount = true
  · rcases card?_of_accounts hAccounts card with ⟨hNone, hNone'⟩ | ⟨c, d, hCard, hSame, hAccount⟩
    · rw [credit_of_missing hAmount hNone, credit_of_missing hAmount hNone']
    · rw [credit_of_found hKeyed hAmount hCard (a.cardUpdatesLost_of_alone ha),
        credit_of_found hOther hAmount hSame (b.cardUpdatesLost_of_alone hb)]
      have hNext := accounts_modifyCard_congr card
        hAccounts fun _ _ hcd => account_credited amount a b hcd
      exact congrArg Except.ok
        (Prod.ext (account_credited amount a b hAccount) (Prod.ext hNext (since_transactions hRecord)))
  · unfold credit checkAmount
    rw [if_neg hAmount]
    rfl

theorem fundCard_alike (ha : a.interference = {}) (hb : b.interference = {})
    (hFresh : s.IsFresh (a.freshId 0)) (hFresh' : s.IsFresh (b.freshId 0)) :
    moneySeen s (s.fundCard a company card amount) = moneySeen s (t.fundCard b company card amount) := by
  have hNew : a.freshId 0 ∉ s.transactions.map (·.id) := by simpa [IsFresh] using hFresh
  have hNew' : b.freshId 0 ∉ s.transactions.map (·.id) := by simpa [IsFresh] using hFresh'
  have hOtherFresh : t.IsFresh (b.freshId 0) := by
    unfold IsFresh
    rwa [← hRecord]
  by_cases hAmount : isAmount amount = true
  · unfold fundCard
    rw [checkAmount_of_isAmount hAmount, ok_bind, ok_bind]
    refine getCard_alike hKeyed hOther (owns_of_accounts hAccounts) fun c d hCard hSame => ?_
    have hAccount : c.account = d.account := by
      have hFound := card?_of_accounts hAccounts card
      rw [hCard, hSame] at hFound
      simpa using hFound
    have hPaid := fundCard_found company hKeyed hAmount ha hFresh hCard
    have hPaid' := fundCard_found company hOther hAmount hb hOtherFresh hSame
    refine (congrArg (Except.map _) hPaid).trans (Eq.trans ?_ (congrArg (Except.map _) hPaid').symm)
    have hNext := accounts_modifyCard_congr card
      hAccounts fun _ _ hcd => account_credited amount a b hcd
    refine congrArg Except.ok (Prod.ext (account_credited amount a b hAccount) (Prod.ext hNext ?_))
    have hRow : ((topUp company card amount).completed (a.freshId 0) a.now a.now).since
        (s.transactions.map (·.id)) =
        ((topUp company card amount).completed (b.freshId 0) b.now b.now).since (s.transactions.map (·.id)) :=
      Transaction.since_eq_of_not_mem hNew hNew' rfl
    change List.map _ (s.transactions ++ [_]) = List.map _ (t.transactions ++ [_])
    rw [List.map_append, List.map_append, List.map_singleton, List.map_singleton, hRow, hRecord]
  · unfold fundCard checkAmount
    rw [if_neg hAmount]
    rfl

end Store

/-- A call that moves money does the same to two stores of the same balances and the same record. -/
theorem MoneyCall.run_alike (call : MoneyCall) (hKeyed : s.CardsKeyed) (hOther : t.CardsKeyed)
    (hAccounts : s.accounts = t.accounts) (hRecord : s.transactions = t.transactions)
    (ha : a.interference = {}) (hb : b.interference = {})
    (hFresh : s.IsFresh (a.freshId 0)) (hFresh' : s.IsFresh (b.freshId 0)) :
    moneySeen s (call.run s a) = moneySeen s (call.run t b) := by
  cases call with
  | fund company card amount =>
      exact Store.fundCard_alike hKeyed hOther hAccounts hRecord ha hb hFresh hFresh'
  | debit card amount => exact Store.debit_alike hKeyed hOther hAccounts hRecord ha hb
  | credit card amount => exact Store.credit_alike hKeyed hOther hAccounts hRecord ha hb

/-! ## What each side leaves alone -/

theorem Card.Revision.account (hRevision : Card.Revision change) (c : Card) :
    (change c).account = c.account := by
  have hCompany : (change c).companyId = c.companyId := congrArg CardFace.companyId (hRevision.face c)
  unfold Card.account
  rw [hRevision.id, hCompany, hRevision.balance]

theorem replied_eq_ok {reply : α → Reply} {x : Except Error (α × Store)} {result : Reply × Store}
    (hReplied : replied reply x = .ok result) : ∃ value, x = .ok (value, result.2) := by
  obtain ⟨⟨value, next⟩, hx, rfl⟩ := map_eq_ok_iff.mp hReplied
  exact ⟨value, hx⟩

theorem Store.money_of_revision
    (hRevised : ∃ change, Card.Revision change ∧ next = s.modifyCard card change) :
    next.accounts = s.accounts ∧ next.transactions = s.transactions := by
  obtain ⟨change, hRevision, rfl⟩ := hRevised
  exact ⟨Store.accounts_modifyCard hRevision.account, rfl⟩

/-- A call that sets up a card changes no balance and no transaction. -/
theorem SetupCall.run_money {call : SetupCall} {result : Reply × Store} (hRun : call.run s a = .ok result) :
    result.2.accounts = s.accounts ∧ result.2.transactions = s.transactions := by
  obtain ⟨company, card, setup⟩ := call
  cases setup with
  | spendingLimit limit =>
      obtain ⟨c, hSet⟩ := replied_eq_ok hRun
      exact Store.money_of_revision (Store.setSpendingLimit_eq_ok hSet)
  | periodLimits daily monthly =>
      obtain ⟨c, hSet⟩ := replied_eq_ok hRun
      exact Store.money_of_revision (Store.setPeriodLimits_eq_ok hSet)
  | block reason =>
      obtain ⟨c, hBlock⟩ := replied_eq_ok hRun
      exact Store.money_of_revision (Store.blockCard_eq_ok hBlock)
  | control v =>
      obtain ⟨r, hUpsert⟩ := replied_eq_ok hRun
      have hStore := Store.upsertControl_eq_ok hUpsert
      exact ⟨by rw [hStore]; rfl, by rw [hStore]⟩
  | noControl kind =>
      obtain ⟨any, hDeactivate⟩ := replied_eq_ok hRun
      have hStore := Store.deactivateControl_eq_ok hDeactivate
      exact ⟨by rw [hStore]; rfl, by rw [hStore]⟩

/-- A call that moves money changes no limit, no status, no block and no control. -/
theorem MoneyCall.run_terms {call : MoneyCall} {result : Card × Store} (hKeyed : s.CardsKeyed)
    (hAlone : a.interference = {}) (hRun : call.run s a = .ok result) : result.2.terms = s.terms := by
  cases call with
  | fund company card amount =>
      obtain ⟨-, -, held, c, hHeld, -, rfl⟩ := Store.fundCard_eq_ok hKeyed hRun
      rw [Store.held_eq_of_alone (by rw [hAlone]) hHeld]
      exact Store.terms_modifyCard (s := s) card (·.credited amount a.now) fun _ => rfl
  | debit card amount =>
      obtain ⟨-, -, c, -, -, rfl⟩ := (Store.debit_eq_ok_iff hKeyed).mp hRun
      exact Store.terms_modifyCard card (·.debited amount a.now) fun _ => rfl
  | credit card amount =>
      obtain ⟨-, -, c, -, rfl⟩ := (Store.credit_eq_ok_iff hKeyed).mp hRun
      exact Store.terms_modifyCard card (·.credited amount a.now) fun _ => rfl

/-! ## One after the other -/

/-- The store after a call that sets up a card, which fails or goes through. -/
def SetupCall.leaves (call : SetupCall) (s : Store) (a : Ambient) : Store :=
  s.orLeft ((call.run s a).map (·.2))

/-- The store after a call that moves money, which fails or goes through. -/
def MoneyCall.leaves (call : MoneyCall) (s : Store) (a : Ambient) : Store :=
  s.orLeft ((call.run s a).map (·.2))

theorem SetupCall.leaves_money (call : SetupCall) (s : Store) (a : Ambient) :
    (call.leaves s a).accounts = s.accounts ∧ (call.leaves s a).transactions = s.transactions := by
  refine Store.orLeft_preserves
    (P := fun next => next.accounts = s.accounts ∧ next.transactions = s.transactions)
    ⟨rfl, rfl⟩ fun next hNext => ?_
  obtain ⟨result, hRun, rfl⟩ := map_eq_ok_iff.mp hNext
  exact call.run_money hRun

theorem MoneyCall.leaves_terms (call : MoneyCall) (hKeyed : s.CardsKeyed) (hAlone : a.interference = {}) :
    (call.leaves s a).terms = s.terms := by
  refine Store.orLeft_preserves (P := fun next => next.terms = s.terms) rfl fun next hNext => ?_
  obtain ⟨result, hRun, rfl⟩ := map_eq_ok_iff.mp hNext
  exact call.run_terms hKeyed hAlone hRun

theorem Store.cardsKeyed_of_accounts (hAccounts : next.accounts = s.accounts) (hKeyed : s.CardsKeyed) :
    next.CardsKeyed := by
  have hIds := congrArg (List.map Prod.fst) hAccounts
  unfold Store.accounts at hIds
  rw [List.map_map, List.map_map] at hIds
  exact (Store.cardsKeyed_of_ids hIds).mpr hKeyed

theorem Store.cardsKeyed_of_terms (hTerms : next.terms = s.terms) (hKeyed : s.CardsKeyed) :
    next.CardsKeyed := by
  have hIds := congrArg (List.map Card.id) (Store.cards_terms hTerms)
  rw [List.map_map, List.map_map] at hIds
  exact (Store.cardsKeyed_of_ids hIds).mpr hKeyed

/-- What is seen of two outcomes is seen of the stores that are left. -/
theorem Store.orLeft_alike (look : Store → β) {tell : α × Store → γ × β} {x y : Except Error (α × Store)}
    (hLook : ∀ result, (tell result).2 = look result.2) (hSame : look s = look t)
    (hTold : x.map tell = y.map tell) : look (s.orLeft (x.map (·.2))) = look (t.orLeft (y.map (·.2))) := by
  cases x with
  | error e =>
      cases y with
      | error e' => exact hSame
      | ok other => cases hTold
  | ok result =>
      cases y with
      | error e => cases hTold
      | ok other =>
          have hNext := congrArg Prod.snd (Except.ok.inj hTold)
          rwa [hLook, hLook] at hNext

/-- **Administration and money do not touch each other.** Take a call that sets up a card and a call that
moves money, on cards of any store, and run them in either order, each at times of its own and over a
column that keeps a payload in the same way at both times. Each call gives the same in both orders: the
same error, or the same terms and the same balance. The two stores that are left are the same but for stamps
and the identifiers drawn since. In either order the first changes no balance and no transaction, and the
second nothing but balances and the record. -/
theorem administration_and_money_commute {a a' b b' : Ambient} (setup : SetupCall) (money : MoneyCall)
    (hKeyed : s.CardsKeyed) (ha : a.Undisturbed s) (ha' : a'.Undisturbed s)
    (hColumn : a.jsonColumn = a'.jsonColumn) (hb : b.Undisturbed s) (hb' : b'.Undisturbed s) :
    let set := setup.leaves s a
    let paid := money.leaves s b
    let setThenPaid := money.leaves set b'
    let paidThenSet := setup.leaves paid a'
    ((setup.run s a).map (·.1.since s) = (setup.run paid a').map (·.1.since s)) ∧
      ((money.run s b).map (·.1.account) = (money.run set b').map (·.1.account)) ∧
      s.since setThenPaid = s.since paidThenSet ∧
      (set.accounts = s.accounts ∧ set.transactions = s.transactions) ∧
      (paidThenSet.accounts = paid.accounts ∧ paidThenSet.transactions = paid.transactions) ∧
      paid.terms = s.terms ∧ setThenPaid.terms = set.terms := by
  intro set paid setThenPaid paidThenSet
  obtain ⟨hAccounts, hRecord⟩ := setup.leaves_money s a
  have hTerms : paid.terms = s.terms := money.leaves_terms hKeyed hb.alone
  have hSetKeyed : set.CardsKeyed := Store.cardsKeyed_of_accounts hAccounts hKeyed
  have hPaidKeyed : paid.CardsKeyed := Store.cardsKeyed_of_terms hTerms hKeyed
  have hSetup : termsSeen s (setup.run s a) = termsSeen s (setup.run paid a') :=
    setup.run_alike hKeyed hPaidKeyed hTerms.symm ha.alone ha'.alone hColumn ha.newControl ha'.newControl
  have hMoney : moneySeen s (money.run s b) = moneySeen s (money.run set b') :=
    money.run_alike hKeyed hSetKeyed hAccounts.symm hRecord.symm hb.alone hb'.alone hb.newTransaction
      hb'.newTransaction
  have hSetTerms : setThenPaid.terms = set.terms := money.leaves_terms hSetKeyed hb'.alone
  obtain ⟨hPaidAccounts, hPaidRecord⟩ := setup.leaves_money paid a'
  have hLeftTerms : s.since set.terms = s.since paidThenSet.terms :=
    Store.orLeft_alike (fun u => s.since u.terms) (fun _ => rfl) (congrArg s.since hTerms.symm) hSetup
  have hLeftMoney : (paid.accounts, (s.since paid).transactions) =
      (setThenPaid.accounts, (s.since setThenPaid).transactions) :=
    Store.orLeft_alike (fun u => (u.accounts, (s.since u).transactions)) (fun _ => rfl)
      (Prod.ext hAccounts.symm (Store.since_transactions hRecord.symm)) hMoney
  refine ⟨?_, ?_, ?_, ⟨hAccounts, hRecord⟩, ⟨hPaidAccounts, hPaidRecord⟩, hTerms, hSetTerms⟩
  · have hReply := congrArg (Except.map Prod.fst) hSetup
    unfold termsSeen at hReply
    rwa [map_map, map_map] at hReply
  · have hCard := congrArg (Except.map Prod.fst) hMoney
    unfold moneySeen at hCard
    rwa [map_map, map_map] at hCard
  · obtain ⟨hSameAccounts, hSameRecord⟩ := Prod.ext_iff.mp hLeftMoney
    refine Store.since_eq ?_ (hSameAccounts.symm.trans hPaidAccounts.symm) ?_
    · rw [hSetTerms]
      exact hLeftTerms
    · exact hSameRecord.symm.trans (Store.since_transactions hPaidRecord).symm

namespace Sample

/-- The card of the sample is blocked. -/
def block : SetupCall :=
  ⟨Sample.company, Sample.card.id, .block (some "lost")⟩

/-- Funds are loaded onto it. -/
def topUp : MoneyCall :=
  .fund Sample.company Sample.card.id 50

theorem undisturbed_store (number : Nat) : (surroundings number).Undisturbed store where
  alone := rfl
  newTransaction := by simp [Store.IsFresh, store]
  newControl := by simp [store]

end Sample

/-- Whether a card is blocked before or after funds are loaded, in the end it is blocked and has the funds. -/
theorem administration_and_money_commute_of_block :
    Sample.store.since (Sample.topUp.leaves (Sample.block.leaves Sample.store (Sample.surroundings 1))
        (Sample.surroundings 4)) =
      Sample.store.since (Sample.block.leaves (Sample.topUp.leaves Sample.store (Sample.surroundings 2))
        (Sample.surroundings 3)) ∧
    ((Sample.topUp.leaves (Sample.block.leaves Sample.store (Sample.surroundings 1))
      (Sample.surroundings 4)).cards.map fun c => (c.status, c.balance)) = [("blocked", 150)] := by
  obtain ⟨-, -, hSame, -⟩ := administration_and_money_commute Sample.block Sample.topUp
    Sample.cardsKeyed_store (Sample.undisturbed_store 1) (Sample.undisturbed_store 3) rfl
    (Sample.undisturbed_store 2) (Sample.undisturbed_store 4)
  exact ⟨hSame, by decide +kernel⟩

end CardLedger
