import CardLedger.Proofs.References
import CardLedger.Proofs.TenantCards

/-!
# Ownership

A transaction names its card and, beside it, a company. Nothing in the tables ties the one to the other:
a purchase takes the company from the card that it has loaded, a top-up takes it from its caller. Every
writer looks the card up among those of the company first, so that in every run the two agree, and the
references of all tables lead to rows that are there.

The history of a company therefore tells the same rows as the histories of its cards together.
-/

namespace CardLedger

/-- The card and the company that a transaction names. -/
def Transaction.site (t : Transaction) : Uuid × Uuid :=
  (t.cardId, t.companyId)

/-! ## Rows by their keys -/

section

variable {α β : Type} [BEq β] [LawfulBEq β] {keys : List β}

/-- The rows of some keys are those of each key, one key after the other. -/
theorem perm_flatMap_filter (hNodup : keys.Nodup) (key : α → β) (rows : List α) :
    (rows.filter fun r => keys.contains (key r)).Perm
      (keys.flatMap fun k => rows.filter fun r => key r == k) := by
  induction keys with
  | nil => simp
  | cons k rest ih =>
      obtain ⟨hNew, hRest⟩ := List.nodup_cons.mp hNodup
      rw [List.flatMap_cons]
      -- the rows of the first key, and then the others
      refine (List.filter_append_perm (fun r => key r == k) _).symm.trans (.append ?_ ?_)
      · rw [List.filter_filter]
        refine .of_eq (List.filter_congr fun r _ => ?_)
        by_cases hKey : key r = k
        · simp [hKey]
        · simp [hKey]
      · refine .trans (.of_eq ?_) (ih hRest)
        rw [List.filter_filter]
        refine List.filter_congr fun r _ => ?_
        by_cases hKey : key r = k
        · simp [hKey, hNew]
        · simp [hKey]

end

theorem mapM_eq_ok {ε α β : Type} {items : List α} {f : α → Except ε β} {g : α → β}
    (hEach : ∀ x ∈ items, f x = .ok (g x)) : items.mapM f = .ok (items.map g) := by
  induction items with
  | nil => rfl
  | cons x rest ih =>
      have hRest := ih fun y hMem => hEach y (List.mem_cons_of_mem x hMem)
      rw [List.mapM_cons, hEach x List.mem_cons_self, hRest]
      rfl

namespace Store

variable {s next : Store} {a : Ambient} {company id : Uuid} {c : Card} {t : Transaction}

/-! ## What a call does to the sites of cards and transactions -/

/-- Which cards there are, and whose. -/
def sites (s : Store) : List (Uuid × Uuid) :=
  s.cards.map Card.site

theorem mem_sites_iff : (id, company) ∈ s.sites ↔ s.owns company id = true := by
  rw [owns_iff]
  unfold sites Card.site
  simp

/-- No company is lost. New cards are of a company that is there, and new transactions are of a card that
is there, and name its company. -/
structure SitesGrow (s next : Store) : Prop where
  companies : s.companies.map (·.id) ⊆ next.companies.map (·.id)
  cards : ∃ new, next.sites = s.sites ++ new ∧ ∀ site ∈ new, site.2 ∈ s.companies.map (·.id)
  transactions : ∃ new, next.transactions = s.transactions ++ new ∧ ∀ t ∈ new, t.site ∈ s.sites

namespace SitesGrow

/-- Cards and transactions stay as they are. -/
theorem of_same (hCompanies : s.companies.map (·.id) ⊆ next.companies.map (·.id))
    (hSites : next.sites = s.sites) (hRecord : next.transactions = s.transactions) : SitesGrow s next where
  companies := hCompanies
  cards := ⟨[], by simp [hSites], by simp⟩
  transactions := ⟨[], by simp [hRecord], by simp⟩

theorem of_revision (hRevised : ∃ change, Card.Revision change ∧ next = s.modifyCard id change) :
    SitesGrow s next := by
  obtain ⟨change, hRevision, rfl⟩ := hRevised
  have hSite : ∀ c, (change c).site = c.site := fun c =>
    congrArg (fun face : CardFace => (face.id, face.companyId)) (hRevision.face c)
  exact of_same (List.Subset.refl _) (map_modifyCard hSite) rfl

/-- A transaction is written for a card of the company that it names. -/
theorem of_booked {i : Interference} {held : Store} {change : Card → Card}
    (hHeld : s.overwriteBalance i id = .ok held) (hSite : ∀ c, (change c).site = c.site)
    (hOwned : s.owns t.companyId t.cardId = true) :
    SitesGrow s ((held.modifyCard id change).withTransaction t) where
  companies := by
    obtain ⟨balance, rfl⟩ := overwriteBalance_eq_ok hHeld
    exact List.Subset.refl _
  cards := by
    obtain ⟨balance, rfl⟩ := overwriteBalance_eq_ok hHeld
    have hSites : (s.modifyCard id fun c => { c with balance := balance c }).sites = s.sites :=
      map_modifyCard fun _ => rfl
    refine ⟨[], ?_, by simp⟩
    rw [List.append_nil, ← hSites]
    exact map_modifyCard hSite
  transactions := by
    refine ⟨[t], ?_, ?_⟩
    · rw [withTransaction_transactions, modifyCard_transactions, transactions_overwriteBalance hHeld]
    · intro new hNew
      rw [List.mem_singleton.mp hNew]
      exact mem_sites_iff.mpr hOwned

theorem of_issue {settings : IssuanceSettings} {result : List Card × Store} (hKeyed : s.CardsKeyed)
    (hIssue : s.issue a settings company = .ok result) : SitesGrow s result.2 := by
  obtain ⟨hActive, hStore, -, -, expiry, hCards⟩ := issue_eq_ok hKeyed hIssue
  rw [hStore]
  refine ⟨List.Subset.refl _, ⟨result.1.map Card.site, List.map_append, ?_⟩, ⟨[], by simp, by simp⟩⟩
  intro site hMem
  obtain ⟨c, hc, rfl⟩ := List.mem_map.mp hMem
  obtain ⟨r, hPending, draw, cvv, rfl⟩ := hCards c hc
  -- rows of other companies are not pending for this one
  obtain ⟨-, hCompany, -⟩ := mem_pending.mp hPending
  have hOwn : (r.card (Luhn.cardNumber draw) cvv a.now expiry).site.2 = company := hCompany
  rw [hOwn]
  exact mem_ids_of_isActive hActive

theorem of_fundCard {card : Uuid} {amount : Float} {result : Card × Store} (hKeyed : s.CardsKeyed)
    (hFund : s.fundCard a company card amount = .ok result) : SitesGrow s result.2 := by
  obtain ⟨_, -, hRest⟩ := bind_eq_ok_iff.mp hFund
  obtain ⟨c, hGet, -⟩ := bind_eq_ok_iff.mp hRest
  obtain ⟨-, -, held, d, hHeld, -, rfl⟩ := fundCard_eq_ok hKeyed hFund
  -- the caller's company is that of the card, since the card was looked up among its cards
  exact of_booked hHeld (Card.site_credited amount a.now) (owns_of_cardOf? (getCard_eq_ok_iff.mp hGet))

theorem of_authorize {z : Authorizer} {r : PurchaseRequest} {now : Instant}
    {result : AuthorizedPurchase × Store} (hKeyed : s.CardsKeyed)
    (hAuthorize : z.authorize s a company r now = .ok result) : SitesGrow s result.2 := by
  obtain ⟨held, hHeld, hOwned, hCompany, hStore⟩ := Authorizer.authorize_writes hKeyed hAuthorize
  rw [hStore]
  rw [← hCompany] at hOwned
  exact of_booked hHeld (Card.site_debited r.amount a.now) hOwned

theorem of_apply {operation : Operation} (hKeyed : s.CardsKeyed)
    (hApply : operation.apply s a = .ok next) : SitesGrow s next := by
  unfold Operation.apply at hApply
  cases operation with
  | registerCompany new =>
      obtain ⟨result, hRun, rfl⟩ := map_eq_ok_iff.mp hApply
      rw [registerCompany_eq_ok hRun]
      refine of_same ?_ rfl rfl
      rw [List.map_append]
      exact List.subset_append_left _ _
  | setCompanyStatus company status =>
      obtain ⟨result, hRun, rfl⟩ := map_eq_ok_iff.mp hApply
      have hStore := setCompanyStatus_eq_ok hRun
      refine of_same (by rw [companyIds_setCompanyStatus hRun]; exact List.Subset.refl _) ?_ ?_
      · rw [hStore]
        rfl
      · rw [hStore]
  | enqueue company employees =>
      obtain ⟨result, hRun, rfl⟩ := map_eq_ok_iff.mp hApply
      obtain ⟨-, -, hStore⟩ := enqueue_eq_ok hRun
      rw [hStore]
      exact of_same (List.Subset.refl _) rfl rfl
  | issue settings company =>
      obtain ⟨result, hRun, rfl⟩ := map_eq_ok_iff.mp hApply
      exact of_issue hKeyed hRun
  | fundCard company card amount =>
      obtain ⟨result, hRun, rfl⟩ := map_eq_ok_iff.mp hApply
      exact of_fundCard hKeyed hRun
  | setSpendingLimit company card limit =>
      obtain ⟨result, hRun, rfl⟩ := map_eq_ok_iff.mp hApply
      exact of_revision (setSpendingLimit_eq_ok hRun)
  | setPeriodLimits company card daily monthly =>
      obtain ⟨result, hRun, rfl⟩ := map_eq_ok_iff.mp hApply
      exact of_revision (setPeriodLimits_eq_ok hRun)
  | blockCard company card reason =>
      obtain ⟨result, hRun, rfl⟩ := map_eq_ok_iff.mp hApply
      exact of_revision (blockCard_eq_ok hRun)
  | upsertControl company card control =>
      obtain ⟨result, hRun, rfl⟩ := map_eq_ok_iff.mp hApply
      rw [upsertControl_eq_ok hRun]
      exact of_same (List.Subset.refl _) rfl rfl
  | deactivateControl company card kind =>
      obtain ⟨result, hRun, rfl⟩ := map_eq_ok_iff.mp hApply
      rw [deactivateControl_eq_ok hRun]
      exact of_same (List.Subset.refl _) rfl rfl
  | authorize z company r now =>
      obtain ⟨result, hRun, rfl⟩ := map_eq_ok_iff.mp hApply
      exact of_authorize hKeyed hRun

end SitesGrow

/-! ## The invariant -/

/-- Keys and references, with the companies of cards and the sites of transactions. -/
structure Sited (s : Store) : Prop where
  referenced : s.Referenced
  companyOfSite : ∀ site ∈ s.sites, site.2 ∈ s.companies.map (·.id)
  siteOfTransaction : ∀ t ∈ s.transactions, t.site ∈ s.sites

namespace Sited

theorem empty : Sited {} where
  referenced := .empty
  companyOfSite := by simp [sites]
  siteOfTransaction := by simp

theorem step (hSited : s.Sited) (hReferenced : next.Referenced) (hGrow : SitesGrow s next) :
    next.Sited where
  referenced := hReferenced
  companyOfSite := by
    obtain ⟨new, hSites, hNew⟩ := hGrow.cards
    rw [hSites]
    intro site hMem
    refine hGrow.companies ?_
    rcases List.mem_append.mp hMem with hOld | hAdded
    · exact hSited.companyOfSite site hOld
    · exact hNew site hAdded
  siteOfTransaction := by
    obtain ⟨newSites, hSites, -⟩ := hGrow.cards
    obtain ⟨new, hRecord, hNew⟩ := hGrow.transactions
    rw [hSites, hRecord]
    intro t hMem
    refine List.mem_append_left newSites ?_
    rcases List.mem_append.mp hMem with hOld | hAdded
    · exact hSited.siteOfTransaction t hOld
    · exact hNew t hAdded

theorem run (hSited : s.Sited) (calls : List Call) : (s.run calls).Sited := by
  -- induction on the calls; the references carry the step, they keep the cards keyed
  refine run_preserves (fun {old later call} hOld hApply => ?_) hSited calls
  exact hOld.step (hOld.referenced.of_apply call.alone hApply)
    (.of_apply hOld.referenced.wellFormed.cardsKeyed hApply)

/-- A transaction names a company exactly if its card is one of the company's. -/
theorem companyId_eq_iff (hSited : s.Sited) (hMem : t ∈ s.transactions) :
    t.companyId = company ↔ s.owns company t.cardId = true := by
  have hOwn : s.owns t.companyId t.cardId = true := mem_sites_iff.mp (hSited.siteOfTransaction t hMem)
  constructor
  · rintro rfl
    exact hOwn
  · intro hOwned
    by_contra hOther
    -- otherwise two companies had one card
    have hKeyed := hSited.referenced.wellFormed.cardsKeyed
    rw [owns_other hKeyed hOwned hOther] at hOwn
    cases hOwn

end Sited

/-- Every row refers to a row that is there, and a transaction names the company of its card. -/
structure Owned (s : Store) : Prop where
  card : ∀ c ∈ s.cards, ∃ company, s.company? c.companyId = some company
  queueRow : ∀ r ∈ s.queue, ∃ company, s.company? r.companyId = some company
  control : ∀ r ∈ s.controls, ∃ c, s.card? r.cardId = some c
  transaction : ∀ t ∈ s.transactions, ∃ c, s.card? t.cardId = some c ∧ c.companyId = t.companyId

theorem exists_company? (hMem : id ∈ s.companies.map (·.id)) : ∃ company, s.company? id = some company := by
  obtain ⟨old, hOld, hId⟩ := List.mem_map.mp hMem
  have hFound : (s.company? id).isSome := List.find?_isSome.mpr ⟨old, hOld, by simpa using hId⟩
  exact Option.isSome_iff_exists.mp hFound

theorem Sited.owned (hSited : s.Sited) : s.Owned := by
  obtain ⟨⟨hWell, hQueue⟩, hCompanies, hTransactions⟩ := hSited
  have hKeyed := hWell.cardsKeyed
  constructor
  · intro c hc
    exact exists_company? (hCompanies c.site (List.mem_map_of_mem hc))
  · intro r hr
    exact exists_company? (hQueue r hr)
  · intro r hr
    obtain ⟨c, hc, hId⟩ := List.mem_map.mp (hWell.cardOfControl r hr)
    exact ⟨c, (card?_eq_some_iff hKeyed).mpr ⟨hc, hId⟩⟩
  · intro t ht
    obtain ⟨c, hc, hSite⟩ := List.mem_map.mp (hTransactions t ht)
    obtain ⟨hId, hCompany⟩ := Prod.mk.inj hSite
    exact ⟨c, (card?_eq_some_iff hKeyed).mpr ⟨hc, hId⟩, hCompany⟩

/-! ## The histories of a company and of its cards -/

theorem listCards_perm : (s.listCards company).Perm (s.cards.filter fun c => c.companyId == company) :=
  List.mergeSort_perm _ _

theorem mem_listCards : c ∈ s.listCards company ↔ c ∈ s.cards ∧ c.companyId = company := by
  rw [listCards_perm.mem_iff, List.mem_filter, beq_iff_eq]

theorem nodup_listCards (hKeyed : s.CardsKeyed) (company : Uuid) :
    ((s.listCards company).map (·.id)).Nodup := by
  rw [(listCards_perm.map _).nodup_iff]
  exact hKeyed.sublist (List.filter_sublist.map _)

/-- The rows of a company are the rows of its cards, card by card. -/
theorem Sited.transactionsOfCompany_perm (hSited : s.Sited) (company : Uuid) :
    (s.transactionsOfCompany company).Perm
      ((s.listCards company).flatMap fun c => s.transactionsOfCard c.id) := by
  have hKeyed := hSited.referenced.wellFormed.cardsKeyed
  -- what names the company is what is of one of its cards
  have hRows : s.transactionsOfCompany company = s.transactions.filter fun t =>
      ((s.listCards company).map (·.id)).contains t.cardId := by
    refine List.filter_congr fun t hMem => ?_
    rw [Bool.eq_iff_iff, beq_iff_eq, List.contains_iff_mem, hSited.companyId_eq_iff hMem, owns_iff]
    simp only [List.mem_map, mem_listCards]
    constructor
    · rintro ⟨c, hc, hId, hCompany⟩
      exact ⟨c, ⟨hc, hCompany⟩, hId⟩
    · rintro ⟨c, ⟨hc, hCompany⟩, hId⟩
      exact ⟨c, hc, hId, hCompany⟩
  have hPerm := perm_flatMap_filter (nodup_listCards hKeyed company) (·.cardId) s.transactions
  rwa [← hRows, List.flatMap_map] at hPerm

/-- All rows are listed if the limit leaves none out. -/
theorem listed_perm {rows : List Transaction} {limit : Nat} (hAll : rows.length ≤ limit) :
    (listed rows limit 0).Perm rows := by
  have hPerm : (newestFirst (·.createdAt) rows).Perm rows := List.mergeSort_perm _ _
  unfold listed
  rw [List.drop_zero, List.take_of_length_le (by rwa [hPerm.length_eq])]
  exact hPerm

theorem disjoint_transactionsOfCard (hKeyed : s.CardsKeyed) (company : Uuid) :
    (s.listCards company).Pairwise fun c d =>
      (s.transactionsOfCard c.id).Disjoint (s.transactionsOfCard d.id) := by
  have hIds := nodup_listCards hKeyed company
  unfold List.Nodup at hIds
  rw [List.pairwise_map] at hIds
  refine hIds.imp fun hOther t hFirst hSecond => hOther ?_
  obtain ⟨-, hCard⟩ := List.mem_filter.mp hFirst
  obtain ⟨-, hOtherCard⟩ := List.mem_filter.mp hSecond
  exact (beq_iff_eq.mp hCard).symm.trans (beq_iff_eq.mp hOtherCard)

theorem exists_getCard (hc : c ∈ s.listCards company) : ∃ d, s.getCard company c.id = .ok d := by
  obtain ⟨hMem, hCompany⟩ := mem_listCards.mp hc
  have hOwned : s.owns company c.id = true := owns_iff.mpr ⟨c, hMem, rfl, hCompany⟩
  rw [owns_eq_isSome, Option.isSome_iff_exists] at hOwned
  obtain ⟨d, hFound⟩ := hOwned
  exact ⟨d, getCard_eq_ok_iff.mpr hFound⟩

/-- The page of a history over some rows. -/
def pageOf (rows : List Transaction) (page pageSize : Int) : HistoryPage :=
  let number := servedPage page
  let size := servedSize pageSize
  ⟨listed rows size ((number - 1) * size), rows.length, number, size⟩

theorem history_of_company (s : Store) (company : Uuid) (page pageSize : Int) :
    s.history company ⟨none, page, pageSize⟩ =
      .ok (pageOf (s.transactionsOfCompany company) page pageSize) := rfl

theorem history_of_card (page pageSize : Int) (hc : c ∈ s.listCards company) :
    s.history company ⟨some c.id, page, pageSize⟩ =
      .ok (pageOf (s.transactionsOfCard c.id) page pageSize) := by
  obtain ⟨d, hGet⟩ := exists_getCard hc
  unfold history queried
  dsimp only
  rw [hGet]
  rfl

/-- In every run of the workflow rows refer to rows that are there, and a transaction names the company of
its card. So what the rows of a company tell without paging is what those of its cards tell, each card's
rows apart from those of the others, and the total of the company's history is the sum of theirs. -/
theorem company_history_is_union (calls : List Call) (company : Uuid) :
    let s := run {} calls
    s.Owned ∧
      (∀ limit, s.transactions.length ≤ limit →
        (listed (s.transactionsOfCompany company) limit 0).Perm
          ((s.listCards company).flatMap fun c => listed (s.transactionsOfCard c.id) limit 0)) ∧
      ((s.listCards company).Pairwise fun c d =>
        (s.transactionsOfCard c.id).Disjoint (s.transactionsOfCard d.id)) ∧
      ∀ (page pageSize : Int) (paging : Card → Int × Int), ∃ whole parts,
        s.history company ⟨none, page, pageSize⟩ = .ok whole ∧
        (s.listCards company).mapM (fun c =>
          s.history company ⟨some c.id, (paging c).1, (paging c).2⟩) = .ok parts ∧
        whole.total = (parts.map (·.total)).sum := by
  intro s
  have hSited : s.Sited := Sited.empty.run calls
  have hPerm := hSited.transactionsOfCompany_perm company
  refine ⟨hSited.owned, fun limit hAll => ?_,
    disjoint_transactionsOfCard hSited.referenced.wellFormed.cardsKeyed company,
    fun page pageSize paging => ?_⟩
  · have hListed : ∀ p : Transaction → Bool, (listed (s.transactions.filter p) limit 0).Perm
        (s.transactions.filter p) := fun p => listed_perm ((List.length_filter_le _ _).trans hAll)
    refine (hListed _).trans (hPerm.trans (List.Perm.flatMap_left _ fun c _ => ?_))
    exact (hListed _).symm
  · refine ⟨_, _, history_of_company s company page pageSize,
      mapM_eq_ok fun c hc => history_of_card (paging c).1 (paging c).2 hc, ?_⟩
    change (s.transactionsOfCompany company).length = _
    rw [hPerm.length_eq, List.length_flatMap, List.map_map]
    rfl

end Store

/-- Of a company with one card, funded once and used once, both rows of the history are those of the card. -/
theorem company_history_is_union_of_sample :
    let s := Store.run {} (Sample.opening ++ [Sample.purchase 6 60 .epoch])
    s.transactions.length ≤ 2 ∧ (s.listCards Sample.tenant).map (·.id) = [Sample.issued] ∧
      (Store.listed (s.transactionsOfCompany Sample.tenant) 2 0).Perm
        ((s.listCards Sample.tenant).flatMap fun c => Store.listed (s.transactionsOfCard c.id) 2 0) ∧
      (s.transactionsOfCompany Sample.tenant).length = 2 := by
  intro s
  have hLength : s.transactions.length ≤ 2 := by
    decide +kernel
  obtain ⟨-, hUnion, -⟩ := Store.company_history_is_union (Sample.opening ++ [Sample.purchase 6 60 .epoch])
    Sample.tenant
  exact ⟨hLength, by decide +kernel, hUnion 2 hLength, by decide +kernel⟩

end CardLedger
