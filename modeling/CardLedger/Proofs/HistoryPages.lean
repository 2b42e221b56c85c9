import CardLedger.Proofs.Ownership
import CardLedger.Proofs.TimestampOrder

/-!
# Pages of a history

A history is served page by page, each page by a query of its own. Put one behind the other the pages of a
size are the whole history, the newest row first: the limit of one page is where the next one begins, and
the total that every page tells is the number of rows on all of them.
-/

namespace CardLedger

/-- The number of pages of a size that so many rows fill, the last of them perhaps in part. -/
def pageCount (total size : Nat) : Nat :=
  (total + size - 1) / size

theorem servedSize_bounds (pageSize : Int) : 1 ≤ servedSize pageSize ∧ servedSize pageSize ≤ 100 := by
  unfold servedSize
  split <;> omega

theorem servedPage_of_pos {page : Int} (hPage : 1 ≤ page) : servedPage page = page.toNat := by
  unfold servedPage
  rw [max_eq_left hPage]

theorem servedPage_of_le_one {page : Int} (hPage : page ≤ 1) : servedPage page = 1 := by
  unfold servedPage
  rw [max_eq_right hPage]
  rfl

/-! ## Stretches of a list -/

section

variable {α : Type} {rows : List α} {size total number : Nat}

theorem total_le_pageCount_mul (hSize : 1 ≤ size) : total ≤ pageCount total size * size := by
  have hDivision := Nat.div_add_mod (total + size - 1) size
  have hRest := Nat.mod_lt (total + size - 1) hSize
  unfold pageCount
  rw [Nat.mul_comm]
  omega

theorem mul_lt_total (hSize : 1 ≤ size) (hNumber : number < pageCount total size) : number * size < total := by
  have hLast : (number + 1) * size ≤ total + size - 1 :=
    (Nat.le_div_iff_mul_le hSize).mp hNumber
  rw [Nat.succ_mul] at hLast
  omega

/-- Stretches of one length, each from where the one before ends, make up the front of a list. -/
theorem flatMap_stretches (rows : List α) (size count : Nat) :
    ((List.range count).flatMap fun i => (rows.drop (i * size)).take size) = rows.take (count * size) := by
  induction count with
  | zero => simp
  | succ count ih => rw [List.range_succ, List.flatMap_append, ih, List.flatMap_singleton, Nat.succ_mul,
      List.take_add]

theorem flatMap_pages (hSize : 1 ≤ size) :
    ((List.range (pageCount rows.length size)).flatMap fun i => (rows.drop (i * size)).take size) = rows := by
  rw [flatMap_stretches, List.take_of_length_le (total_le_pageCount_mul hSize)]

theorem length_full_page (hSize : 1 ≤ size) (hNumber : number + 1 < pageCount rows.length size) :
    ((rows.drop (number * size)).take size).length = size := by
  have hRows := mul_lt_total hSize hNumber
  rw [Nat.succ_mul] at hRows
  rw [List.length_take, List.length_drop]
  omega

theorem page_behind_last (hSize : 1 ≤ size) (hNumber : pageCount rows.length size ≤ number) :
    (rows.drop (number * size)).take size = [] := by
  have hRows := (total_le_pageCount_mul hSize).trans (Nat.mul_le_mul_right size hNumber)
  rw [List.drop_eq_nil_of_le hRows, List.take_nil]

end

namespace Store

variable {s : Store} {company : Uuid} {card : Option Uuid}

/-- Whether a transaction is one of those that a company asks for, all of its own or those of a card. -/
def isAskedFor (company : Uuid) (card : Option Uuid) (t : Transaction) : Bool :=
  match card with
  | none => t.companyId == company
  | some id => t.cardId == id

theorem history_eq (hCard : ∀ id ∈ card, ∃ c ∈ s.cards, c.id = id ∧ c.companyId = company)
    (page pageSize : Int) : s.history company ⟨card, page, pageSize⟩ =
      .ok (pageOf (s.transactions.filter (isAskedFor company card)) page pageSize) := by
  cases card with
  | none => exact history_of_company s company page pageSize
  | some id =>
      obtain ⟨c, hc, rfl, hCompany⟩ := hCard id rfl
      exact history_of_card page pageSize (mem_listCards.mpr ⟨hc, hCompany⟩)

/-- The rows of so many pages, the first page in front. -/
def joined (page : Int → HistoryPage) (count : Nat) : List Transaction :=
  (List.range count).flatMap fun i : Nat => (page (i + 1)).transactions

/-- With a size of one to a hundred rows, the pages of a history from the first to the last that the total
calls for are, one behind the other, all transactions that are asked for, each as often as it is recorded
and none before one that is stored under a later time; in the years of four digits this is the order of the
instants. All pages but the last are full, the pages behind it are empty, all tell the number of rows as
their total, and who asks for a page below the first gets the first. -/
theorem history_is_paged (s : Store) (company : Uuid) (card : Option Uuid) (pageSize : Int)
    (hCard : ∀ id ∈ card, ∃ c ∈ s.cards, c.id = id ∧ c.companyId = company) :
    let rows := s.transactions.filter (isAskedFor company card)
    let size := servedSize pageSize
    let last := pageCount rows.length size
    (1 ≤ size ∧ size ≤ 100) ∧
      ∃ page : Int → HistoryPage,
        (∀ number, s.history company ⟨card, number, pageSize⟩ = .ok (page number)) ∧
        (joined page last).Perm rows ∧
        ((joined page last).Pairwise fun t later => t.createdAt.storedBefore later.createdAt = false) ∧
        ((∀ t ∈ rows, t.createdAt.InWrittenYears) →
          (joined page last).Pairwise fun t later => later.createdAt ≤ t.createdAt) ∧
        (∀ number : Int, 1 ≤ number → number < last → (page number).transactions.length = size) ∧
        (∀ number : Int, last < number → (page number).transactions = []) ∧
        (∀ number, (page number).total = rows.length) ∧
        ∀ number, number ≤ 1 → page number = page 1 := by
  intro rows size last
  have hSize := servedSize_bounds pageSize
  let sorted := newestFirst (·.createdAt) rows
  have hPerm : sorted.Perm rows := newestFirst_perm
  have hLast : last = pageCount sorted.length size := by rw [hPerm.length_eq]
  -- the page of a number is the stretch of the sorted rows behind the pages before it
  have hPage : ∀ number, 1 ≤ number → (pageOf rows number pageSize).transactions =
      (sorted.drop ((number.toNat - 1) * size)).take size := by
    intro number hNumber
    unfold pageOf
    rw [servedPage_of_pos hNumber]
    rfl
  have hAll : joined (fun number => pageOf rows number pageSize) last = sorted := by
    rw [hLast]
    refine .trans (List.flatMap_congr fun i _ => ?_) (flatMap_pages hSize.1)
    rw [hPage _ (by omega)]
    rfl
  refine ⟨hSize, fun number => pageOf rows number pageSize, (history_eq hCard · pageSize), ?_⟩
  rw [hAll]
  refine ⟨hPerm, pairwise_newestFirst, fun hYears => ?_, ?_, ?_, fun number => rfl, ?_⟩
  · exact pairwise_newestFirst.imp_of_mem fun hMem hLater =>
      Instant.le_of_not_storedBefore (hYears _ (hPerm.mem_iff.mp hLater)) (hYears _ (hPerm.mem_iff.mp hMem))
  · intro number hFirst hNumber
    rw [hPage number hFirst]
    exact length_full_page hSize.1 (by omega)
  · intro number hNumber
    rw [hPage number (by omega)]
    exact page_behind_last hSize.1 (by omega)
  · intro number hNumber
    change pageOf rows number pageSize = pageOf rows 1 pageSize
    unfold pageOf
    rw [servedPage_of_le_one hNumber, servedPage_of_le_one (Int.le_refl 1)]

end Store

/-- Two purchases on one day and one on the next, and the top-up before them, in pages of three. -/
theorem history_is_paged_of_sample :
    let next : Instant := ⟨86400, 0, by decide, by decide⟩
    let s := Store.run {} (Sample.opening ++
      [Sample.purchase 6 30 .epoch, Sample.purchase 7 20 .epoch, Sample.purchase 8 20 next])
    let rows := s.transactions.filter (Store.isAskedFor Sample.tenant (some Sample.issued))
    (∃ c ∈ s.cards, c.id = Sample.issued ∧ c.companyId = Sample.tenant) ∧
      (∀ t ∈ rows, t.createdAt.InWrittenYears) ∧ rows.length = 4 ∧
      ∃ page : Int → HistoryPage,
        (∀ number, s.history Sample.tenant ⟨some Sample.issued, number, 3⟩ = .ok (page number)) ∧
        (Store.joined page 2).Perm rows ∧
        (Store.joined page 2).Pairwise (fun t later => later.createdAt ≤ t.createdAt) ∧
        (page 1).transactions.length = 3 ∧ (page 3).transactions = [] ∧ (page 3).total = 4 ∧
        page (-5) = page 1 := by
  intro next s rows
  have hCard : ∃ c ∈ s.cards, c.id = Sample.issued ∧ c.companyId = Sample.tenant := by
    decide +kernel
  have hYears : ∀ t ∈ rows, t.createdAt.InWrittenYears := by
    decide +kernel
  have hLength : rows.length = 4 := by
    decide +kernel
  obtain ⟨-, page, hServed, hAll, -, hOrder, hFull, hBehind, hTotal, hFirst⟩ :=
    Store.history_is_paged s Sample.tenant (some Sample.issued) 3 fun id hId => Option.some.inj hId ▸ hCard
  have hLast : pageCount rows.length (servedSize 3) = 2 := by
    rw [hLength]
    rfl
  rw [hLast] at hAll hOrder hFull hBehind
  exact ⟨hCard, hYears, hLength, page, hServed, hAll, hOrder hYears, hFull 1 (by omega) (by omega),
    hBehind 3 (by omega), (hTotal 3).trans hLength, hFirst (-5) (by omega)⟩

end CardLedger
