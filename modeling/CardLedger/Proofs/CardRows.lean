import Mathlib.Data.List.Nodup
import CardLedger.Store.Basic

/-!
# Rows of cards

The primary key of the cards, and what follows from it for the changes that operations make: a
guarded update that fits the card of an identifier changes that row and no other, and the row is
found again under its identifier.
-/

namespace CardLedger

/-- What a card keeps from its issue on: whose it is, and what is printed on it. -/
structure CardFace where
  id : Uuid
  companyId : Uuid
  number : String
  holder : String
  employeeId : String
  employeeEmail : String
  lastFour : String
  deriving DecidableEq

/-- The face of a card. -/
def Card.face (c : Card) : CardFace :=
  { id := c.id, companyId := c.companyId, number := c.number, holder := c.holder
    employeeId := c.employeeId, employeeEmail := c.employeeEmail, lastFour := c.lastFour }

namespace Store

variable {s : Store} {i : Interference} {id other company : Uuid} {c d : Card}
  {change : Card → Card}

/-- The primary key of the cards: no two of them have one identifier. -/
def CardsKeyed (s : Store) : Prop :=
  (s.cards.map (·.id)).Nodup

/-- The store with the card of an identifier changed. -/
def modifyCard (s : Store) (id : Uuid) (change : Card → Card) : Store :=
  { s with cards := s.cards.map fun c => if c.id = id then change c else c }

@[simp]
theorem modifyCard_companies : (s.modifyCard id change).companies = s.companies := rfl

@[simp]
theorem modifyCard_queue : (s.modifyCard id change).queue = s.queue := rfl

@[simp]
theorem modifyCard_transactions : (s.modifyCard id change).transactions = s.transactions := rfl

@[simp]
theorem modifyCard_controls : (s.modifyCard id change).controls = s.controls := rfl

@[simp]
theorem modifyCard_unchanged : (s.modifyCard id fun c => c) = s := by
  unfold modifyCard
  simp

theorem modifyCard_cards :
    (s.modifyCard id change).cards = s.cards.map fun c => if c.id = id then change c else c := rfl

theorem mem_modifyCard_cards :
    d ∈ (s.modifyCard id change).cards ↔ ∃ c ∈ s.cards, (if c.id = id then change c else c) = d := by
  rw [modifyCard_cards, List.mem_map]

/-- What a change of one card preserves holds of all cards after it. -/
theorem forall_modifyCard {P : Card → Prop} (hChange : ∀ c, P c → P (change c))
    (hAll : ∀ c ∈ s.cards, P c) : ∀ c ∈ (s.modifyCard id change).cards, P c := by
  intro d hd
  obtain ⟨c, hc, rfl⟩ := mem_modifyCard_cards.mp hd
  split
  · exact hChange c (hAll c hc)
  · exact hAll c hc

theorem map_modifyCard {α : Type} {f : Card → α} (hKept : ∀ c, f (change c) = f c) :
    (s.modifyCard id change).cards.map f = s.cards.map f := by
  rw [modifyCard_cards, List.map_map]
  refine List.map_congr_left fun c _ => ?_
  by_cases hc : c.id = id
  · simp [hc, hKept]
  · simp [hc]

theorem modifyCard_ids (hId : ∀ c, (change c).id = c.id) :
    (s.modifyCard id change).cards.map (·.id) = s.cards.map (·.id) :=
  map_modifyCard hId

theorem cardsKeyed_of_ids {next : Store} (hIds : next.cards.map (·.id) = s.cards.map (·.id)) :
    next.CardsKeyed ↔ s.CardsKeyed := by
  unfold CardsKeyed
  rw [hIds]

theorem cardsKeyed_modifyCard (hId : ∀ c, (change c).id = c.id) :
    (s.modifyCard id change).CardsKeyed ↔ s.CardsKeyed :=
  cardsKeyed_of_ids (modifyCard_ids hId)

/-! ## Looking up cards -/

theorem mem_of_card? (hCard : s.card? id = some c) : c ∈ s.cards ∧ c.id = id := by
  refine ⟨List.mem_of_find?_eq_some hCard, ?_⟩
  simpa using List.find?_some hCard

theorem eq_of_keyed (hKeyed : s.CardsKeyed) (hc : c ∈ s.cards) (hd : d ∈ s.cards)
    (hId : c.id = d.id) : c = d :=
  List.inj_on_of_nodup_map hKeyed hc hd hId

theorem card?_eq_some_iff (hKeyed : s.CardsKeyed) :
    s.card? id = some c ↔ c ∈ s.cards ∧ c.id = id := by
  constructor
  · exact mem_of_card?
  · rintro ⟨hc, rfl⟩
    cases hCard : s.card? c.id with
    | none =>
        have hMissing := List.find?_eq_none.mp hCard c hc
        simp at hMissing
    | some d =>
        obtain ⟨hd, hId⟩ := mem_of_card? hCard
        rw [eq_of_keyed hKeyed hd hc hId]

theorem card?_eq_none_iff : s.card? id = none ↔ ∀ c ∈ s.cards, c.id ≠ id := by
  unfold card?
  simp

theorem cardOf?_eq_some (hCard : s.cardOf? company id = some c) :
    c ∈ s.cards ∧ c.id = id ∧ c.companyId = company := by
  refine ⟨List.mem_of_find?_eq_some hCard, ?_⟩
  simpa using List.find?_some hCard

theorem find?_modifyCard (hId : ∀ c, (change c).id = c.id) (rows : List Card) :
    (rows.map fun c => if c.id = id then change c else c).find? (fun c => c.id == other) =
      (rows.find? fun c => c.id == other).map fun c => if c.id = id then change c else c := by
  rw [List.find?_map]
  congr 2
  funext c
  by_cases hc : c.id = id
  · simp [hc, hId]
  · simp [hc]

theorem card?_modifyCard (hId : ∀ c, (change c).id = c.id) :
    (s.modifyCard id change).card? other =
      (s.card? other).map fun c => if c.id = id then change c else c :=
  find?_modifyCard hId s.cards

theorem card?_modifyCard_self (change : Card → Card) (hId : ∀ c, (change c).id = c.id)
    (hCard : s.card? id = some c) :
    (s.modifyCard id change).card? id = some (change c) := by
  rw [card?_modifyCard hId, hCard, Option.map_some, if_pos (mem_of_card? hCard).2]

/-- A change of one card changes one balance. -/
theorem balance_modifyCard (f : Float → Float) (hId : ∀ c, (change c).id = c.id)
    (hBalance : ∀ c, (change c).balance = f c.balance) :
    ((s.modifyCard id change).card? other).map (·.balance) =
      (s.card? other).map fun c => if id = other then f c.balance else c.balance := by
  rw [card?_modifyCard hId]
  cases hCard : s.card? other with
  | none => rfl
  | some c =>
      obtain ⟨-, rfl⟩ := mem_of_card? hCard
      by_cases hOwn : c.id = id
      · simp [hOwn, hBalance]
      · simp [hOwn, Ne.symm hOwn]

/-! ## Guarded updates -/

/-- A guard that the card of an identifier meets reaches this card and no other. -/
theorem countP_guarded (hKeyed : s.CardsKeyed) (hCard : s.card? id = some c) (guard : Card → Bool) :
    s.cards.countP (fun d => d.id == id && guard d) = if guard c then 1 else 0 := by
  obtain ⟨hMem, hId⟩ := mem_of_card? hCard
  -- under the primary key the cards that fit are the occurrences of `c`, if it fits at all
  have hOnce : s.cards.count c = 1 := List.count_eq_one_of_mem hKeyed.of_map hMem
  cases hGuard : guard c with
  | false =>
      rw [if_neg (by decide), List.countP_eq_zero]
      intro d hd
      by_cases hdc : d.id = id
      · rw [eq_of_keyed hKeyed hd hMem (hdc.trans hId.symm), hGuard]
        simp
      · simp [hdc]
  | true =>
      rw [if_pos rfl, ← hOnce, List.count]
      refine List.countP_congr fun d hd => ?_
      constructor
      · intro hFits
        have hdc : d.id = id := by
          simpa using (Bool.and_eq_true_iff.mp hFits).1
        rw [eq_of_keyed hKeyed hd hMem (hdc.trans hId.symm)]
        exact beq_self_eq_true c
      · intro hSame
        rw [eq_of_beq hSame, hGuard, hId]
        simp

/-- A guarded update that the card of an identifier fits changes this card and no other. -/
theorem changeCards_of_guard (change : Card → Card) (guard : Card → Bool) (hKeyed : s.CardsKeyed)
    (hCard : s.card? id = some c) (hKept : i.cardUpdatesLost = false) (hGuard : guard c = true) :
    s.changeCards i (fun d => d.id == id && guard d) change = (s.modifyCard id change, 1) := by
  obtain ⟨hMem, hId⟩ := mem_of_card? hCard
  have hMap : (s.cards.map fun d => if d.id == id && guard d then change d else d) =
      (s.modifyCard id change).cards := by
    refine List.map_congr_left fun d hd => ?_
    by_cases hdc : d.id = id
    · rw [eq_of_keyed hKeyed hd hMem (hdc.trans hId.symm)]
      simp [hGuard, hId]
    · simp [hdc]
  unfold changeCards
  rw [if_neg (by simp [hKept]), hMap, countP_guarded hKeyed hCard, if_pos hGuard]
  rfl

theorem changeCards_of_key (change : Card → Card) (hKeyed : s.CardsKeyed)
    (hCard : s.card? id = some c) (hKept : i.cardUpdatesLost = false) :
    s.changeCards i (fun d => d.id == id) change = (s.modifyCard id change, 1) := by
  simpa using changeCards_of_guard change (fun _ => true) hKeyed hCard hKept rfl

/-- An update reaches no card if updates are lost, or if the card does not meet the guard. -/
theorem changeCards_count_eq_zero (change : Card → Card) (guard : Card → Bool)
    (hKeyed : s.CardsKeyed) (hCard : s.card? id = some c)
    (hMissed : i.cardUpdatesLost = true ∨ guard c = false) :
    (s.changeCards i (fun d => d.id == id && guard d) change).2 = 0 := by
  unfold changeCards
  by_cases hLost : i.cardUpdatesLost = true
  · rw [if_pos hLost]
  · rw [if_neg hLost]
    change s.cards.countP _ = 0
    rw [countP_guarded hKeyed hCard, hMissed.resolve_left hLost]
    rfl

end Store

end CardLedger
