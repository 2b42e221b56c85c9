import CardLedger.Store.Basic

/-!
# Stamps and drawn identifiers

Two runs of the same calls differ in what the wall clock says and in the identifiers that are drawn,
although they do the same. Rows are compared without such marks.
-/

namespace CardLedger

attribute [ext] Store

/-- A card without the time of its last change. -/
def Card.untimed (c : Card) : Card :=
  { c with updatedAt := .epoch }

/-- A card without the times of its last change and of its block. -/
def Card.unstamped (c : Card) : Card :=
  { c.untimed with blockedAt := c.blockedAt.map fun _ => .epoch }

/-- A transaction without its identifier, and without the times at which it was processed and changed. -/
def Transaction.unmarked (t : Transaction) : Transaction :=
  { t with id := default, processedAt := t.processedAt.map fun _ => .epoch, updatedAt := .epoch }

/-- A transaction as it is, if its identifier is among those known, and else without marks. -/
def Transaction.since (known : List Uuid) (t : Transaction) : Transaction :=
  if t.id ∈ known then t else { t.unmarked with createdAt := .epoch }

/-- Two rows that are new are the same if only their marks tell them apart. -/
theorem Transaction.since_eq_of_not_mem {known : List Uuid} {t other : Transaction} (hNew : t.id ∉ known)
    (hOther : other.id ∉ known)
    (hSame : { t.unmarked with createdAt := .epoch } = { other.unmarked with createdAt := .epoch }) :
    t.since known = other.since known := by
  unfold since
  rw [if_neg hNew, if_neg hOther, hSame]

/-- A control without the time of its last change and, unless its identifier is among those known, without
marks. -/
def ControlRow.since (known : List Uuid) (r : ControlRow) : ControlRow :=
  if r.id ∈ known then { r with updatedAt := .epoch }
  else { r with id := default, createdAt := .epoch, updatedAt := .epoch }

/-- Two rows that are known are the same if only their last change tells them apart. -/
theorem ControlRow.since_eq_of_mem {known : List Uuid} {r other : ControlRow} (hMem : r.id ∈ known)
    (hOther : other.id ∈ known) (hSame : { r with updatedAt := .epoch } = { other with updatedAt := .epoch }) :
    r.since known = other.since known := by
  unfold since
  rw [if_pos hMem, if_pos hOther, hSame]

/-- Two rows that are new are the same if only their marks tell them apart. -/
theorem ControlRow.since_eq_of_not_mem {known : List Uuid} {r other : ControlRow} (hNew : r.id ∉ known)
    (hOther : other.id ∉ known)
    (hSame : { r with id := default, createdAt := .epoch, updatedAt := .epoch } =
      { other with id := default, createdAt := .epoch, updatedAt := .epoch }) :
    r.since known = other.since known := by
  unfold since
  rw [if_neg hNew, if_neg hOther, hSame]

/-- A store without stamps and without the identifiers that were drawn since it was another one. -/
def Store.since (start s : Store) : Store :=
  { s with
    cards := s.cards.map Card.unstamped
    transactions := s.transactions.map (Transaction.since (start.transactions.map (·.id)))
    controls := s.controls.map (ControlRow.since (start.controls.map (·.id))) }

end CardLedger
