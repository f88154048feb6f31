import PooledCredit.Proofs.Loans.Lifecycle

/-!
# The loan book counts its open loans

Beside the loans the book keeps which one is open on each token and how many are open on each
collection. The number is counted up when a loan is opened and down, without going below zero, when
one is closed. In every reachable store it is exactly the number of open loans, so the count down
never meets a zero; and a loan carries a bid exactly while it is under auction.
-/

namespace PooledCredit

/-- What a loan adds to the number of open loans on a collection. -/
def Loan.openOn (collection : Collection) (loan : Loan) : Nat :=
  if loan.status.isOpen = true ∧ loan.item.collection = collection then 1 else 0

namespace LoanBook

/-- The number of open loans on a collection, counted over the book. -/
def openOn (book : LoanBook) (collection : Collection) : Nat :=
  book.loans.total (Loan.openOn collection)

/-- A consistent book whose counts are those of its open loans, without an entry of zero, and whose
loans carry a bid exactly while they are under auction. -/
structure InStep (book : LoanBook) : Prop extends book.Consistent where
  counted : ∀ collection, book.openCount collection = book.openOn collection
  positive : ∀ collection, book.openByCollection.get? collection ≠ some 0
  bids : ∀ id loan, book.loan? id = some loan → (loan.bid.isSome = true ↔ loan.status = .auction)

/-! ## Counting down -/

/-- Counting down takes one off the count of a collection and leaves the others alone. -/
lemma getD_countDown (counts : SortedMap Collection Nat) (collection other : Collection) :
    (countDown counts collection).getD other 0 =
      if other = collection then counts.getD other 0 - 1 else counts.getD other 0 := by
  unfold countDown SortedMap.getD
  by_cases hother : other = collection
  · subst hother
    rw [if_pos rfl]
    cases hcount : counts.get? other with
    | none => simp [hcount]
    | some count =>
      by_cases hlast : count - 1 = 0
      · simp [hlast, SortedMap.get?_erase_self]
      · simp [hlast, SortedMap.get?_insert_self]
  · rw [if_neg hother]
    cases hcount : counts.get? collection with
    | none => rfl
    | some count =>
      by_cases hlast : count - 1 = 0
      · simp [hlast, SortedMap.get?_erase_of_ne _ hother]
      · simp [hlast, SortedMap.get?_insert_of_ne _ hother]

/-- Counting down leaves no entry of zero. -/
lemma countDown_ne_zero {counts : SortedMap Collection Nat} (collection : Collection)
    (h : ∀ other, counts.get? other ≠ some 0) (other : Collection) :
    (countDown counts collection).get? other ≠ some 0 := by
  unfold countDown
  cases hcount : counts.get? collection with
  | none => exact h other
  | some count =>
    by_cases hother : other = collection
    · subst hother
      by_cases hlast : count - 1 = 0
      · simp [hlast, SortedMap.get?_erase_self]
      · simp [hlast, SortedMap.get?_insert_self]
    · by_cases hlast : count - 1 = 0
      · simpa [hlast, SortedMap.get?_erase_of_ne _ hother] using h other
      · simpa [hlast, SortedMap.get?_insert_of_ne _ hother] using h other

/-! ## The operations of the book -/

namespace InStep

variable {book book' : LoanBook} {id : LoanId} {now : Nat}

/-- The entry of a collection is the number of its open loans, and there is none for zero. -/
lemma openByCollection_eq (h : book.InStep) (collection : Collection) :
    book.openByCollection.get? collection =
      if book.openOn collection = 0 then none else some (book.openOn collection) := by
  have hcount := h.counted collection
  have hpositive := h.positive collection
  rw [openCount, SortedMap.getD] at hcount
  cases hentry : book.openByCollection.get? collection with
  | none =>
    rw [hentry, Option.getD_none] at hcount
    rw [← hcount, if_pos rfl]
  | some count =>
    rw [hentry, Option.getD_some] at hcount
    rw [hentry, hcount] at hpositive
    rw [if_neg fun hzero => hpositive (congrArg some hzero), hcount]

/-- An empty book is in step. -/
lemma empty : ({} : LoanBook).InStep where
  toConsistent := consistent_empty
  counted _ := rfl
  positive _ h := nomatch h
  bids _ _ h := nomatch h

/-- Rewriting one loan keeps a book in step when the counts follow. -/
lemma rewrite (h : book.InStep) {loan : Loan} (hbook : book'.Consistent)
    (hloans : book'.loans = book.loans.insert id loan)
    (hcounts : ∀ collection, book'.openCount collection +
        SortedMap.part (Loan.openOn collection) (book.loan? id) =
      book.openCount collection + loan.openOn collection)
    (hpositive : ∀ collection, book'.openByCollection.get? collection ≠ some 0)
    (hbid : loan.bid.isSome = true ↔ loan.status = .auction) : book'.InStep where
  toConsistent := hbook
  counted collection := by
    have htotal := SortedMap.total_insert (Loan.openOn collection) book.loans id loan
    have hcounts := hcounts collection
    rw [h.counted] at hcounts
    unfold openOn loan? at *
    rw [hloans]
    omega
  positive := hpositive
  bids other found hf := by
    rw [loan?_insert hloans] at hf
    split at hf
    · obtain rfl := Option.some.inj hf
      exact hbid
    · exact h.bids other found hf

/-- Opening a loan counts it. -/
lemma openNew (h : book.InStep) {debtor initiator : Account} {item wrapped : Item} {asset : Asset}
    {scaled : Nat}
    (ho : book.openNew debtor initiator item wrapped asset scaled now = .ok (id, book')) :
    book'.InStep := by
  have hbook := h.toConsistent.openNew ho
  obtain ⟨rfl, -, hbook'⟩ := openNew_eq_ok ho
  refine h.rewrite hbook (congrArg loans hbook') ?_ ?_ (by simp)
  · intro collection
    rw [h.next_free, SortedMap.part_none, Nat.add_zero, hbook']
    simp only [openCount, SortedMap.getD, SortedMap.get?_insert, Loan.openOn, LoanStatus.isOpen,
      true_and]
    by_cases heq : collection = item.collection
    · simp [heq]
    · simp [heq, Ne.symm heq]
  · intro collection
    rw [hbook', SortedMap.get?_insert]
    split
    · simp
    · exact h.positive collection

/-- Rewriting a loan that stays open on its token keeps the counts. -/
lemma setLoan (h : book.InStep) {old loan : Loan} (hold : book.loan? loan.id = some old)
    (hopen : old.status.isOpen = true) (hopen' : loan.status.isOpen = true)
    (hitem : loan.item = old.item) (hbid : loan.bid.isSome = true ↔ loan.status = .auction) :
    (book.setLoan loan).InStep := by
  refine h.rewrite (h.toConsistent.setLoan hold (hopen'.trans hopen.symm) hitem) rfl ?_ h.positive
    hbid
  intro collection
  rw [hold, SortedMap.part_some, Loan.openOn, Loan.openOn, hopen, hopen', hitem]
  rfl

/-- Closing a loan counts it off. -/
lemma close (h : book.InStep) {status : LoanStatus} (hc : book.close id status now = .ok book') :
    book'.InStep := by
  have hbook := h.toConsistent.close hc
  obtain ⟨loan, hloan, hopen, hfinal, hbook'⟩ := close_eq_ok hc
  refine h.rewrite hbook (congrArg loans hbook') ?_ ?_ ?_
  · intro collection
    have hcount : book'.openCount collection =
        if collection = loan.item.collection then book.openCount collection - 1
        else book.openCount collection := by
      rw [hbook']
      exact getD_countDown book.openByCollection loan.item.collection collection
    have hgone : (loan.closed status now).openOn collection = 0 := by
      simp [Loan.openOn, Loan.closed, hfinal]
    rw [hloan, SortedMap.part_some, hcount]
    show _ = book.openCount collection + (loan.closed status now).openOn collection
    rw [hgone]
    by_cases heq : collection = loan.item.collection
    · -- the loan that is closed is among those counted
      have hone : loan.openOn collection = 1 := by simp [Loan.openOn, hopen, heq]
      have hle : loan.openOn collection ≤ book.openOn collection := SortedMap.le_total _ hloan
      rw [if_pos heq, hone, h.counted]
      omega
    · simp [heq, Ne.symm heq, Loan.openOn]
  · intro collection
    rw [hbook']
    exact countDown_ne_zero loan.item.collection h.positive collection
  · show (none : Option Bid).isSome = true ↔ status = .auction
    cases status with
    | active | auction => cases hfinal
    | repaid | defaulted => simp

end InStep

end LoanBook

/-! ## Requests -/

variable {O : Type} [PriceSource O] {prices : O} {store : Store} {caller : Account} {now : Nat}
variable {action : UserAction} {transfers : List Transfer}

/-- A step of a loan sets a bid when it puts the loan under auction and clears it when it ends the
auction. -/
lemma Loan.Advances.bid_iff {loan loan' : Loan}
    (h : loan.Advances prices store caller now action transfers loan')
    (hbid : loan.bid.isSome = true ↔ loan.status = .auction) :
    loan'.bid.isSome = true ↔ loan'.status = .auction := by
  cases h with
  | auctioned | outbid => simp
  | paidDown | bought | claimed => exact hbid
  | repaid | redeemed | reclaimed => simp [closed]
  | liquidated _ _ _ _ _ final | sold _ _ _ _ final | soldOver _ _ _ _ _ final =>
    rcases final with rfl | rfl <;> simp [closed]

/-- Every user's action keeps the loan book in step. -/
lemma UserAction.Records.inStep {loans : LoanBook}
    (h : action.Records prices store caller now transfers loans) (hb : store.loans.InStep) :
    loans.InStep := by
  cases h with
  | kept mandates => exact ⟨⟨hb.key, hb.below, hb.indexed⟩, hb.counted, hb.positive, hb.bids⟩
  | opened opens => exact hb.openNew opens
  | advanced filed advances stays =>
    have hdeal := advances.sameDeal
    exact hb.setLoan (hdeal.id ▸ filed) advances.isOpen stays hdeal.item
      (advances.bid_iff (hb.bids _ _ filed))
  | closed _ _ closes => exact hb.close closes

namespace Store

/-- Every step keeps the loan book in step. -/
lemma Step.inStep {store' : Store} (hs : Step store store') (hb : store.loans.InStep) :
    store'.loans.InStep := by
  cases hs with
  | user hrun => exact ((UserAction.run_serves hrun).records hb.toConsistent).inStep hb
  | operator hrun =>
    obtain ⟨-, hloans, -⟩ := OperatorAction.run_eq_ok hrun
    rw [hloans]
    exact hb
  | accrual ha =>
    obtain ⟨_, _, -, rfl⟩ := Store.accrue_eq_ok ha
    exact hb

/-- The loan book of every reachable store is in step. -/
theorem Reachable.inStep (h : store.Reachable) : store.loans.InStep := by
  refine h.invariant ?_ fun _ _ _ hi hs => hs.inStep hi
  intro settings store hc
  obtain rfl := create_eq_ok hc
  exact .empty

end Store

/-- The loan book of every reachable pool: loans are filed under their numbers, which are below the
next one; the index by token leads exactly to the open loans, so that a token has at most one; the
index by collection holds exactly the numbers of open loans that are not zero; and a loan carries a
bid exactly while it is under auction. -/
theorem Pool.Reachable.loan_book_in_step {V N : Type} [Vault V] [Venue N]
    {rule : Pool O V N → Move O V N → Prop} {pool : Pool O V N} (h : pool.Reachable rule) :
    (∀ id loan, pool.state.store.loans.loan? id = some loan →
      loan.id = id ∧ id < pool.state.store.loans.nextId) ∧
    (∀ item id, pool.state.store.loans.openByItem.get? item = some id ↔
      ∃ loan, pool.state.store.loans.loan? id = some loan ∧ loan.status.isOpen = true ∧
        loan.item = item) ∧
    (∀ id id' loan loan', pool.state.store.loans.loan? id = some loan →
      pool.state.store.loans.loan? id' = some loan' → loan.status.isOpen = true →
      loan'.status.isOpen = true → loan.item = loan'.item → id = id') ∧
    (∀ collection, pool.state.store.loans.openByCollection.get? collection =
      if pool.state.store.loans.loans.total (Loan.openOn collection) = 0 then none
      else some (pool.state.store.loans.loans.total (Loan.openOn collection))) ∧
    ∀ id loan, pool.state.store.loans.loan? id = some loan →
      (loan.bid.isSome = true ↔ loan.status = .auction) := by
  have hb := h.store.inStep
  refine ⟨fun id loan hloan => ⟨hb.key id loan hloan, hb.below id loan hloan⟩, hb.indexed, ?_,
    hb.openByCollection_eq, hb.bids⟩
  intro id id' loan loan' hloan hloan' hopen hopen' hitem
  exact hb.unique hloan hopen hloan' hopen' hitem

/-- In the small market the count of the collection is the number of its only open loan. -/
theorem SmallMarket.lent_counted :
    lent.state.store.loans.openByCollection.get? art = some 1 ∧
      lent.state.store.loans.loans.total (Loan.openOn art) = 1 := by
  have hr := lent_reachable
  have hcount : lent.state.store.loans.openByCollection.get? art = some 1 := by decide +kernel
  have hentry := (Pool.Reachable.loan_book_in_step hr).2.2.2.1 art
  rw [hcount] at hentry
  split at hentry
  · cases hentry
  · exact ⟨hcount, (Option.some.inj hentry).symm⟩

end PooledCredit
