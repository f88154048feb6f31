import PooledCredit.Loan.Book
import PooledCredit.Proofs.Results
import PooledCredit.Proofs.Totals

/-!
# The loan book stays consistent

Each operation of the loan book rewrites the entry of one loan and adjusts the indexes.
`LoanBook.Consistent` says how the indexes relate to the loans; every operation keeps it.
-/

namespace PooledCredit

namespace LoanBook

/-- Loans are filed under their numbers, numbers are handed out in order, and the index by token
leads exactly to the open loans. -/
structure Consistent (book : LoanBook) : Prop where
  key : ∀ id loan, book.loan? id = some loan → loan.id = id
  below : ∀ id loan, book.loan? id = some loan → id < book.nextId
  indexed : ∀ item id, book.openByItem.get? item = some id ↔
    ∃ loan, book.loan? id = some loan ∧ loan.status.isOpen = true ∧ loan.item = item

namespace Consistent

variable {book : LoanBook}

/-- The open loan that is found on a token is filed, open and on that token. -/
lemma of_openLoan? (hb : book.Consistent) {item : Item} {loan : Loan}
    (h : book.openLoan? item = some loan) :
    book.loan? loan.id = some loan ∧ loan.status.isOpen = true ∧ loan.item = item := by
  obtain ⟨id, hid, hloan⟩ := Option.bind_eq_some_iff.mp h
  obtain ⟨loan', hloan', hopen, hitem⟩ := (hb.indexed item id).mp hid
  rw [hloan] at hloan'
  obtain rfl := Option.some.inj hloan'
  rw [hb.key id loan hloan]
  exact ⟨hloan, hopen, hitem⟩

/-- An open loan is found on its token. -/
lemma openLoan?_of_isOpen (hb : book.Consistent) {id : LoanId} {loan : Loan}
    (h : book.loan? id = some loan) (hopen : loan.status.isOpen = true) :
    book.openLoan? loan.item = some loan := by
  have hindexed := (hb.indexed loan.item id).mpr ⟨loan, h, hopen, rfl⟩
  exact Option.bind_eq_some_iff.mpr ⟨id, hindexed, h⟩

/-- A token backs at most one open loan. -/
lemma unique (hb : book.Consistent) {id id' : LoanId} {loan loan' : Loan}
    (h : book.loan? id = some loan) (hopen : loan.status.isOpen = true)
    (h' : book.loan? id' = some loan') (hopen' : loan'.status.isOpen = true)
    (hitem : loan.item = loan'.item) : id = id' := by
  have hid := (hb.indexed loan.item id).mpr ⟨loan, h, hopen, rfl⟩
  have hid' := (hb.indexed loan.item id').mpr ⟨loan', h', hopen', hitem.symm⟩
  rw [hid] at hid'
  exact Option.some.inj hid'

/-- No loan is filed under the next number. -/
lemma next_free (hb : book.Consistent) : book.loan? book.nextId = none := by
  cases h : book.loan? book.nextId with
  | none => rfl
  | some loan => exact absurd (hb.below _ loan h) (Nat.lt_irrefl _)

end Consistent

/-! ### Storing a loan -/

/-- After one entry is rewritten, that entry is found and the other loans stay. -/
lemma loan?_insert {book book' : LoanBook} {id : LoanId} {loan : Loan}
    (h : book'.loans = book.loans.insert id loan) (other : LoanId) :
    book'.loan? other = if other = id then some loan else book.loan? other := by
  unfold loan?
  rw [h, SortedMap.get?_insert]

/-- A stored loan is found under its number, and the other loans stay. -/
lemma loan?_setLoan (book : LoanBook) (loan : Loan) (id : LoanId) :
    (book.setLoan loan).loan? id = if id = loan.id then some loan else book.loan? id :=
  loan?_insert rfl id

/-- Rewriting a loan without opening, closing or moving it keeps the book consistent. -/
lemma Consistent.setLoan {book : LoanBook} (hb : book.Consistent) {old loan : Loan}
    (hold : book.loan? loan.id = some old) (hstatus : loan.status.isOpen = old.status.isOpen)
    (hitem : loan.item = old.item) : (book.setLoan loan).Consistent where
  key id found h := by
    rw [loan?_setLoan] at h
    split at h
    · next hid => rw [hid, Option.some.inj h]
    · exact hb.key id found h
  below id found h := by
    rw [loan?_setLoan] at h
    split at h
    · next hid => exact hid ▸ hb.below loan.id old hold
    · exact hb.below id found h
  indexed item id := by
    refine (hb.indexed item id).trans ?_
    rw [loan?_setLoan]
    by_cases hid : id = loan.id
    · subst hid
      simp [hold, hstatus, hitem]
    · simp [hid]

/-! ### Opening a loan -/

/-- Opening files an active loan under the next number. -/
lemma openNew_eq_ok {book book' : LoanBook} {debtor initiator : Account} {item wrapped : Item}
    {asset : Asset} {scaled now : Nat} {id : LoanId}
    (h : book.openNew debtor initiator item wrapped asset scaled now = .ok (id, book')) :
    id = book.nextId ∧ book.openByItem.get? item = none ∧
      book' = { book with
        nextId := book.nextId + 1
        loans := book.loans.insert id
          { id, debtor, initiator, item, wrapped, asset, scaled, status := .active, bid := none,
            createdAt := now, updatedAt := now }
        openByItem := book.openByItem.insert item id
        openByCollection :=
          book.openByCollection.insert item.collection (book.openCount item.collection + 1) } := by
  unfold openNew at h
  split at h
  · exact (refuse_eq_ok.mp h).elim
  · next hnone =>
    simp only [bind_eq_ok, fitClock_eq_ok, bareAdd_eq_ok, pure_eq_ok, Prod.mk.injEq] at h
    obtain ⟨_, ⟨-, rfl⟩, _, ⟨-, rfl⟩, rfl, rfl⟩ := h
    exact ⟨rfl, hnone, rfl⟩

/-- Opening a loan keeps the book consistent. -/
lemma Consistent.openNew {book book' : LoanBook} (hb : book.Consistent)
    {debtor initiator : Account} {item wrapped : Item} {asset : Asset} {scaled now : Nat}
    {id : LoanId}
    (h : book.openNew debtor initiator item wrapped asset scaled now = .ok (id, book')) :
    book'.Consistent := by
  obtain ⟨rfl, hnone, rfl⟩ := openNew_eq_ok h
  have hfree := hb.next_free
  constructor
  · intro id found hf
    rw [loan?_insert rfl] at hf
    split at hf
    · next hid => rw [hid, ← Option.some.inj hf]
    · exact hb.key id found hf
  · intro id found hf
    rw [loan?_insert rfl] at hf
    split at hf
    · next hid => exact hid ▸ Nat.lt_succ_self _
    · exact Nat.lt_succ_of_lt (hb.below id found hf)
  · intro other id
    rw [loan?_insert rfl, SortedMap.get?_insert]
    by_cases hother : other = item
    · subst hother
      by_cases hid : id = book.nextId
      · subst hid
        simp [LoanStatus.isOpen]
      · -- no other loan was open on the token
        have hno := hb.indexed other id
        rw [hnone] at hno
        simpa [hid, Ne.symm hid] using hno
    · by_cases hid : id = book.nextId
      · subst hid
        have hno := hb.indexed other book.nextId
        rw [hfree] at hno
        simpa [hother, Ne.symm hother] using hno
      · simpa [hother, hid] using hb.indexed other id

/-! ### Closing and paying down -/

/-- Closing takes an open loan, clears its debt and its bid, and gives it a final status. -/
lemma close_eq_ok {book book' : LoanBook} {id : LoanId} {status : LoanStatus} {now : Nat}
    (h : book.close id status now = .ok book') :
    ∃ loan, book.loan? id = some loan ∧ loan.status.isOpen = true ∧ status.isOpen = false ∧
      book' = { book with
        loans := book.loans.insert id
          { loan with status, bid := none, scaled := 0, updatedAt := now }
        openByItem := book.openByItem.erase loan.item
        openByCollection := countDown book.openByCollection loan.item.collection } := by
  simp only [close, bind_eq_ok, orRefuse_eq_ok, require_eq_ok, exists_const, pure_eq_ok] at h
  obtain ⟨loan, hloan, ⟨hopen, hfinal⟩, rfl⟩ := h
  exact ⟨loan, hloan, hopen, hfinal, rfl⟩

/-- No loan is open any more on the token of a loan that is closed. -/
lemma openLoan?_close {book book' : LoanBook} {id : LoanId} {loan : Loan} {status : LoanStatus}
    {now : Nat} (hloan : book.loan? id = some loan) (h : book.close id status now = .ok book') :
    book'.openLoan? loan.item = none := by
  obtain ⟨found, hfound, -, -, rfl⟩ := close_eq_ok h
  obtain rfl := Option.some.inj (hfound.symm.trans hloan)
  simp only [openLoan?, SortedMap.get?_erase_self, Option.bind_none]

/-- Closing a loan keeps the book consistent. -/
lemma Consistent.close {book book' : LoanBook} (hb : book.Consistent) {id : LoanId}
    {status : LoanStatus} {now : Nat} (h : book.close id status now = .ok book') :
    book'.Consistent := by
  obtain ⟨loan, hloan, hopen, hfinal, rfl⟩ := close_eq_ok h
  have hid := hb.key id loan hloan
  constructor
  · intro other found hf
    rw [loan?_insert rfl] at hf
    split at hf
    · next heq => rw [heq, ← Option.some.inj hf, hid]
    · exact hb.key other found hf
  · intro other found hf
    rw [loan?_insert rfl] at hf
    split at hf
    · next heq => exact heq ▸ hb.below id loan hloan
    · exact hb.below other found hf
  · intro item other
    rw [loan?_insert rfl]
    by_cases hitem : item = loan.item
    · subst hitem
      rw [SortedMap.get?_erase_self]
      by_cases heq : other = id
      · simp [heq, hfinal]
      · -- the closed loan was the only one open on its token
        simp only [heq, if_false, reduceCtorEq, false_iff, not_exists]
        rintro found ⟨hf, hfopen, hfitem⟩
        exact heq (hb.unique hf hfopen hloan hopen hfitem)
    · rw [SortedMap.get?_erase_of_ne _ hitem]
      by_cases heq : other = id
      · subst heq
        have hno := hb.indexed item other
        rw [hloan] at hno
        simpa [hfinal, Ne.symm hitem] using hno
      · simpa [heq] using hb.indexed item other

/-- Paying down closes a loan of which nothing is left, and else leaves it with the rest. -/
lemma payDown_eq_ok {book book' : LoanBook} {loan : Loan} {remaining now : Nat}
    (h : book.payDown loan remaining now = .ok book') :
    (remaining = 0 ∧ book.close loan.id .repaid now = .ok book') ∨
      (remaining ≠ 0 ∧
        book' = book.setLoan { loan with scaled := remaining, updatedAt := now }) := by
  unfold payDown at h
  split at h
  · next hz => exact .inl ⟨hz, h⟩
  · next hz =>
    cases h
    exact .inr ⟨hz, rfl⟩

/-- Paying down an open loan keeps the book consistent. -/
lemma Consistent.payDown {book book' : LoanBook} (hb : book.Consistent) {old loan : Loan}
    {remaining now : Nat} (hold : book.loan? loan.id = some old)
    (hstatus : loan.status.isOpen = old.status.isOpen) (hitem : loan.item = old.item)
    (h : book.payDown loan remaining now = .ok book') : book'.Consistent := by
  rcases payDown_eq_ok h with ⟨-, hclose⟩ | ⟨-, rfl⟩
  · exact hb.close hclose
  · exact hb.setLoan hold hstatus hitem

/-! ### Empty books and mandates -/

/-- An empty book is consistent. -/
lemma consistent_empty : ({} : LoanBook).Consistent where
  key _ _ h := nomatch h
  below _ _ h := nomatch h
  indexed item id := by
    constructor
    · intro h
      nomatch h
    · rintro ⟨_, h, -⟩
      nomatch h

/-- Mandates do not concern the loans. -/
lemma Consistent.setMandate {book : LoanBook} (hb : book.Consistent)
    (delegator delegatee : Account) (approved : Bool) :
    (book.setMandate delegator delegatee approved).Consistent :=
  ⟨hb.key, hb.below, hb.indexed⟩

end LoanBook

end PooledCredit
