import PooledCredit.FixedPoint
import PooledCredit.Loan.Basic
import PooledCredit.SortedMap

/-!
# The loan book

The loan book keeps every loan that was ever opened, and knows which loan is open on a token and
how many are open on a collection. It also records who may borrow in whose name.
-/

namespace PooledCredit

/-- Leave given by one account to another to borrow in its name. -/
structure Mandate where
  delegator : Account
  delegatee : Account
deriving DecidableEq

namespace Mandate

instance : Ord Mandate := ⟨compareLex (compareOn Mandate.delegator) (compareOn Mandate.delegatee)⟩

instance : Std.TransOrd Mandate :=
  inferInstanceAs
    (Std.TransCmp (compareLex (compareOn Mandate.delegator) (compareOn Mandate.delegatee)))

instance : Std.LawfulEqOrd Mandate where
  compare_self := Std.ReflOrd.compare_self
  eq_of_compare {a b} h := by
    obtain ⟨hr, he⟩ := compareLex_eq_eq.mp h
    have hr : a.delegator = b.delegator := Std.LawfulEqOrd.eq_of_compare hr
    have he : a.delegatee = b.delegatee := Std.LawfulEqOrd.eq_of_compare he
    cases a
    cases b
    simp_all

end Mandate

/-- Every loan, the indexes of the open ones, and the mandates to borrow. -/
structure LoanBook where
  nextId : LoanId := 1
  loans : SortedMap LoanId Loan := ∅
  /-- The open loan on each token. -/
  openByItem : SortedMap Item LoanId := ∅
  /-- The number of open loans on each collection that has any. -/
  openByCollection : SortedMap Collection Nat := ∅
  mandates : SortedSet Mandate := ∅
deriving DecidableEq, Inhabited

namespace LoanBook

/-- A loan by its number. -/
def loan? (book : LoanBook) (id : LoanId) : Option Loan := book.loans.get? id

/-- The open loan on a token. -/
def openLoan? (book : LoanBook) (item : Item) : Option Loan :=
  (book.openByItem.get? item).bind book.loan?

/-- The open loan on a token, which must exist. -/
def openLoan (book : LoanBook) (item : Item) : Result Loan :=
  orRefuse (book.openLoan? item) (.loanUnknown item.collection item.token)

/-- The number of open loans on a collection. -/
def openCount (book : LoanBook) (collection : Collection) : Nat :=
  book.openByCollection.getD collection 0

/-- Stores a loan under its number. -/
def setLoan (book : LoanBook) (loan : Loan) : LoanBook :=
  { book with loans := book.loans.insert loan.id loan }

/-- Opens a loan on a token that backs none; returns its number. -/
def openNew (book : LoanBook) (debtor initiator : Account) (item wrapped : Item) (asset : Asset)
    (scaled now : Nat) : Result (LoanId × LoanBook) := do
  match book.openByItem.get? item with
  | some id => refuse (.loanExists id)
  | none =>
    let id := book.nextId
    let nextId ← fitClock (id + 1)
    let loan : Loan :=
      { id, debtor, initiator, item, wrapped, asset, scaled
        status := .active
        bid := none
        createdAt := now
        updatedAt := now }
    let count ← bareAdd clockBound (book.openCount item.collection) 1
    return (id,
      { book with
        nextId
        loans := book.loans.insert id loan
        openByItem := book.openByItem.insert item id
        openByCollection := book.openByCollection.insert item.collection count })

/-- Counts one open loan less on a collection; a collection without open loans is dropped. -/
def countDown (counts : SortedMap Collection Nat) (collection : Collection) :
    SortedMap Collection Nat :=
  match counts.get? collection with
  | none => counts
  | some count =>
    if count - 1 = 0 then counts.erase collection else counts.insert collection (count - 1)

/-- Closes an open loan with a final status and releases its token. -/
def close (book : LoanBook) (id : LoanId) (status : LoanStatus) (now : Nat) : Result LoanBook := do
  let loan ← orRefuse (book.loan? id) (.inputInvalid "loan_id" "unknown loan")
  require (loan.status.isOpen = true ∧ status.isOpen = false)
    (.loanStatus id .active loan.status)
  let closed := { loan with status, bid := none, scaled := 0, updatedAt := now }
  return { book with
    loans := book.loans.insert id closed
    openByItem := book.openByItem.erase loan.item
    openByCollection := countDown book.openByCollection loan.item.collection }

/-- Leaves the rest of a scaled debt on an open loan, or closes the loan as repaid when nothing is
left. -/
def payDown (book : LoanBook) (loan : Loan) (remaining now : Nat) : Result LoanBook :=
  if remaining = 0 then book.close loan.id .repaid now
  else .ok (book.setLoan { loan with scaled := remaining, updatedAt := now })

/-- Gives or takes back leave to borrow in the delegator's name. -/
def setMandate (book : LoanBook) (delegator delegatee : Account) (approved : Bool) : LoanBook :=
  let mandate : Mandate := ⟨delegator, delegatee⟩
  { book with
    mandates :=
      if approved then book.mandates.insert mandate () else book.mandates.erase mandate }

/-- Whether the delegatee may borrow in the delegator's name. -/
def isMandated (book : LoanBook) (delegator delegatee : Account) : Bool :=
  book.mandates.contains ⟨delegator, delegatee⟩

end LoanBook

end PooledCredit
