import PooledCredit.Refusal

/-!
# Loans

A loan binds one collateral token to a scaled debt in one reserve. Its *debtor* is the owner of
the debt: the account that gets the collateral back on repayment and any surplus of a sale.
-/

namespace PooledCredit

/-- A bid that is locked on the collateral of a loan. -/
structure Bid where
  /-- The account that would receive the collateral. -/
  bidder : Account
  /-- The account whose funds are locked and to which they would be refunded. -/
  payer : Account
  price : Nat
  /-- The debt at the time of the bid. -/
  debt : Nat
  /-- The fine that the bidder gets when the debtor redeems. -/
  fine : Nat
  /-- The time of the first bid, from which both windows are counted. -/
  startedAt : Nat
deriving DecidableEq

/-- A loan against one token. -/
structure Loan where
  id : LoanId
  /-- The owner of the debt. -/
  debtor : Account
  /-- The account that opened the loan and received the funds. -/
  initiator : Account
  item : Item
  /-- The wrapped token that stands for the collateral. -/
  wrapped : Item
  asset : Asset
  scaled : Nat
  status : LoanStatus
  bid : Option Bid
  createdAt : Nat
  updatedAt : Nat
deriving DecidableEq

namespace Loan

/-- Goes on only if a loan has the given status. -/
def requireStatus (loan : Loan) (expected : LoanStatus) : Result Unit :=
  require (loan.status = expected) (.loanStatus loan.id expected loan.status)

/-- The bid on a loan; a loan without one is not under auction. -/
def requireBid (loan : Loan) : Result Bid :=
  orRefuse loan.bid (.loanStatus loan.id .auction loan.status)

end Loan

end PooledCredit
