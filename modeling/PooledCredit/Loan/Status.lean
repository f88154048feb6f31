/-!
# Loan status

A loan is open while it is active or under auction, and closed once it is repaid or defaulted.
-/

namespace PooledCredit

/-- Where a loan stands in its life. -/
inductive LoanStatus where
  /-- Debt is outstanding and the collateral is in custody. -/
  | active
  /-- A bid on the collateral is locked. -/
  | auction
  /-- The debt was covered in full and the collateral released. -/
  | repaid
  /-- The loan was settled and part of the debt written off. -/
  | defaulted
deriving DecidableEq, Repr, Inhabited

namespace LoanStatus

/-- Whether the loan still holds its collateral. -/
def isOpen : LoanStatus → Bool
  | active | auction => true
  | repaid | defaulted => false

/-- The name of the status in messages. -/
def name : LoanStatus → String
  | active => "Active"
  | auction => "Auction"
  | repaid => "Repaid"
  | defaulted => "Defaulted"

end LoanStatus

end PooledCredit
