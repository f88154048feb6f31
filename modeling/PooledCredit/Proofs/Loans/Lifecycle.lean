import PooledCredit.Proofs.Loans.Advances
import PooledCredit.Proofs.Loans.Debts

/-!
# The life of a loan

Seen from one loan, a user's action that succeeds opens it, takes it one step of `Loan.Advances`
further, or leaves it alone; every other move leaves all loans alone. Along a run a loan keeps its
deal, a closed loan stays exactly as it is, and new loans get greater numbers. An active loan that
is not below health one leaves that state only by being paid in full.
-/

namespace PooledCredit

/-- What two states of a loan have in common for good. -/
structure Loan.SameDeal (loan loan' : Loan) : Prop where
  id : loan'.id = loan.id
  initiator : loan'.initiator = loan.initiator
  item : loan'.item = loan.item
  wrapped : loan'.wrapped = loan.wrapped
  asset : loan'.asset = loan.asset
  createdAt : loan'.createdAt = loan.createdAt

namespace Loan

/-- A loan has its own deal. -/
lemma SameDeal.refl (loan : Loan) : loan.SameDeal loan := ⟨rfl, rfl, rfl, rfl, rfl, rfl⟩

/-- A deal that is kept twice is kept. -/
lemma SameDeal.trans {loan loan' loan'' : Loan} (h : loan.SameDeal loan')
    (h' : loan'.SameDeal loan'') : loan.SameDeal loan'' where
  id := h'.id.trans h.id
  initiator := h'.initiator.trans h.initiator
  item := h'.item.trans h.item
  wrapped := h'.wrapped.trans h.wrapped
  asset := h'.asset.trans h.asset
  createdAt := h'.createdAt.trans h.createdAt

variable {O : Type} [PriceSource O] {prices : O} {store : Store} {caller : Account} {now : Nat}
variable {action : UserAction} {transfers : List Transfer} {loan loan' : Loan}

/-- A step keeps the deal. -/
lemma Advances.sameDeal (h : loan.Advances prices store caller now action transfers loan') :
    loan.SameDeal loan' := by
  cases h <;> exact ⟨rfl, rfl, rfl, rfl, rfl, rfl⟩

/-- Only an open loan takes a step. -/
lemma Advances.isOpen (h : loan.Advances prices store caller now action transfers loan') :
    loan.status.isOpen = true := by
  cases h with
  | auctioned active | paidDown active | repaid active | sold active | bought active
    | claimed active =>
    rw [active]
    rfl
  | outbid auction | redeemed auction | reclaimed auction | liquidated auction
    | soldOver auction =>
    rw [auction]
    rfl

/-- A step out of the active state of a loan that is not below health one pays its whole debt and
gives the tokens back to the debtor. -/
lemma Advances.of_healthy (h : loan.Advances prices store caller now action transfers loan')
    (hactive : loan.status = .active)
    (hhealthy : ∀ health, store.health prices loan.item now = .ok health → wad ≤ health)
    (hleft : loan'.status ≠ .active) :
    ∃ amount debt, action = .repay loan.item amount ∧ store.owedAt loan now = .ok debt ∧
      loan'.status = .repaid ∧
      transfers = Transfer.payment loan.asset caller store.poolAccount debt ++
        (Transfer.handover loan.item store.poolAccount loan.debtor ++ [.burn loan.wrapped]) := by
  have hnot {P : Prop} (auction : loan.status = .auction) : P := by
    rw [hactive] at auction
    cases auction
  cases h with
  | repaid active owes => exact ⟨_, _, rfl, owes, rfl, rfl⟩
  | auctioned active healthy unhealthy | sold active healthy unhealthy =>
    exact absurd unhealthy (Nat.not_lt.mpr (hhealthy _ healthy))
  | paidDown active | bought active | claimed active => exact absurd active hleft
  | outbid auction | redeemed auction | reclaimed auction | liquidated auction
    | soldOver auction => exact hnot auction

end Loan

/-- What a user's action of a caller at a moment does to the loan under a number, before and after
which there may be none: it leaves it alone, opens it under the next number, or takes it a step
further. -/
inductive UserAction.Alters {O : Type} [PriceSource O] (prices : O) (store : Store)
    (caller : Account) (now : Nat) (id : LoanId) :
    UserAction → List Transfer → Option Loan → Option Loan → Prop where
  | kept {action : UserAction} {transfers : List Transfer} (loan : Option Loan) :
      Alters prices store caller now id action transfers loan loan
  | opened {asset : Asset} {amount referral scaled : Nat} {item wrapped : Item} {debtor : Account}
      {transfers : List Transfer} (next : id = store.loans.nextId) :
      Alters prices store caller now id (.borrow asset amount item debtor referral) transfers none
        (some { id, debtor, initiator := caller, item, wrapped, asset, scaled, status := .active,
                bid := none, createdAt := now, updatedAt := now })
  | advanced {action : UserAction} {transfers : List Transfer} {loan loan' : Loan}
      (advances : loan.Advances prices store caller now action transfers loan') :
      Alters prices store caller now id action transfers (some loan) (some loan')

namespace UserAction

variable {O : Type} [PriceSource O] {prices : O} {store : Store} {caller : Account} {now : Nat}
variable {action : UserAction} {transfers : List Transfer} {loans : LoanBook}

/-- What an action records in the book is what it does to each loan. -/
lemma Records.alters (hb : store.loans.Consistent)
    (h : action.Records prices store caller now transfers loans) (id : LoanId) :
    action.Alters prices store caller now id transfers (store.loans.loan? id)
      (loans.loan? id) := by
  cases h with
  | kept mandates => exact .kept _
  | opened opens =>
    obtain ⟨rfl, -, hloans⟩ := LoanBook.openNew_eq_ok opens
    rw [LoanBook.loan?_insert (congrArg LoanBook.loans hloans)]
    split
    · next hid =>
      rw [hid, hb.next_free]
      exact .opened rfl
    · exact .kept _
  | advanced filed advances =>
    rw [LoanBook.loan?_setLoan, advances.sameDeal.id]
    split
    · next hid =>
      rw [hid, filed]
      exact .advanced advances
    · exact .kept _
  | closed filed advances closes =>
    obtain ⟨found, hfound, -, -, hloans⟩ := LoanBook.close_eq_ok closes
    obtain rfl := Option.some.inj (hfound.symm.trans filed)
    rw [LoanBook.loan?_insert (congrArg LoanBook.loans hloans)]
    split
    · next hid =>
      rw [hid, filed]
      exact .advanced advances
    · exact .kept _

/-- Numbers are handed out in ascending order. -/
lemma Records.nextId_le (h : action.Records prices store caller now transfers loans) :
    store.loans.nextId ≤ loans.nextId := by
  cases h with
  | kept | advanced => exact Nat.le_refl _
  | opened opens =>
    obtain ⟨-, -, rfl⟩ := LoanBook.openNew_eq_ok opens
    exact Nat.le_succ _
  | closed _ _ closes =>
    obtain ⟨_, -, -, -, rfl⟩ := LoanBook.close_eq_ok closes
    exact Nat.le_refl _

end UserAction

/-! ## Pools -/

namespace Pool

variable {O V N : Type} [PriceSource O] [Vault V] [Venue N] {pool : Pool O V N}

/-- A move leaves the loan book alone, or it commits a user's action that is recorded there. -/
lemma loans_after (hb : pool.state.store.loans.Consistent) (move : Move O V N) :
    (pool.after move).state.store.loans = pool.state.store.loans ∨
      ∃ call action commit, move = .call call ∧ call.action = .user action ∧
        pool.attempt call = .ok commit ∧
        action.Records pool.prices pool.state.store call.caller call.now commit.effects.transfers
          (pool.after move).state.store.loans := by
  rcases pool.move_cases move with
    ⟨call, action, commit, facility, hmove, haction, hcommit, hrun, hstate, hstore⟩ | ⟨-, hloans, -⟩
  · right
    refine ⟨call, action, commit, hmove, haction, hcommit, ?_⟩
    rw [hstate, hstore]
    exact (UserAction.run_serves hrun).records hb
  · exact .inl hloans

/-- A move leaves the loan under a number alone, or it commits a user's action that alters it. -/
lemma loan_after (hb : pool.state.store.loans.Consistent) (move : Move O V N) (id : LoanId) :
    (pool.after move).state.store.loans.loan? id = pool.state.store.loans.loan? id ∨
      ∃ call action commit, move = .call call ∧ call.action = .user action ∧
        pool.attempt call = .ok commit ∧
        action.Alters pool.prices pool.state.store call.caller call.now id
          commit.effects.transfers (pool.state.store.loans.loan? id)
          ((pool.after move).state.store.loans.loan? id) := by
  rcases pool.loans_after hb move with hloans | ⟨call, action, commit, hmove, haction, hc, h⟩
  · rw [hloans]
    exact .inl rfl
  · exact .inr ⟨call, action, commit, hmove, haction, hc, h.alters hb id⟩

/-- After a move a loan is still there with its deal, and if it was closed it is unchanged. -/
lemma loan_kept (hb : pool.state.store.loans.Consistent) (move : Move O V N) {id : LoanId}
    {loan : Loan} (hloan : pool.state.store.loans.loan? id = some loan) :
    ∃ loan', (pool.after move).state.store.loans.loan? id = some loan' ∧ loan.SameDeal loan' ∧
      (loan.status.isOpen = false → loan' = loan) := by
  rcases pool.loan_after hb move id with hsame | ⟨_, _, _, -, -, -, halters⟩
  · exact ⟨loan, hsame.trans hloan, .refl loan, fun _ => rfl⟩
  · rw [hloan] at halters
    generalize (pool.after move).state.store.loans.loan? id = after at halters ⊢
    cases halters with
    | kept => exact ⟨loan, rfl, .refl loan, fun _ => rfl⟩
    | advanced advances =>
      refine ⟨_, rfl, advances.sameDeal, fun hclosed => ?_⟩
      rw [advances.isOpen] at hclosed
      cases hclosed

/-- Along a run a loan stays on record with its deal, and a closed one stays unchanged. -/
theorem loan_kept_along (h : pool.state.store.Reachable) (moves : List (Move O V N)) {id : LoanId}
    {loan : Loan} (hloan : pool.state.store.loans.loan? id = some loan) :
    ∃ loan', (pool.follow moves).state.store.loans.loan? id = some loan' ∧ loan.SameDeal loan' ∧
      (loan.status.isOpen = false → loan' = loan) := by
  induction moves generalizing pool loan with
  | nil => exact ⟨loan, hloan, .refl loan, fun _ => rfl⟩
  | cons move moves ih =>
    obtain ⟨middle, hmiddle, hdeal, hsame⟩ := pool.loan_kept h.debtsAddUp.book move hloan
    obtain ⟨last, hlast, hdeal', hsame'⟩ := ih (pool.reachable_after h move) hmiddle
    refine ⟨last, hlast, hdeal.trans hdeal', fun hclosed => ?_⟩
    obtain rfl := hsame hclosed
    exact hsame' hclosed

/-- A loan that is opened along a run has at least the number that was next at its start. -/
theorem nextId_le_along (h : pool.state.store.Reachable) (moves : List (Move O V N)) {id : LoanId}
    {loan : Loan} (hnone : pool.state.store.loans.loan? id = none)
    (hloan : (pool.follow moves).state.store.loans.loan? id = some loan) :
    pool.state.store.loans.nextId ≤ id := by
  induction moves generalizing pool with
  | nil =>
    rw [show (pool.follow []) = pool from rfl, hnone] at hloan
    cases hloan
  | cons move moves ih =>
    have hb := h.debtsAddUp.book
    have hle : pool.state.store.loans.nextId ≤ (pool.after move).state.store.loans.nextId := by
      rcases pool.loans_after hb move with hloans | ⟨_, _, _, -, -, -, hrecords⟩
      · exact (congrArg LoanBook.nextId hloans).ge
      · exact hrecords.nextId_le
    cases hafter : (pool.after move).state.store.loans.loan? id with
    | none => exact hle.trans (ih (pool.reachable_after h move) hafter hloan)
    | some opened =>
      rcases pool.loan_after hb move id with hsame | ⟨_, _, _, -, -, -, halters⟩
      · rw [hafter, hnone] at hsame
        cases hsame
      · rw [hafter, hnone] at halters
        cases halters with
        | opened next => exact next.ge

variable {rule : Pool O V N → Move O V N → Prop}

/-- The life of the loans in every reachable pool. A move leaves a loan alone or commits a user's
action that opens it under the next number or takes it one step of `Loan.Advances` further. Along
every run from there a loan keeps its number, initiator, tokens, asset and time of opening, a closed
loan stays exactly as it is, and a loan opened later has a greater number than every loan that is
there. And a committed call after which an active loan that is not below health one is no longer
active repaid its whole debt, and its transfers give the token back to the debtor. -/
theorem Reachable.loans_follow_lifecycle (h : pool.Reachable rule) :
    (∀ move id,
      (pool.after move).state.store.loans.loan? id = pool.state.store.loans.loan? id ∨
      ∃ call action commit, move = .call call ∧ call.action = .user action ∧
        pool.attempt call = .ok commit ∧
        action.Alters pool.prices pool.state.store call.caller call.now id
          commit.effects.transfers (pool.state.store.loans.loan? id)
          ((pool.after move).state.store.loans.loan? id)) ∧
    (∀ moves id loan, pool.state.store.loans.loan? id = some loan →
      ∃ loan', (pool.follow moves).state.store.loans.loan? id = some loan' ∧
        loan.SameDeal loan' ∧ (loan.status.isOpen = false → loan' = loan)) ∧
    (∀ moves id loan, pool.state.store.loans.loan? id = none →
      (pool.follow moves).state.store.loans.loan? id = some loan →
      ∀ earlier old, pool.state.store.loans.loan? earlier = some old → earlier < id) ∧
    ∀ call commit id loan loan', pool.attempt call = .ok commit →
      pool.state.store.loans.loan? id = some loan → loan.status = .active →
      (∀ health, pool.state.store.health pool.prices loan.item call.now = .ok health →
        wad ≤ health) →
      commit.state.store.loans.loan? id = some loan' → loan'.status ≠ .active →
      ∃ amount debt, call.action = .user (.repay loan.item amount) ∧
        pool.state.store.owedAt loan call.now = .ok debt ∧ loan'.status = .repaid ∧
        commit.effects.transfers =
          Transfer.payment loan.asset call.caller pool.state.store.poolAccount debt ++
            (Transfer.handover loan.item pool.state.store.poolAccount loan.debtor ++
              [.burn loan.wrapped]) := by
  have hb := h.store.debtsAddUp.book
  refine ⟨fun move id => pool.loan_after hb move id,
    fun moves id loan hloan => pool.loan_kept_along h.store moves hloan, ?_, ?_⟩
  · intro moves id loan hnone hloan earlier old hold
    exact (hb.below earlier old hold).trans_le (pool.nextId_le_along h.store moves hnone hloan)
  · intro call commit id loan loan' hcommit hloan hactive hhealthy hloan' hleft
    cases haction : call.action with
    | operator action =>
      obtain ⟨hrun, -, -⟩ := attempt_operator haction hcommit
      obtain ⟨-, hloans, -⟩ := OperatorAction.run_eq_ok hrun
      rw [hloans, hloan] at hloan'
      obtain rfl := Option.some.inj hloan'
      exact absurd hactive hleft
    | user action =>
      obtain ⟨facility, custody, hrun, -, hstate, -, -⟩ := attempt_user haction hcommit
      have halters := ((UserAction.run_serves hrun).records hb).alters hb id
      rw [hstate] at hloan'
      rw [hloan, show facility.store.loans.loan? id = some loan' from hloan'] at halters
      cases halters with
      | kept => exact absurd hactive hleft
      | advanced advances =>
        obtain ⟨amount, debt, rfl, howed, hrepaid, htransfers⟩ :=
          advances.of_healthy hactive hhealthy hleft
        exact ⟨amount, debt, rfl, howed, hrepaid, htransfers⟩

end Pool

namespace SmallMarket

/-- The borrower pays the whole debt. -/
def repaying : List (Move PriceFeeds NoVault FlatVenue) :=
  [.call ⟨borrower, 0, .user (.repay ⟨art, 1⟩ 300)⟩]

/-- Once it is repaid, the loan of the small market stays as it is whatever happens. -/
theorem repaid_for_good :
    ((lent.follow repaying).state.store.loans.loan? 1).map Loan.status = some .repaid ∧
      ∀ moves, ((lent.follow repaying).follow moves).state.store.loans.loan? 1 =
        (lent.follow repaying).state.store.loans.loan? 1 := by
  have hr := lent_follow_reachable repaying
  have hrepaid : ((lent.follow repaying).state.store.loans.loan? 1).map Loan.status =
      some .repaid := by
    decide +kernel
  refine ⟨hrepaid, fun moves => ?_⟩
  obtain ⟨loan, hloan, hstatus⟩ := Option.map_eq_some_iff.mp hrepaid
  obtain ⟨loan', hloan', -, hsame⟩ :=
    (Pool.Reachable.loans_follow_lifecycle hr).2.1 moves 1 loan hloan
  rw [hloan', hloan, hsame (by rw [hstatus]; rfl)]

end SmallMarket

end PooledCredit
