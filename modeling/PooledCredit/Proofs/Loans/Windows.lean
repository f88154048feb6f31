import PooledCredit.Proofs.Collateral.Terms
import PooledCredit.Proofs.Loans.Losses
import PooledCredit.Proofs.Loans.Underflow
import PooledCredit.Proofs.Pool.Atomicity

/-!
# Windows that have closed

The first bid on a loan opens two windows: the debtor's side can redeem in the one and others can
bid more in the other, and when the bid window has closed the loan can be liquidated. A bid only
keeps the moment of the first bid. How long a window stays open is read from the terms in force
whenever it is asked for, and terms may be changed in favour of open loans at any time. So a closed
window stays closed as long as it is not made longer, and only that long: a longer window reopens.
-/

namespace PooledCredit

/-- The windows of an auction. -/
inductive Window where
  /-- While it is open, the loan can be redeemed. -/
  | redeem
  /-- While it is open, others can bid more. -/
  | bid
deriving DecidableEq

/-- How long a window stays open after the first bid. -/
def CollateralTerms.lengthOf (terms : CollateralTerms) : Window → Nat
  | .redeem => terms.redeemWindow
  | .bid => terms.bidWindow

/-- The token that an action on an auction is for, and the window that the action must keep to. -/
def UserAction.within : UserAction → Option (Item × Window)
  | redeem item .. => some (item, .redeem)
  | bid item .. => some (item, .bid)
  | _ => none

/-- On valid terms no window stays open longer than the bid window. -/
lemma CollateralTerms.lengthOf_le {terms : CollateralTerms} (h : terms.validate = .ok ())
    (window : Window) : terms.lengthOf window ≤ terms.bidWindow := by
  obtain ⟨-, -, -, -, -, -, -, hle⟩ := validate_eq_ok.mp h
  cases window with
  | redeem => exact hle
  | bid => exact Nat.le_refl _

/-! ## Requests that come too late -/

/-- A window of the auction on a token has closed at a moment. -/
def Store.Closed (store : Store) (item : Item) (window : Window) (now : Nat) : Prop :=
  ∃ loan bid config, store.loans.openLoan? item = some loan ∧ loan.status = .auction ∧
    loan.bid = some bid ∧ store.collateral.config loan.item = .ok config ∧
    bid.startedAt + config.terms.lengthOf window < now

/-- What a failure for a closed window tells of the store; other failures tell nothing. -/
def Failure.Tells (store : Store) (item : Item) (window : Window) (now : Nat) : Failure → Prop
  | .refused (.windowClosed ..) => store.Closed item window now
  | _ => True

/-- A plain failure tells nothing of windows. -/
lemma Failure.tells_of_isPlain (store : Store) (item : Item) (window : Window) (now : Nat)
    (e : Failure) (h : e.isPlain = true) : e.Tells store item window now := by
  unfold Tells
  split
  · cases h
  · trivial

section Requests

variable {O V N : Type} [PriceSource O] [Vault V] [Venue N]
variable {store : Store} {prices : O} {caller : Account} {item : Item} {now : Nat}

/-- A bid fails plainly, or because the bid window of the auction has closed. -/
lemma Store.plain_bid {p : Failure → Prop} (hp : ∀ e : Failure, e.isPlain = true → p e)
    (hclosed : ∀ loan bid config deadline, store.loans.openLoan? item = some loan →
      loan.status = .auction → loan.bid = some bid →
      store.collateral.config loan.item = .ok config →
      bid.deadline config.terms.bidWindow = .ok deadline → deadline < now →
      p (.refused (.windowClosed "auction" deadline now)))
    (prices : O) (caller : Account) (price : Nat) (bidder : Account) :
    FailsOnly p (store.bid prices caller item price bidder now) := by
  refine FailsOnly.bind (failsOnly_require fun _ => hp _ rfl) fun _ _ => ?_
  refine FailsOnly.bind (failsOnly_orRefuse fun _ => hp _ rfl) fun loan hloan => ?_
  have hopen := orRefuse_eq_ok.mp hloan
  refine (plain_accrue hp _ _ _).bind fun store' haccrue => ?_
  obtain ⟨_, accrued, -, rfl⟩ := accrue_eq_ok haccrue
  refine FailsOnly.bind (plain_valuation (plain_refusal hp) _ _ _ _ _ _)
    fun ⟨config, valuation⟩ hvaluation => ?_
  obtain ⟨_, hconfig, -, -⟩ := valuation_eq_ok hvaluation
  refine (Ledger.plain_reserve (plain_refusal hp) _ _).bind fun _ _ => ?_
  simp only []
  split
  · refine FailsOnly.bind (failsOnly_require fun _ => hp _ rfl) fun _ _ => ?_
    refine FailsOnly.bind ?_ fun _ _ => ?_
    · refine (plain_mulDiv (plain_refusal hp) _ _ _ _).bind fun _ _ => ?_
      refine (plain_bareSub hp _ _).bind fun _ _ => ?_
      exact (plain_mulDiv (plain_refusal hp) _ _ _ _).bind fun _ _ => failsOnly_pure _
    refine FailsOnly.bind (failsOnly_require fun _ => hp _ rfl) fun _ _ => ?_
    refine FailsOnly.bind ?_ fun _ _ => ?_
    · refine (plain_mulDiv (plain_refusal hp) _ _ _ _).bind fun _ _ => ?_
      exact (plain_amountWorth (plain_refusal hp) _ _ _ _).bind fun _ _ => failsOnly_pure _
    refine FailsOnly.bind (failsOnly_pure _) fun _ _ => ?_
    exact (plain_reserveUpdate (plain_refusal hp) _ _ _).bind fun _ _ => failsOnly_pure _
  · next hauction =>
    refine FailsOnly.bind (failsOnly_orRefuse fun _ => hp _ rfl) fun bid hbid => ?_
    refine (failsOnly_fitClock (hp _ rfl) _).bind fun deadline hdeadline => ?_
    refine FailsOnly.bind (failsOnly_require fun hc => ?_) fun _ _ => ?_
    · exact hclosed loan bid config deadline hopen hauction (orRefuse_eq_ok.mp hbid) hconfig
        hdeadline (Nat.lt_of_not_le hc)
    refine FailsOnly.bind ?_ fun _ _ => ?_
    · exact (plain_mulDiv (plain_refusal hp) _ _ _ _).bind fun _ _ => failsOnly_pure _
    refine (failsOnly_addAmount (hp _ rfl) _ _).bind fun _ _ => ?_
    refine FailsOnly.bind (failsOnly_require fun _ => hp _ rfl) fun _ _ => ?_
    refine FailsOnly.bind (failsOnly_pure _) fun _ _ => ?_
    exact (plain_reserveUpdate (plain_refusal hp) _ _ _).bind fun _ _ => failsOnly_pure _
  · exact FailsOnly.bind (failsOnly_refuse (hp _ rfl)) fun _ _ =>
      (plain_reserveUpdate (plain_refusal hp) _ _ _).bind fun _ _ => failsOnly_pure _

/-- When an action that must keep to a window of an auction fails for a closed window, that window
has closed. -/
lemma UserAction.failsOnly_run (hd : store.DebtsAddUp) {action : UserAction} {window : Window}
    (hwithin : action.within = some (item, window)) (vault : V) (venue : N) :
    FailsOnly (Failure.Tells store item window now)
      (action.run prices ⟨store, vault, venue⟩ caller now) := by
  have hplain := Failure.tells_of_isPlain store item window now
  have hcloses {loan : Loan} {bid : Bid} {config : CollateralConfig} {deadline : Nat}
      (hopen : store.loans.openLoan? item = some loan) (hauction : loan.status = .auction)
      (hbid : loan.bid = some bid) (hconfig : store.collateral.config loan.item = .ok config)
      (hdeadline : bid.deadline (config.terms.lengthOf window) = .ok deadline)
      (hlate : deadline < now) : store.Closed item window now := by
    obtain ⟨-, rfl⟩ := fitClock_eq_ok.mp hdeadline
    exact ⟨loan, bid, config, hopen, hauction, hbid, hconfig, hlate⟩
  cases action with
  | bid =>
    cases hwithin
    refine FailsOnly.bind (Store.plain_bid hplain ?_ _ _ _ _) fun _ _ => failsOnly_pure _
    intro loan bid config deadline hopen hauction hbid hconfig hdeadline hlate
    exact hcloses hopen hauction hbid hconfig hdeadline hlate
  | redeem =>
    cases hwithin
    refine FailsOnly.bind (hd.plain_redeem hplain ?_ _ _ _ _) fun _ _ => failsOnly_pure _
    intro loan bid config deadline hopen hauction hbid hconfig hdeadline hlate
    exact hcloses hopen hauction hbid hconfig hdeadline hlate
  | deposit | withdraw | borrow | repay | setMandate | liquidate | sell | list | buyDebt | bidDebt
    | claimDebt | cancelListing => cases hwithin

/-- An action on a loan under auction that must keep to a window succeeds only before the window
closes. -/
lemma UserAction.Serves.in_time {action : UserAction} {vault : V} {venue : N}
    {facility : Facility V N} {transfers : List Transfer} {window : Window}
    (h : action.Serves prices store vault venue caller now facility transfers)
    (hwithin : action.within = some (item, window)) {loan : Loan} {bid : Bid}
    (hopen : store.loans.openLoan? item = some loan) (hauction : loan.status = .auction)
    (hbid : loan.bid = some bid) :
    ∃ config, store.collateral.config loan.item = .ok config ∧
      now ≤ bid.startedAt + config.terms.lengthOf window := by
  cases h with
  | bid s =>
    cases hwithin
    obtain rfl := Option.some.inj (hopen.symm.trans s.isOpen)
    rcases s.admitted with ⟨⟨first⟩⟩ | ⟨⟨later⟩⟩
    · exact absurd (hauction.symm.trans first.active) nofun
    · obtain rfl := Option.some.inj (hbid.symm.trans later.locked)
      obtain ⟨-, hdeadline⟩ := fitClock_eq_ok.mp later.closes
      exact ⟨s.config, s.configured, hdeadline ▸ later.inTime⟩
  | redeem s =>
    cases hwithin
    obtain rfl := Option.some.inj (hopen.symm.trans s.isOpen)
    obtain rfl := Option.some.inj (hbid.symm.trans s.locked)
    obtain ⟨-, hdeadline⟩ := fitClock_eq_ok.mp s.closes
    exact ⟨s.config, s.configured, hdeadline ▸ s.inTime⟩
  | deposit | withdraw | borrow | repay | setMandate | liquidate | sell | list | buyDebt | bidDebt
    | claimDebt | cancelListing => cases hwithin

end Requests

/-! ## Auctions -/

namespace Loan

variable {O : Type} [PriceSource O] {prices : O} {store : Store} {caller : Account} {now : Nat}
variable {action : UserAction} {transfers : List Transfer} {loan loan' : Loan}

/-- A step from auction to auction is a bid that keeps the moment of the first one. -/
lemma Advances.startedAt (h : loan.Advances prices store caller now action transfers loan')
    (hauction : loan.status = .auction) (hauction' : loan'.status = .auction) {bid : Bid}
    (hbid : loan.bid = some bid) :
    ∃ bid', loan'.bid = some bid' ∧ bid'.startedAt = bid.startedAt := by
  cases h with
  | outbid _ locked =>
    obtain rfl := Option.some.inj (hbid.symm.trans locked)
    exact ⟨_, rfl, rfl⟩
  | auctioned active | paidDown active | bought active | claimed active =>
    exact absurd (hauction.symm.trans active) nofun
  | repaid | reclaimed | redeemed => cases hauction'
  | liquidated _ _ _ _ _ final | sold _ _ _ _ final | soldOver _ _ _ _ _ final =>
    rcases final with rfl | rfl <;> cases hauction'

/-- The only steps of a loan whose bid window has closed are a liquidation and a sale, which close
the loan. -/
lemma Advances.of_overdue (h : loan.Advances prices store caller now action transfers loan')
    (hvalid : store.collateral.Valid) (hauction : loan.status = .auction) {bid : Bid}
    (hbid : loan.bid = some bid) {config : CollateralConfig}
    (hconfig : store.collateral.config loan.item = .ok config)
    (hover : bid.startedAt + config.terms.bidWindow < now) :
    ((∃ minPrice, action = .liquidate loan.item minPrice) ∨ action = .sell loan.item) ∧
      loan'.status.isOpen = false := by
  have hlate (window : Window) {bid' : Bid} {config' : CollateralConfig}
      (locked : loan.bid = some bid')
      (configured : store.collateral.config loan.item = .ok config') :
      ¬ now ≤ bid'.startedAt + config'.terms.lengthOf window := by
    obtain rfl := Option.some.inj (hbid.symm.trans locked)
    obtain rfl := Except.ok.inj (hconfig.symm.trans configured)
    have hlength := CollateralTerms.lengthOf_le (hvalid.config hconfig) window
    omega
  cases h with
  | outbid _ locked configured inTime => exact absurd inTime (hlate .bid locked configured)
  | redeemed _ locked configured inTime | reclaimed _ locked configured inTime =>
    exact absurd inTime (hlate .redeem locked configured)
  | liquidated _ _ _ _ _ final =>
    refine ⟨.inl ⟨_, rfl⟩, ?_⟩
    rcases final with rfl | rfl <;> rfl
  | soldOver _ _ _ _ _ final =>
    refine ⟨.inr rfl, ?_⟩
    rcases final with rfl | rfl <;> rfl
  | auctioned active | paidDown active | repaid active | sold active | bought active
    | claimed active => exact absurd (hauction.symm.trans active) nofun

end Loan

/-! ## Pools -/

namespace Pool

variable {O V N : Type} [PriceSource O] [Vault V] [Venue N] {pool : Pool O V N}

/-- The loan under a number is under auction. -/
def UnderAuction (id : LoanId) (pool : Pool O V N) : Prop :=
  (pool.state.store.loans.loan? id).map Loan.status = some .auction

/-- The bid window for a token is at most this long. -/
def BidWindowWithin (item : Item) (length : Nat) (pool : Pool O V N) : Prop :=
  ∀ config, pool.state.store.collateral.config item = .ok config → config.terms.bidWindow ≤ length

omit [PriceSource O] [Vault V] [Venue N] in
/-- The bid window for a token is as long as the terms in force say. -/
lemma bidWindowWithin_of_config {item : Item} {config : CollateralConfig}
    (h : pool.state.store.collateral.config item = .ok config) :
    pool.BidWindowWithin item config.terms.bidWindow := by
  intro config' h'
  obtain rfl := Except.ok.inj (h.symm.trans h')
  exact Nat.le_refl _

/-- A call settles a loan: it is a liquidation or a sale for the token of the loan, and after it the
loan is closed. -/
def Settles (pool : Pool O V N) (loan : Loan) (call : Call) : Prop :=
  ((∃ minPrice, call.action = .user (.liquidate loan.item minPrice)) ∨
      call.action = .user (.sell loan.item)) ∧
    (∃ commit, pool.attempt call = .ok commit) ∧
    ∃ settled, (pool.after (.call call)).state.store.loans.loan? loan.id = some settled ∧
      settled.status.isOpen = false

/-- A call that is refused for a closed window is refused by its action: no transfer is. -/
lemma run_of_windowClosed {call : Call} {name : String} {deadline now : Nat}
    (h : (pool.execute call).1 = .error (.refused (.windowClosed name deadline now))) :
    pool.run call = .error (.refused (.windowClosed name deadline now)) := by
  have hexecutes := pool.execute_executes call
  rw [h] at hexecutes
  generalize (pool.execute call).2 = pool' at hexecutes
  cases hexecutes with
  | refused free runs => exact runs
  | stopped free runs asks carries stops =>
    obtain ⟨cause, hcause, hnot⟩ := Custody.failsOnly_apply _ _ _ stops
    cases hcause
    exact absurd rfl hnot

/-- When a call of an action that must keep to a window of an auction is refused for a closed
window, that window has closed. -/
lemma closed_of_refused (hd : pool.state.store.DebtsAddUp) {call : Call} {action : UserAction}
    {item : Item} {window : Window} (haction : call.action = .user action)
    (hwithin : action.within = some (item, window)) {name : String} {deadline now : Nat}
    (h : (pool.execute call).1 = .error (.refused (.windowClosed name deadline now))) :
    pool.state.store.Closed item window call.now := by
  have hfails : FailsOnly (Failure.Tells pool.state.store item window call.now)
      (pool.run call) := by
    unfold run
    rw [haction]
    refine FailsOnly.bind (failsOnly_require fun _ => trivial) fun _ _ => ?_
    exact FailsOnly.bind (UserAction.failsOnly_run hd hwithin _ _) fun _ _ => failsOnly_pure _
  exact hfails _ (run_of_windowClosed h)

/-- While a loan stays under auction, its bid keeps the moment of the first one. -/
lemma startedAt_along (h : pool.state.store.Reachable) (moves : List (Move O V N)) {id : LoanId}
    {loan : Loan} {bid : Bid} (hloan : pool.state.store.loans.loan? id = some loan)
    (hbid : loan.bid = some bid) (halong : pool.Along (UnderAuction id) moves) :
    ∃ loan' bid', (pool.follow moves).state.store.loans.loan? id = some loan' ∧
      loan'.item = loan.item ∧ loan'.status = .auction ∧ loan'.bid = some bid' ∧
      bid'.startedAt = bid.startedAt := by
  have hauction : loan.status = .auction := by
    have hstart : UnderAuction id pool := halong.start
    rw [UnderAuction, hloan] at hstart
    exact Option.some.inj hstart
  induction moves generalizing pool loan bid with
  | nil => exact ⟨loan, bid, hloan, rfl, hauction, hbid, rfl⟩
  | cons move moves ih =>
    have hnext : UnderAuction id (pool.after move) := halong.2.start
    obtain ⟨middle, hmiddle, hauction'⟩ := Option.map_eq_some_iff.mp hnext
    have hstep : middle.item = loan.item ∧
        ∃ bid', middle.bid = some bid' ∧ bid'.startedAt = bid.startedAt := by
      rcases pool.loan_after h.debtsAddUp.book move id with hsame | ⟨_, _, _, -, -, -, halters⟩
      · rw [hmiddle, hloan] at hsame
        obtain rfl := Option.some.inj hsame
        exact ⟨rfl, bid, hbid, rfl⟩
      · rw [hmiddle, hloan] at halters
        cases halters with
        | kept => exact ⟨rfl, bid, hbid, rfl⟩
        | advanced advances =>
          exact ⟨advances.sameDeal.item, advances.startedAt hauction hauction' hbid⟩
    obtain ⟨hitem, bid', hbid', hstarted⟩ := hstep
    obtain ⟨last, bid'', hlast, hitem', hauction'', hbid'', hstarted'⟩ :=
      ih (pool.reachable_after h move) hmiddle hbid' halong.2 hauction'
    exact ⟨last, bid'', hlast, hitem'.trans hitem, hauction'', hbid'', hstarted'.trans hstarted⟩

/-- A move that comes after the bid window of an auction leaves the loan as it is or settles it. -/
lemma overdue_after (h : pool.state.store.Reachable) {loan : Loan} {bid : Bid}
    {config : CollateralConfig} {now : Nat}
    (hloan : pool.state.store.loans.loan? loan.id = some loan) (hauction : loan.status = .auction)
    (hbid : loan.bid = some bid)
    (hconfig : pool.state.store.collateral.config loan.item = .ok config)
    (hover : bid.startedAt + config.terms.bidWindow < now) (move : Move O V N)
    (htime : ∀ call, move = .call call → now ≤ call.now) :
    (pool.after move).state.store.loans.loan? loan.id = some loan ∨
      ∃ call, move = .call call ∧ pool.Settles loan call := by
  rcases pool.loan_after h.debtsAddUp.book move loan.id with
    hsame | ⟨call, action, commit, rfl, haction, hcommit, halters⟩
  · exact .inl (hsame.trans hloan)
  · generalize hafter : (pool.after (.call call)).state.store.loans.loan? loan.id = after at halters
    rw [hloan] at halters
    cases halters with
    | kept => exact .inl rfl
    | @advanced _ _ _ loan' advances =>
      have hlate := hover.trans_le (htime call rfl)
      obtain ⟨hsettles, hclosed⟩ :=
        advances.of_overdue h.collateral_valid hauction hbid hconfig hlate
      refine .inr ⟨call, rfl, ?_, ⟨commit, hcommit⟩, loan', hafter, hclosed⟩
      rw [haction]
      rcases hsettles with ⟨minPrice, rfl⟩ | rfl
      · exact .inl ⟨minPrice, rfl⟩
      · exact .inr rfl

/-- Once the bid window of an auction has closed and as long as it is not made longer, the loan
stays as it is until a call settles it. -/
lemma overdue_along (h : pool.state.store.Reachable) (moves : List (Move O V N)) {loan : Loan}
    {bid : Bid} {length now : Nat} (hloan : pool.state.store.loans.loan? loan.id = some loan)
    (hauction : loan.status = .auction) (hbid : loan.bid = some bid)
    (hover : bid.startedAt + length < now) (htimes : ∀ call, .call call ∈ moves → now ≤ call.now)
    (halong : pool.Along (BidWindowWithin loan.item length) moves) :
    (pool.follow moves).state.store.loans.loan? loan.id = some loan ∨
      ∃ before call after, moves = before ++ .call call :: after ∧
        (pool.follow before).state.store.loans.loan? loan.id = some loan ∧
        (pool.follow before).Settles loan call := by
  induction moves generalizing pool with
  | nil => exact .inl hloan
  | cons move moves ih =>
    have hopen : loan.status.isOpen = true := by rw [hauction]; rfl
    obtain ⟨config, hconfig⟩ := h.termsStand loan.id loan hloan hopen
    have hlength : config.terms.bidWindow ≤ length := halong.start config hconfig
    have hover' : bid.startedAt + config.terms.bidWindow < now := by omega
    have htime (call : Call) (hmove : move = .call call) : now ≤ call.now :=
      htimes call (hmove ▸ List.mem_cons_self)
    rcases pool.overdue_after h hloan hauction hbid hconfig hover' move htime with
      hsame | ⟨call, rfl, hsettles⟩
    · have htimes' (call : Call) (hcall : .call call ∈ moves) : now ≤ call.now :=
        htimes call (List.mem_cons_of_mem _ hcall)
      rcases ih (pool.reachable_after h move) hsame htimes' halong.2 with
        hlast | ⟨before, call, after, rfl, hloan', hsettles⟩
      · exact .inl hlast
      · exact .inr ⟨move :: before, call, after, rfl, hloan', hsettles⟩
    · exact .inr ⟨[], call, moves, rfl, hloan, hsettles⟩

/-- Let a loan be under auction in a reachable pool. When a redeem, or a higher bid, is refused
because its window has closed, then a later one succeeds while the loan is still under that auction
only if the window of the terms in force has become longer in the meantime. And once the bid window
has closed, the loan stays as it is, with the same bid, and its bid window stays closed at every
later time, until a call liquidates the loan or sells it to a venue, as long as the bid window of
the terms in force is never longer than it was. -/
theorem Reachable.closed_windows_reopen_only_longer {rule : Pool O V N → Move O V N → Prop}
    (h : pool.Reachable rule) {id : LoanId} {loan : Loan} {bid : Bid} {config : CollateralConfig}
    (hloan : pool.state.store.loans.loan? id = some loan) (hauction : loan.status = .auction)
    (hbid : loan.bid = some bid)
    (hconfig : pool.state.store.collateral.config loan.item = .ok config) :
    (∀ (call : Call) action window name deadline now, call.action = .user action →
      action.within = some (loan.item, window) →
      (pool.execute call).1 = .error (.refused (.windowClosed name deadline now)) →
      ∀ moves, pool.Along (UnderAuction id) moves →
        ∀ (later : Call) action' reply, later.action = .user action' →
          action'.within = some (loan.item, window) → call.now ≤ later.now →
          ((pool.follow moves).execute later).1 = .ok reply →
          ∃ config', (pool.follow moves).state.store.collateral.config loan.item = .ok config' ∧
            config.terms.lengthOf window < config'.terms.lengthOf window) ∧
    ∀ now moves, bid.startedAt + config.terms.bidWindow < now →
      (∀ call, .call call ∈ moves → now ≤ call.now) →
      pool.Along (BidWindowWithin loan.item config.terms.bidWindow) moves →
      ((pool.follow moves).state.store.loans.loan? id = some loan ∧
        ∃ config', (pool.follow moves).state.store.collateral.config loan.item = .ok config' ∧
          ∀ later, now ≤ later → bid.startedAt + config'.terms.bidWindow < later) ∨
      ∃ before call after, moves = before ++ .call call :: after ∧
        (pool.follow before).state.store.loans.loan? id = some loan ∧
        (pool.follow before).Settles loan call := by
  have hd := h.store.debtsAddUp
  obtain rfl := hd.book.key id loan hloan
  have hopen : loan.status.isOpen = true := by rw [hauction]; rfl
  constructor
  · intro call action window name deadline now haction hwithin hrefused moves halong later action'
      reply haction' hwithin' hlater hreply
    -- the refusal tells that the window had closed
    obtain ⟨found, first, terms, hfound, -, hfirst, hterms, hlate⟩ :=
      pool.closed_of_refused hd haction hwithin hrefused
    obtain rfl := Option.some.inj ((hd.book.openLoan?_of_isOpen hloan hopen).symm.trans hfound)
    obtain rfl := Option.some.inj (hbid.symm.trans hfirst)
    obtain rfl := Except.ok.inj (hconfig.symm.trans hterms)
    -- the success tells that it is open, for the same first bid
    obtain ⟨last, bid', hlast, hitem, hauction', hbid', hstarted⟩ :=
      pool.startedAt_along h.store moves hloan hbid halong
    have hbook := ((pool.reachable_follow h.store moves).debtsAddUp).book
    have hopen' := hbook.openLoan?_of_isOpen hlast (by rw [hauction']; rfl)
    rw [hitem] at hopen'
    rcases (pool.follow moves).execute_attempt later with ⟨commit, hcommit, -⟩ | ⟨hfailed, -⟩
    · obtain ⟨facility, -, hrun, -⟩ := attempt_user haction' hcommit
      obtain ⟨config', hconfig', hinTime⟩ :=
        (UserAction.run_serves hrun).in_time hwithin' hopen' hauction' hbid'
      rw [hitem] at hconfig'
      exact ⟨config', hconfig', by omega⟩
    · exact absurd hreply (hfailed reply)
  · intro now moves hover htimes halong
    rcases pool.overdue_along h.store moves hloan hauction hbid hover htimes halong with
      hsame | hsettled
    · have hr := pool.reachable_follow h.store moves
      obtain ⟨config', hconfig'⟩ := hr.termsStand loan.id loan hsame hopen
      have hlength : config'.terms.bidWindow ≤ config.terms.bidWindow :=
        halong.finish config' hconfig'
      refine .inl ⟨hsame, config', hconfig', fun later hlater => ?_⟩
      omega
    · exact .inr hsettled

end Pool

namespace SmallMarket

/-- The loan goes under auction, and some time later the prices are published again and the borrower
has been given what it needs to redeem. -/
def auctioningUntil (time : Nat) : List (Move PriceFeeds NoVault FlatVenue) :=
  auctioning ++
    [.fund coin borrower 100,
      .turn { feeds with
        assets := feeds.assets.insert coin ⟨wad, time⟩
        floors := feeds.floors.insert art ⟨300 * wad, time⟩ } {} SmallMarket.venue]

/-- The borrower redeems the whole loan. -/
def redeeming (now : Nat) : Call := ⟨borrower, now, .user (.redeem ⟨art, 1⟩ maxAmount maxAmount)⟩

/-- The borrower bids 330. -/
def outbidding (now : Nat) : Call := ⟨borrower, now, .user (.bid ⟨art, 1⟩ 330 borrower)⟩

/-- The founder makes the windows of one and two hours twice as long, as it may with a loan open. -/
def lengthening (now : Nat) : Move PriceFeeds NoVault FlatVenue :=
  .call ⟨founder, now, .operator
    (.configureCollateral art none { redeemWindow := 2 * hour, bidWindow := 4 * hour })⟩

/-- A closed window is not closed for good. A redeem after one hour and a bid after two are refused
because the window has closed, and the loan can be liquidated then. One second later, after the
windows were made longer and nothing else has happened to the loan, the same redeem and the same bid
succeed, and the loan cannot be liquidated. -/
theorem longer_windows_reopen :
    let pool := lent.follow (auctioningUntil 3601)
    let pool' := lent.follow (auctioningUntil 7201)
    (pool.execute (redeeming 3601)).1 = .error (.refused (.windowClosed "redeem" 3600 3601)) ∧
    (pool.after (lengthening 3601)).state.store.loans = pool.state.store.loans ∧
    ((pool.after (lengthening 3601)).execute (redeeming 3602)).1.isOk = true ∧
    (pool'.execute (outbidding 7201)).1 = .error (.refused (.windowClosed "auction" 7200 7201)) ∧
    (pool'.execute liquidating).1.isOk = true ∧
    (pool'.after (lengthening 7201)).state.store.loans = pool'.state.store.loans ∧
    ((pool'.after (lengthening 7201)).execute (outbidding 7202)).1.isOk = true ∧
    ((pool'.after (lengthening 7201)).execute { liquidating with now := 7202 }).1 =
      .error (.refused (.windowNotOpen "liquidate" 14401 7202)) := by
  refine ⟨?_, ?_, ?_, ?_, ?_, ?_, ?_, ?_⟩ <;> decide +kernel

/-- The founder freezes the collection after two hours. -/
def freezingLate : List (Move PriceFeeds NoVault FlatVenue) :=
  [.call ⟨founder, 7201, .operator (.setCollateralFrozen art true)⟩]

/-- Once a redeem has been refused after one hour, none succeeds in the same auction until the
window of one hour is longer. And when the bid window has closed after two hours, freezing the
collection leaves the loan as it is, to be liquidated at any later time. -/
theorem auctioning_windows_closed :
    let pool := lent.follow (auctioningUntil 3601)
    let pool' := lent.follow (auctioningUntil 7201)
    ((pool.execute (redeeming 3601)).1 = .error (.refused (.windowClosed "redeem" 3600 3601)) ∧
      ∀ moves, pool.Along (Pool.UnderAuction 1) moves → ∀ now reply, 3601 ≤ now →
        ((pool.follow moves).execute (redeeming now)).1 = .ok reply →
        ∃ config, (pool.follow moves).state.store.collateral.config ⟨art, 1⟩ = .ok config ∧
          hour < config.terms.redeemWindow) ∧
    (pool'.follow freezingLate).state.store.loans.loan? 1 = pool'.state.store.loans.loan? 1 ∧
      ∃ config, (pool'.follow freezingLate).state.store.collateral.config ⟨art, 1⟩ = .ok config ∧
        ∀ later, 7201 ≤ later → config.terms.bidWindow < later := by
  intro pool pool'
  have hr : pool.Reachable fun _ _ => True := lent_follow_reachable _
  have hr' : pool'.Reachable fun _ _ => True := lent_follow_reachable _
  constructor
  · obtain ⟨loan, hloan, hitem, hauction, bid, hbid, -⟩ := show
      ∃ loan ∈ pool.state.store.loans.loan? 1, loan.item = ⟨art, 1⟩ ∧ loan.status = .auction ∧
        ∃ bid ∈ loan.bid, bid.startedAt = 0 by decide +kernel
    have hconfig : pool.state.store.collateral.config loan.item = .ok ⟨{}, true, false, 0⟩ := by
      rw [hitem]
      decide +kernel
    have hrefused : (pool.execute (redeeming 3601)).1 =
        .error (.refused (.windowClosed "redeem" 3600 3601)) := by decide +kernel
    have hwithin : (UserAction.redeem ⟨art, 1⟩ maxAmount maxAmount).within =
        some (loan.item, .redeem) := by
      rw [hitem]
      rfl
    have hfinal := (Pool.Reachable.closed_windows_reopen_only_longer hr hloan hauction hbid
      hconfig).1 (redeeming 3601) _ .redeem _ _ _ rfl hwithin hrefused
    refine ⟨hrefused, fun moves halong now reply hnow hreply => ?_⟩
    obtain ⟨config, hlonger⟩ :=
      hfinal moves halong (redeeming now) _ reply rfl hwithin hnow hreply
    rw [hitem] at hlonger
    exact ⟨config, hlonger⟩
  · obtain ⟨loan, hloan, hitem, hauction, bid, hbid, hstart⟩ := show
      ∃ loan ∈ pool'.state.store.loans.loan? 1, loan.item = ⟨art, 1⟩ ∧ loan.status = .auction ∧
        ∃ bid ∈ loan.bid, bid.startedAt = 0 by decide +kernel
    have hconfig : pool'.state.store.collateral.config loan.item = .ok ⟨{}, true, false, 0⟩ := by
      rw [hitem]
      decide +kernel
    have hfrozen : (pool'.follow freezingLate).state.store.collateral.config loan.item =
        .ok ⟨{}, true, true, 7201⟩ := by
      rw [hitem]
      decide +kernel
    have hwithin := Pool.bidWindowWithin_of_config hconfig
    have hwithin' := Pool.bidWindowWithin_of_config hfrozen
    have hover : bid.startedAt + ({} : CollateralTerms).bidWindow < 7201 := by
      rw [hstart]
      decide
    have htimes (call : Call) (hcall : .call call ∈ freezingLate) : 7201 ≤ call.now := by
      obtain rfl := Move.call.inj (List.mem_singleton.mp hcall)
      exact Nat.le_refl _
    have hclosed := (Pool.Reachable.closed_windows_reopen_only_longer hr' hloan hauction hbid
      hconfig).2 7201 freezingLate hover htimes ⟨hwithin, hwithin'⟩
    rcases hclosed with ⟨hsame, config, hconfig', hlater⟩ |
      ⟨before, call, after, hmoves, -, ⟨hsettles, -⟩⟩
    · rw [hstart] at hlater
      rw [hitem] at hconfig'
      have hloan := Option.mem_def.mp hloan
      refine ⟨hsame.trans hloan.symm, config, hconfig', fun later h => ?_⟩
      rw [← Nat.zero_add config.terms.bidWindow]
      exact hlater later h
    · have hcall : .call call ∈ freezingLate := by
        rw [hmoves]
        exact List.mem_append_right _ List.mem_cons_self
      obtain rfl := Move.call.inj (List.mem_singleton.mp hcall)
      rcases hsettles with ⟨_, hliquidates⟩ | hsells
      · cases hliquidates
      · cases hsells

end SmallMarket

end PooledCredit
