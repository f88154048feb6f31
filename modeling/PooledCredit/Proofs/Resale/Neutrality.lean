import PooledCredit.Proofs.Resale.Debtors
import PooledCredit.Proofs.Resale.Sales

/-!
# Sales of debts do not touch lending

Take two runs of a pool in which the same is asked for, apart from what is asked of the debt
market. Sales give loans other debtors and leave the rest of lending alone, and everything else goes
on alike whoever the debtors are. So both runs have the same reserves, the same loans up to their
debtors, and the same vault and venue at every time, and answer every further request alike: what a
loan owes, how healthy it is and how its repayment, its auction or its settlement turns out do not
depend on any sale, up to the account that gets the collateral and the surplus.

The books of a pool are followed without custody. What accounts own outside of the pool does depend
on what they paid for debts, and custody may refuse a later transfer for it.
-/

namespace PooledCredit

variable {O V N : Type}

/-! ## Actions of operators -/

/-- Two pool states differ in nothing but custody, the board and the debtors of loans. -/
structure PoolState.Alike (state state' : PoolState) : Prop where
  store : state.store.Alike state'.store
  roles : state'.roles = state.roles
  pause : state'.pause = state.pause

namespace PoolState.Alike

variable {state state' : PoolState}

/-- A state that is alike to another is the other with an alike loan book, some board and some
custody. -/
lemma exists_eq (h : state.Alike state') :
    ∃ loans board custody, state.store.loans.Alike loans ∧
      state' = { state with store := { state.store with loans, board }, custody } := by
  obtain ⟨store', roles, pause, custody⟩ := state'
  obtain ⟨hstore, hroles, hpause⟩ := h
  dsimp only at hstore hroles hpause
  obtain ⟨loans, board, hloans, rfl⟩ := hstore.exists_eq
  exact ⟨loans, board, custody, hloans, by rw [hroles, hpause]⟩

end PoolState.Alike

/-- On alike states an operator's action is refused for the same reason or has the same answer, an
alike state, the same vault and the same events. -/
lemma OperatorAction.run_tally [Vault V] {state state' : PoolState} (h : state.Alike state')
    (action : OperatorAction) (vault : V) (caller : Account) (now : Nat) :
    Tally (fun run run' => run'.1 = run.1 ∧ run.2.1.Alike run'.2.1 ∧ run'.2.2 = run.2.2)
      (action.run state vault caller now) (action.run state' vault caller now) := by
  obtain ⟨loans, board, custody, hloans, rfl⟩ := h.exists_eq
  refine tally_bind_same fun _ => ?_
  cases action with
  | setPause =>
    simp only [ite_bind]
    exact tally_bind_same fun _ => tally_pure ⟨rfl, ⟨h.store, rfl, rfl⟩, rfl⟩
  | grantRole | revokeRole =>
    exact tally_bind_same fun _ => tally_pure ⟨rfl, ⟨h.store, rfl, rfl⟩, rfl⟩
  | configureCollateral =>
    simp only [LoanBook.openCount, hloans.openByCollection]
    exact tally_bind_same fun _ =>
      tally_pure ⟨rfl, ⟨⟨rfl, rfl, rfl, rfl, hloans⟩, rfl, rfl⟩, rfl⟩
  | setCollateralActive =>
    simp only [LoanBook.openCount, hloans.openByCollection]
    exact tally_bind_same fun _ => tally_bind_same fun _ =>
      tally_pure ⟨rfl, ⟨⟨rfl, rfl, rfl, rfl, hloans⟩, rfl, rfl⟩, rfl⟩
  | registerWrapper | setVaultShare =>
    exact tally_bind_same fun _ =>
      tally_pure ⟨rfl, ⟨⟨rfl, rfl, rfl, rfl, hloans⟩, rfl, rfl⟩, rfl⟩
  | setCollateralFrozen | openReserve | setReserveFlags | setRateModel =>
    exact tally_bind_same fun _ => tally_bind_same fun _ =>
      tally_pure ⟨rfl, ⟨⟨rfl, rfl, rfl, rfl, hloans⟩, rfl, rfl⟩, rfl⟩
  | setReserveFactor | rebalance =>
    exact tally_bind_same fun _ => tally_bind_same fun _ => tally_bind_same fun _ =>
      tally_pure ⟨rfl, ⟨⟨rfl, rfl, rfl, rfl, hloans⟩, rfl, rfl⟩, rfl⟩

/-! ## Sales -/

/-- When a debt passes, every loan is alike to what it was. -/
lemma Listing.Passes.loan_alike {listing : Listing} {loan : Loan} {buyer payer : Account}
    {price : Nat} {store store' : Store} {transfers : List Transfer}
    (h : listing.Passes loan buyer payer price store store' transfers) (id : LoanId) :
    Option.Rel Loan.Alike (store.loans.loan? id) (store'.loans.loan? id) := by
  rw [h.loans]
  split
  · next hid =>
    rw [hid, h.listed]
    exact .some (.withDebtor loan buyer)
  · exact (LoanBook.Alike.refl store.loans).loans id

/-- What an action of the debt market leaves alone makes the stores before and after it alike. -/
lemma UserAction.Neutral.alike {action : UserAction} {caller : Account} {store store' : Store}
    {transfers : List Transfer} (h : action.Neutral caller store store' transfers) :
    store.Alike store' where
  settings := h.settings
  ledger := h.ledger
  collateral := h.collateral
  wrappers := h.wrappers
  loans := {
    nextId := h.nextId
    openByItem := h.openByItem
    openByCollection := h.openByCollection
    mandates := h.mandates
    loans := by
      intro id
      have hresells := h.loans
      cases action with
      | buyDebt =>
        obtain ⟨_, _, -, hpasses⟩ := hresells
        exact hpasses.loan_alike id
      | claimDebt =>
        obtain ⟨_, _, _, -, -, hpasses⟩ := hresells
        exact hpasses.loan_alike id
      | _ =>
        have hsame : store'.loans.loan? id = store.loans.loan? id :=
          congrArg (SortedMap.get? · id) hresells
        rw [hsame]
        exact (LoanBook.Alike.refl store.loans).loans id }

/-! ## Calls -/

/-- Whether an action is one of the debt market. -/
def Action.trades : Action → Bool
  | .user action => action.trades
  | .operator _ => false

/-- The debtor of the open loan on the token of an action; an operator's action is on none. -/
def Action.debtor? (action : Action) (store : Store) : Option Account :=
  match action with
  | .user action => action.debtor? store
  | .operator _ => none

/-- Whether a move calls for an action of the debt market. -/
def Move.trades : Move O V N → Bool
  | .call ⟨_, _, action⟩ => action.trades
  | .fund .. | .mint .. | .turn .. => false

namespace Pool

/-- Two pools differ in nothing but custody, the log, the board and the debtors of loans, and in
whether an action is under way. -/
structure Alike (pool pool' : Pool O V N) : Prop where
  prices : pool'.prices = pool.prices
  state : pool.state.Alike pool'.state
  vault : pool'.vault = pool.vault
  venue : pool'.venue = pool.venue

/-- Two calls have the same answer, lead to alike states and have the same effects up to the debtor
of a loan. -/
structure Commit.Alike (account : Account) (owed owed' : Option Account)
    (commit commit' : Commit V N) : Prop where
  reply : commit'.reply = commit.reply
  state : commit.state.Alike commit'.state
  vault : commit'.vault = commit.vault
  venue : commit'.venue = commit.venue
  effects : commit.effects.Redirected account owed owed' commit'.effects

namespace Alike

variable {pool pool' pool'' : Pool O V N}

/-- A pool is alike to itself. -/
lemma refl (pool : Pool O V N) : pool.Alike pool := ⟨rfl, ⟨.refl _, rfl, rfl⟩, rfl, rfl⟩

lemma symm (h : pool.Alike pool') : pool'.Alike pool :=
  ⟨h.prices.symm, ⟨h.state.store.symm, h.state.roles.symm, h.state.pause.symm⟩, h.vault.symm,
    h.venue.symm⟩

lemma trans (h : pool.Alike pool') (h' : pool'.Alike pool'') : pool.Alike pool'' where
  prices := h'.prices.trans h.prices
  state :=
    ⟨h.state.store.trans h'.state.store, h'.state.roles.trans h.state.roles,
      h'.state.pause.trans h.state.pause⟩
  vault := h'.vault.trans h.vault
  venue := h'.venue.trans h.venue

end Alike

variable [PriceSource O] [Vault V] [Venue N] {pool pool' : Pool O V N}

/-- On alike pools a call outside of the debt market is refused for the same reason or has the same
answer, an alike state and the same effects, up to the debtor of the loan on its token. -/
theorem run_tally (h : pool.Alike pool') (call : Call) (htrades : call.action.trades = false) :
    Tally
      (Commit.Alike pool.state.store.poolAccount (call.action.debtor? pool.state.store)
        (call.action.debtor? pool'.state.store))
      (pool.run call) (pool'.run call) := by
  obtain ⟨caller, now, action⟩ := call
  cases action with
  | user action =>
    simp only [run, h.prices, h.vault, h.venue, h.state.pause]
    refine tally_bind_same fun _ => ?_
    refine (UserAction.run_tally h.state.store htrades ..).bind fun a b hruns => tally_pure ?_
    exact {
      reply := hruns.reply
      state := ⟨hruns.facility.store, h.state.roles, rfl⟩
      vault := hruns.facility.vault
      venue := hruns.facility.venue
      effects := hruns.effects }
  | operator action =>
    simp only [run, h.vault, h.venue]
    refine (OperatorAction.run_tally h.state ..).bind fun a b hruns => tally_pure ?_
    obtain ⟨reply, state, vault, events⟩ := a
    obtain ⟨reply', state', vault', events'⟩ := b
    obtain ⟨hreply, hstate, hrest⟩ := hruns
    obtain ⟨rfl, rfl⟩ := Prod.mk.inj hrest
    exact ⟨hreply, hstate, rfl, rfl, .same _⟩

/-! ## Books -/

/-- The pool after a move, as its books have it: a call takes effect as soon as its action succeeds,
and custody is left alone. -/
def bookAfter (pool : Pool O V N) : Move O V N → Pool O V N
  | .call call =>
    match pool.run call with
    | .ok commit =>
      { pool with state := commit.state, vault := commit.vault, venue := commit.venue }
    | .error _ => pool
  | .fund .. | .mint .. => pool
  | .turn prices vault venue => { pool with prices, vault, venue }

/-- The pool after a list of moves, as its books have it. -/
def bookFollow (pool : Pool O V N) (moves : List (Move O V N)) : Pool O V N :=
  moves.foldl bookAfter pool

/-- A call that succeeds takes a step of the store. -/
lemma run_step {call : Call} {commit : Commit V N} (h : pool.run call = .ok commit) :
    Store.Step pool.state.store commit.state.store := by
  obtain ⟨caller, now, action⟩ := call
  cases action with
  | user action =>
    simp only [run, bind_eq_ok, pure_eq_ok, Prod.exists] at h
    obtain ⟨_, -, _, facility, _, hrun, rfl⟩ := h
    exact .user hrun
  | operator action =>
    simp only [run, bind_eq_ok, pure_eq_ok, Prod.exists] at h
    obtain ⟨_, state, _, _, hrun, rfl⟩ := h
    exact .operator hrun

/-- In the books, a move leads from a reachable store to a reachable one. -/
lemma reachable_bookAfter (h : pool.state.store.Reachable) (move : Move O V N) :
    (pool.bookAfter move).state.store.Reachable := by
  cases move with
  | call call =>
    simp only [bookAfter]
    split
    · next commit hrun =>
      obtain ⟨past, htrail⟩ := h
      exact ⟨_, htrail.stepped (run_step hrun)⟩
    · exact h
  | fund | mint | turn => exact h

/-- The same move outside of the debt market leaves pools alike. -/
lemma Alike.bookAfter (h : pool.Alike pool') {move : Move O V N} (htrades : move.trades = false) :
    (pool.bookAfter move).Alike (pool'.bookAfter move) := by
  cases move with
  | call call =>
    have htally := run_tally h call htrades
    simp only [Pool.bookAfter]
    generalize pool.run call = a, pool'.run call = b at htally
    cases htally with
    | ok hcommit => exact ⟨h.prices, hcommit.state, hcommit.vault, hcommit.venue⟩
    | error => exact h
  | fund | mint => exact h
  | turn prices vault venue => exact ⟨rfl, h.state, rfl, rfl⟩

/-- A move of the debt market leaves the books of a pool alike. -/
lemma alike_bookAfter (h : pool.state.store.Reachable) {move : Move O V N}
    (htrades : move.trades = true) : pool.Alike (pool.bookAfter move) := by
  cases move with
  | call call =>
    simp only [bookAfter]
    split
    · next commit hrun =>
      obtain ⟨caller, now, action⟩ := call
      cases action with
      | user action =>
        simp only [run, bind_eq_ok, pure_eq_ok, Prod.exists] at hrun
        obtain ⟨_, -, reply, facility, effects, hrun, rfl⟩ := hrun
        have hb : pool.state.store.loans.Consistent := h.inStep.toConsistent
        obtain ⟨hneutral, hvault, hvenue⟩ := (UserAction.run_serves hrun).neutral hb htrades
        exact ⟨rfl, ⟨hneutral.alike, rfl, rfl⟩, hvault, hvenue⟩
      | operator => cases htrades
    · exact .refl pool
  | fund | mint | turn => cases htrades

/-- Leaving the calls of the debt market out of a run leaves the books alike. -/
lemma bookFollow_filter (h : pool.Alike pool') (hr : pool.state.store.Reachable)
    (moves : List (Move O V N)) :
    (pool.bookFollow moves).Alike (pool'.bookFollow (moves.filter (!·.trades))) := by
  induction moves generalizing pool pool' with
  | nil => exact h
  | cons move moves ih =>
    have hnext := reachable_bookAfter hr move
    cases htrades : move.trades with
    | true =>
      have hsold := (alike_bookAfter hr htrades).symm.trans h
      simpa [bookFollow, htrades] using ih hsold hnext
    | false => simpa [bookFollow, htrades] using ih (h.bookAfter htrades) hnext

/-! ## Custody -/

/-- A move finds the pool idle, and custody carries out what the action of a call asks for. -/
def Carries (pool : Pool O V N) (move : Move O V N) : Prop :=
  pool.busy = false ∧ ∀ call commit, move = .call call → pool.run call = .ok commit →
    ∃ custody, commit.state.custody.applyAll commit.effects.transfers = .ok custody

/-- When custody carries out what is asked for, the pool after a move is as its books say. -/
lemma bookAfter_alike_after {move : Move O V N} (h : pool.Carries move) :
    (pool.bookAfter move).Alike (pool.after move) := by
  obtain ⟨hidle, hcarries⟩ := h
  cases move with
  | call call =>
    cases hrun : pool.run call with
    | ok commit =>
      obtain ⟨custody, hcustody⟩ := hcarries call commit rfl hrun
      have hattempt : pool.attempt call =
          .ok { commit with state := { commit.state with custody } } := by
        simp only [attempt, hrun, bind_eq_ok, require_eq_ok, pure_eq_ok]
        exact ⟨(), hidle, commit, rfl, custody, hcustody, rfl⟩
      simp only [bookAfter, after, execute, hrun, hattempt]
      exact ⟨rfl, ⟨.refl _, rfl, rfl⟩, rfl, rfl⟩
    | error e =>
      have hattempt : pool.attempt call = .error e := by
        simp only [attempt, hidle, hrun]
        rfl
      simp only [bookAfter, after, execute, hrun, hattempt]
      cases e with
      | refused => exact .refl _
      | fault => exact ⟨rfl, ⟨.refl _, rfl, rfl⟩, rfl, rfl⟩
  | fund asset account amount =>
    simp only [bookAfter, after, fund]
    cases pool.state.custody.fund asset account amount with
    | ok => exact ⟨rfl, ⟨.refl _, rfl, rfl⟩, rfl, rfl⟩
    | error => exact .refl _
  | mint => exact ⟨rfl, ⟨.refl _, rfl, rfl⟩, rfl, rfl⟩
  | turn => exact .refl _

/-- Leaving the calls of the debt market out of a run in which custody carries out everything leaves
the pool as its books say. -/
lemma follow_filter (h : pool.Alike pool') (hr : pool.state.store.Reachable)
    {moves : List (Move O V N)} (hobeys : pool.Obeys Carries moves) :
    (pool.follow moves).Alike (pool'.bookFollow (moves.filter (!·.trades))) := by
  induction moves generalizing pool pool' with
  | nil => exact h
  | cons move moves ih =>
    obtain ⟨hcarries, hrest⟩ := hobeys
    have hafter := (bookAfter_alike_after hcarries).symm
    have hnext := pool.reachable_after hr move
    cases htrades : move.trades with
    | true =>
      have hsold := hafter.trans ((alike_bookAfter hr htrades).symm.trans h)
      simpa [follow, bookFollow, htrades] using ih hsold hnext hrest
    | false =>
      have hsame := hafter.trans (h.bookAfter htrades)
      simpa [follow, bookFollow, htrades] using ih hsame hnext hrest

/-! ## Two runs -/

/-- Let the store of a pool be reachable. Every action of the debt market that succeeds leaves alone
the reserves and what is supplied, the collateral, the wrapped collections, the mandates, the
indexes and the loans, apart from the debtor of a loan that is bought or claimed, whose seller is
paid the price or the bid and hands over the wrapped token of that loan.

And let two runs of the pool be the same up to the calls of the debt market. Then their books are
alike, and so are the pools themselves as long as custody carries out what is asked for. What a
token is worth, what is owed on it, how healthy its loan is and what an auction of it takes are the
same after both runs, at all prices and times. So is the outcome of every further call outside of
the debt market, up to the account that gets the collateral or the surplus of the loan that the call
is on. -/
theorem sales_neutral (h : pool.state.store.Reachable) :
    (∀ (action : UserAction) (caller : Account) (now : Nat) (reply : Reply)
        (facility : Facility V N) (effects : Effects), action.trades = true →
      action.run pool.prices ⟨pool.state.store, pool.vault, pool.venue⟩ caller now =
        .ok (reply, facility, effects) →
      action.Neutral caller pool.state.store facility.store effects.transfers ∧
        facility.vault = pool.vault ∧ facility.venue = pool.venue) ∧
    ∀ moves moves' : List (Move O V N),
      moves.filter (!·.trades) = moves'.filter (!·.trades) →
      (pool.Obeys Carries moves → pool.Obeys Carries moves' →
        (pool.follow moves).Alike (pool.follow moves')) ∧
      let run := pool.bookFollow moves
      let run' := pool.bookFollow moves'
      let store := run.state.store
      let store' := run'.state.store
      run.Alike run' ∧
      (∀ (prices : O) (item : Item) (now : Nat),
        store'.health prices item now = store.health prices item now ∧
        store'.auctionView prices item now = store.auctionView prices item now ∧
        (∀ asset, store'.collateralView prices item asset now =
          store.collateralView prices item asset now) ∧
        Tally (fun view view' => view' = { view with debtor := view'.debtor })
          (store.debtView prices item now) (store'.debtView prices item now)) ∧
      ∀ call : Call, call.action.trades = false →
        Tally
          (Commit.Alike store.poolAccount (call.action.debtor? store) (call.action.debtor? store'))
          (run.run call) (run'.run call) := by
  refine ⟨fun action caller now reply facility effects htrades hrun => ?_,
    fun moves moves' hmoves => ⟨fun hobeys hobeys' => ?_, ?_⟩⟩
  · have hb : pool.state.store.loans.Consistent := h.inStep.toConsistent
    exact (UserAction.run_serves hrun).neutral hb htrades
  · have hrest := follow_filter (.refl pool) h hobeys'
    rw [← hmoves] at hrest
    exact (follow_filter (.refl pool) h hobeys).trans hrest.symm
  · have hrest := bookFollow_filter (.refl pool) h moves'
    rw [← hmoves] at hrest
    have halike := (bookFollow_filter (.refl pool) h moves).trans hrest.symm
    have hstore := halike.state.store
    refine ⟨halike, fun prices item now => ?_, fun call => run_tally halike call⟩
    exact ⟨hstore.health_eq prices item now, hstore.auctionView_eq prices item now,
      fun asset => hstore.collateralView_eq prices item asset now, hstore.debtView prices item now⟩

end Pool

namespace SmallMarket

/-- The borrower offers its debt for 50 and the supplier buys it. -/
def reselling : List (Move PriceFeeds NoVault FlatVenue) :=
  [.call ⟨borrower, 0, .user (.list ⟨art, 1⟩ .fixedPrice 50 0)⟩,
    .fund coin supplier 50,
    .call ⟨supplier, 0, .user (.buyDebt ⟨art, 1⟩)⟩]

/-- After the sale the debt is the supplier's and not the borrower's. Its health is the same as
without the sale, at all prices and times, and so is the outcome of a repayment, up to the account
that gets the token back. -/
theorem reselling_neutral :
    (lent.bookFollow reselling).state.store.debtorOn ⟨art, 1⟩ = some supplier ∧
    (lent.bookFollow [.fund coin supplier 50]).state.store.debtorOn ⟨art, 1⟩ = some borrower ∧
    (∀ (prices : PriceFeeds) (now : Nat),
      (lent.bookFollow [.fund coin supplier 50]).state.store.health prices ⟨art, 1⟩ now =
        (lent.bookFollow reselling).state.store.health prices ⟨art, 1⟩ now) ∧
    ∀ (caller : Account) (now amount : Nat),
      Tally
        (Pool.Commit.Alike (lent.bookFollow reselling).state.store.poolAccount (some supplier)
          (some borrower))
        ((lent.bookFollow reselling).run ⟨caller, now, .user (.repay ⟨art, 1⟩ amount)⟩)
        ((lent.bookFollow [.fund coin supplier 50]).run
          ⟨caller, now, .user (.repay ⟨art, 1⟩ amount)⟩) := by
  have hsold : (lent.bookFollow reselling).state.store.debtorOn ⟨art, 1⟩ = some supplier := by
    decide +kernel
  have hunsold : (lent.bookFollow [.fund coin supplier 50]).state.store.debtorOn ⟨art, 1⟩ =
      some borrower := by
    decide +kernel
  obtain ⟨-, hruns⟩ := Pool.sales_neutral lent_reachable.store
  obtain ⟨-, -, hviews, hcalls⟩ := hruns reselling [.fund coin supplier 50] rfl
  generalize lent.bookFollow reselling = sold at *
  generalize lent.bookFollow [.fund coin supplier 50] = unsold at *
  refine ⟨hsold, hunsold, fun prices now => (hviews prices ⟨art, 1⟩ now).1,
    fun caller now amount => ?_⟩
  have hcall := hcalls ⟨caller, now, .user (.repay ⟨art, 1⟩ amount)⟩ rfl
  rw [← hsold, ← hunsold]
  exact hcall

end SmallMarket

end PooledCredit
