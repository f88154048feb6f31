import PooledCredit.Pool.State
import PooledCredit.Price.Feeds
import PooledCredit.Wire.Codec

/-!
# The written form of the state

The codecs of everything that a pool or a set of price feeds keeps. The fields of a record are
written in the order in which the record lists them.
-/

namespace PooledCredit

namespace Codec

/-- A token. -/
def item : Codec Item :=
  record (id.pair clock) (fun i => (i.collection, i.token)) fun (collection, token) =>
    ⟨collection, token⟩

/-- The settings of a pool. -/
def settings : Codec Settings :=
  record
    (id.pair <| id.pair <| clock.pair <| amount.pair <| clock.pair <| clock.pair <|
      clock.pair clock)
    (fun s => (s.poolAccount, s.treasury, s.maxPriceAge, s.debtDust, s.bidIncrement,
      s.maxRedeemShare, s.debtBidIncrement, s.maxDebtAuction))
    fun (poolAccount, treasury, maxPriceAge, debtDust, bidIncrement, maxRedeemShare,
        debtBidIncrement, maxDebtAuction) =>
      ⟨poolAccount, treasury, maxPriceAge, debtDust, bidIncrement, maxRedeemShare,
        debtBidIncrement, maxDebtAuction⟩

/-- A rate curve. -/
def rateModel : Codec RateModel :=
  record (amount.pair <| amount.pair <| amount.pair amount)
    (fun m => (m.optimal, m.base, m.slope1, m.slope2))
    fun (optimal, base, slope1, slope2) => ⟨optimal, base, slope1, slope2⟩

/-- A reserve. -/
def reserve : Codec Reserve :=
  record
    (id.pair <| byte.pair <| amount.pair <| amount.pair <| amount.pair <| amount.pair <|
      amount.pair <| amount.pair <| amount.pair <| amount.pair <| clock.pair <| amount.pair <|
        clock.pair <| clock.pair <| flag.pair <| flag.pair <| flag.pair rateModel)
    (fun r => (r.asset, r.decimals, r.supplyIndex, r.debtIndex, r.supplyRate, r.borrowRate,
      r.scaledSupply, r.scaledDebt, r.idle, r.invested, r.vaultShare, r.losses, r.updatedAt,
      r.factor, r.active, r.frozen, r.borrowing, r.model))
    fun (asset, decimals, supplyIndex, debtIndex, supplyRate, borrowRate, scaledSupply,
        scaledDebt, idle, invested, vaultShare, losses, updatedAt, factor, active, frozen,
        borrowing, model) =>
      ⟨asset, decimals, supplyIndex, debtIndex, supplyRate, borrowRate, scaledSupply, scaledDebt,
        idle, invested, vaultShare, losses, updatedAt, factor, active, frozen, borrowing, model⟩

/-- Amounts by account, by asset. -/
def amounts : Codec (SortedMap Asset (SortedMap Account Nat)) :=
  sortedMap id (sortedMap id amount)

/-- The reserve ledger. -/
def ledger : Codec Ledger :=
  record ((sortedMap id reserve).pair <| amounts.pair id)
    (fun l => (l.reserves, l.holdings, l.treasury))
    fun (reserves, holdings, treasury) => ⟨reserves, holdings, treasury⟩

/-- Collateral terms. -/
def terms : Codec CollateralTerms :=
  record
    (clock.pair <| clock.pair <| clock.pair <| clock.pair <| clock.pair <| clock.pair <|
      clock.pair <| amount.pair <| clock.pair clock)
    (fun t => (t.ltv, t.threshold, t.bonus, t.redeemWindow, t.bidWindow, t.fine,
      t.redeemThreshold, t.minFine, t.maxLoans, t.maxToken))
    fun (ltv, threshold, bonus, redeemWindow, bidWindow, fine, redeemThreshold, minFine,
        maxLoans, maxToken) =>
      ⟨ltv, threshold, bonus, redeemWindow, bidWindow, fine, redeemThreshold, minFine, maxLoans,
        maxToken⟩

/-- What holds for a collection. -/
def collateralConfig : Codec CollateralConfig :=
  record (terms.pair <| flag.pair <| flag.pair clock)
    (fun c => (c.terms, c.active, c.frozen, c.changedAt))
    fun (terms, active, frozen, changedAt) => ⟨terms, active, frozen, changedAt⟩

/-- The terms of a token. -/
def tokenTerms : Codec TokenTerms :=
  record (terms.pair clock) (fun t => (t.terms, t.changedAt))
    fun (terms, changedAt) => ⟨terms, changedAt⟩

/-- The collateral registry. -/
def registry : Codec CollateralRegistry :=
  record ((sortedMap id collateralConfig).pair (sortedMap item tokenTerms))
    (fun r => (r.collections, r.tokens)) fun (collections, tokens) => ⟨collections, tokens⟩

/-- The status of a loan. -/
def loanStatus : Codec LoanStatus := choice [.active, .auction, .repaid, .defaulted]

/-- A bid. -/
def bid : Codec Bid :=
  record (id.pair <| id.pair <| amount.pair <| amount.pair <| amount.pair clock)
    (fun b => (b.bidder, b.payer, b.price, b.debt, b.fine, b.startedAt))
    fun (bidder, payer, price, debt, fine, startedAt) =>
      ⟨bidder, payer, price, debt, fine, startedAt⟩

/-- A loan. -/
def loan : Codec Loan :=
  record
    (clock.pair <| id.pair <| id.pair <| item.pair <| item.pair <| id.pair <| amount.pair <|
      loanStatus.pair <| (optional bid).pair <| clock.pair clock)
    (fun l => (l.id, l.debtor, l.initiator, l.item, l.wrapped, l.asset, l.scaled, l.status,
      l.bid, l.createdAt, l.updatedAt))
    fun (id, debtor, initiator, item, wrapped, asset, scaled, status, bid, createdAt,
        updatedAt) =>
      ⟨id, debtor, initiator, item, wrapped, asset, scaled, status, bid, createdAt, updatedAt⟩

/-- A mandate. -/
def mandate : Codec Mandate :=
  record (id.pair id) (fun m => (m.delegator, m.delegatee)) fun (delegator, delegatee) =>
    ⟨delegator, delegatee⟩

/-- The loan book. -/
def loanBook : Codec LoanBook :=
  record
    (clock.pair <| (sortedMap clock loan).pair <| (sortedMap item clock).pair <|
      (sortedMap id clock).pair (sortedSet mandate))
    (fun b => (b.nextId, b.loans, b.openByItem, b.openByCollection, b.mandates))
    fun (nextId, loans, openByItem, openByCollection, mandates) =>
      ⟨nextId, loans, openByItem, openByCollection, mandates⟩

/-- The way a debt is sold. -/
def saleKind : Codec SaleKind := choice [.fixedPrice, .auction]

/-- The status of a listing. -/
def listingStatus : Codec ListingStatus := choice [.active, .sold, .cancelled]

/-- A listing. -/
def listing : Codec Listing :=
  record
    (id.pair <| item.pair <| clock.pair <| saleKind.pair <| id.pair <| amount.pair <|
      clock.pair <| (optional id).pair <| amount.pair <| listingStatus.pair clock)
    (fun l => (l.id, l.item, l.loan, l.kind, l.seller, l.price, l.endsAt, l.bidder, l.bid,
      l.status, l.createdAt))
    fun (id, item, loan, kind, seller, price, endsAt, bidder, bid, status, createdAt) =>
      ⟨id, item, loan, kind, seller, price, endsAt, bidder, bid, status, createdAt⟩

/-- The listing board. -/
def board : Codec ListingBoard :=
  record ((sortedMap id listing).pair <| (sortedMap item id).pair clock)
    (fun b => (b.listings, b.active, b.nonce))
    fun (listings, active, nonce) => ⟨listings, active, nonce⟩

/-- The wrapped collections. -/
def wrappers : Codec Wrappers :=
  record (sortedMap id id) Wrappers.wrapped Wrappers.mk

/-- The store. -/
def store : Codec Store :=
  record (settings.pair <| ledger.pair <| registry.pair <| loanBook.pair <| board.pair wrappers)
    (fun s => (s.settings, s.ledger, s.collateral, s.loans, s.board, s.wrappers))
    fun (settings, ledger, collateral, loans, board, wrappers) =>
      ⟨settings, ledger, collateral, loans, board, wrappers⟩

/-- A role. -/
def role : Codec Role := choice [.admin, .guardian, .riskManager, .publisher]

/-- An appointment. -/
def appointment : Codec Appointment :=
  record (id.pair <| role.pair <| clock.pair id)
    (fun a => (a.account, a.role, a.grantedAt, a.grantedBy))
    fun (account, role, grantedAt, grantedBy) => ⟨account, role, grantedAt, grantedBy⟩

/-- Who holds which role. -/
def roles : Codec RoleRegister :=
  record (id.pair <| (list appointment).pair clock)
    (fun r => (r.founder, r.appointments, r.updatedAt))
    fun (founder, appointments, updatedAt) => ⟨founder, appointments, updatedAt⟩

/-- One pause. -/
def pauseRecord : Codec PauseRecord :=
  record (id.pair <| clock.pair <| (optional id).pair (optional clock))
    (fun r => (r.pausedBy, r.pausedAt, r.liftedBy, r.liftedAt))
    fun (pausedBy, pausedAt, liftedBy, liftedAt) => ⟨pausedBy, pausedAt, liftedBy, liftedAt⟩

/-- The pause switch. -/
def pauseSwitch : Codec PauseSwitch :=
  record (flag.pair <| (list pauseRecord).pair clock)
    (fun s => (s.paused, s.history, s.updatedAt))
    fun (paused, history, updatedAt) => ⟨paused, history, updatedAt⟩

/-- Custody. -/
def custody : Codec Custody :=
  record (amounts.pair (sortedMap item id)) (fun c => (c.balances, c.owners))
    fun (balances, owners) => ⟨balances, owners⟩

/-- The state of a pool. -/
def poolState : Codec PoolState :=
  record (store.pair <| roles.pair <| pauseSwitch.pair custody)
    (fun s => (s.store, s.roles, s.pause, s.custody))
    fun (store, roles, pause, custody) => ⟨store, roles, pause, custody⟩

/-- A published price. -/
def quote : Codec Quote :=
  record (amount.pair clock) (fun q => (q.price, q.updatedAt))
    fun (price, updatedAt) => ⟨price, updatedAt⟩

/-- Price feeds. -/
def feeds : Codec PriceFeeds :=
  record
    (roles.pair <| flag.pair <| clock.pair <| (sortedMap id quote).pair <|
      (sortedMap id quote).pair (sortedMap item quote))
    (fun f => (f.roles, f.active, f.maxDeviation, f.assets, f.floors, f.appraisals))
    fun (roles, active, maxDeviation, assets, floors, appraisals) =>
      ⟨roles, active, maxDeviation, assets, floors, appraisals⟩

end Codec

end PooledCredit
