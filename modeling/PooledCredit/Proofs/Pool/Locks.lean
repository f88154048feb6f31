import Mathlib.Logic.Function.Basic
import PooledCredit.Proofs.Loans.Counts
import PooledCredit.Proofs.Pool.Obligations

/-!
# Locked bids

While a bid stands, the pool account holds its price for the account that paid it: the price is
locked. A bid stands on a loan under auction or on an active listing, and `Store.lockOn` tells what
is locked at each of these places. Locks are of positive amounts and for other accounts than the
pool's, so that neither locking a bid nor refunding it is one of the payments that
`Transfer.payment` leaves out.
-/

namespace PooledCredit

/-- What the pool account holds for the account that paid it as a bid. -/
structure Lock where
  asset : Asset
  payer : Account
  amount : Nat
deriving DecidableEq

namespace Lock

/-- The transfer that brings the amount to the pool account. -/
def deposit (lock : Lock) (pool : Account) : Transfer := .pay lock.asset lock.payer pool lock.amount

/-- The transfer that gives the amount back. -/
def refund (lock : Lock) (pool : Account) : Transfer := .pay lock.asset pool lock.payer lock.amount

end Lock

/-- Where a bid can stand. -/
inductive Slot where
  | loan (id : LoanId)
  | listing (id : ListingId)
deriving DecidableEq

/-- What the bid on a loan locks. -/
def Loan.lock (loan : Loan) : Option Lock :=
  loan.bid.map fun bid => ⟨loan.asset, bid.payer, bid.price⟩

/-- What the bid on an active listing locks, in the asset of the listed loan. -/
def Listing.lock (book : LoanBook) (listing : Listing) : Option Lock :=
  if listing.status = .active then
    listing.bidder.bind fun payer =>
      (book.loan? listing.loan).map fun loan => ⟨loan.asset, payer, listing.bid⟩
  else none

/-- What is locked in a slot. -/
def Store.lockOn (store : Store) : Slot → Option Lock
  | .loan id => (store.loans.loan? id).bind Loan.lock
  | .listing id => (store.board.listing? id).bind (Listing.lock store.loans)

/-- A payment of a positive amount to another account is one transfer. -/
lemma Transfer.payment_eq {asset : Asset} {source target : Account} {amount : Nat}
    (hamount : amount ≠ 0) (hne : source ≠ target) :
    payment asset source target amount = [pay asset source target amount] :=
  if_neg (not_or.mpr ⟨hamount, hne⟩)

/-- A payment is made by its source. -/
lemma Transfer.source_of_mem_payment {asset asset' : Asset} {amount amount' : Nat}
    {source source' target target' : Account}
    (h : pay asset source target amount ∈ payment asset' source' target' amount') :
    source = source' := by
  unfold payment at h
  split at h
  · exact absurd h List.not_mem_nil
  · exact (Transfer.pay.inj (List.mem_singleton.mp h)).2.1

/-- Handing over a token pays nothing. -/
lemma Transfer.pay_notMem_handover {asset : Asset} {source target source' target' : Account}
    {amount : Nat} {item : Item} :
    pay asset source target amount ∉ handover item source' target' := by
  unfold handover
  split
  · exact List.not_mem_nil
  · exact fun h => nomatch List.mem_singleton.mp h

/-- Giving the tokens of a loan back pays nothing. -/
lemma Store.pay_notMem_release {store : Store} {loan : Loan} {closed : Bool} {asset : Asset}
    {source target : Account} {amount : Nat} :
    Transfer.pay asset source target amount ∉ store.release loan closed := by
  unfold release
  split
  · intro h
    rcases List.mem_append.mp h with hhandover | hburn
    · exact Transfer.pay_notMem_handover hhandover
    · exact nomatch List.mem_singleton.mp hburn
  · exact List.not_mem_nil

/-! ## Reading locks -/

/-- A bid on a loan locks its price. -/
lemma Loan.lock_of_bid {loan : Loan} {bid : Bid} (h : loan.bid = some bid) :
    loan.lock = some ⟨loan.asset, bid.payer, bid.price⟩ := by
  rw [lock, h]
  rfl

/-- Without a bid nothing is locked on a loan. -/
lemma Loan.lock_of_none {loan : Loan} (h : loan.bid = none) : loan.lock = none := by
  rw [lock, h]
  rfl

/-- The bid on an active listing locks its amount. -/
lemma Listing.lock_of_found {book : LoanBook} {listing : Listing} {loan : Loan}
    (hactive : listing.status = .active) (hfound : book.loan? listing.loan = some loan) :
    listing.lock book = listing.bidder.map fun payer => ⟨loan.asset, payer, listing.bid⟩ := by
  rw [lock, if_pos hactive, hfound]
  cases listing.bidder <;> rfl

/-- Nothing is locked on a listing that has ended. -/
lemma Listing.lock_of_ended {book : LoanBook} {listing : Listing} (h : listing.status ≠ .active) :
    listing.lock book = none :=
  if_neg h

/-- Without a bid nothing is locked on a listing. -/
lemma Listing.lock_of_none {book : LoanBook} {listing : Listing} (h : listing.bidder = none) :
    listing.lock book = none := by
  rw [lock, h]
  exact ite_self none

namespace Store

variable {store : Store} {caller : Account} {item : Item} {amount now : Nat}

/-- What is locked in the slot of a loan on record. -/
lemma lockOn_loan {id : LoanId} {loan : Loan} (h : store.loans.loan? id = some loan) :
    store.lockOn (.loan id) = loan.lock := by
  rw [lockOn, h]
  rfl

/-- What is locked in the slot of a listing on the board. -/
lemma lockOn_listing {id : ListingId} {listing : Listing}
    (h : store.board.listing? id = some listing) :
    store.lockOn (.listing id) = listing.lock store.loans := by
  rw [lockOn, h]
  rfl

/-! ## Changes of the loans and the board -/

/-- Rewriting one loan changes at most what is locked on that loan. -/
lemma Orderly.lockOn_rewrite (h : store.Orderly) (ledger : Ledger) {loans : LoanBook} {id : LoanId}
    {loan : Loan} (hloans : loans.loans = store.loans.loans.insert id loan)
    (hasset : ∀ old, store.loans.loan? id = some old → loan.asset = old.asset) :
    { store with ledger, loans }.lockOn = Function.update store.lockOn (.loan id) loan.lock := by
  funext slot
  cases slot with
  | loan other =>
    show (loans.loan? other).bind Loan.lock = _
    rw [LoanBook.loan?_insert hloans]
    by_cases hid : other = id
    · rw [hid, Function.update_self, if_pos rfl]
      rfl
    · rw [Function.update_of_ne fun heq => hid (Slot.loan.inj heq), if_neg hid]
      rfl
  | listing other =>
    rw [Function.update_of_ne (show Slot.listing other ≠ .loan id from nofun)]
    show (store.board.listing? other).bind (Listing.lock loans) = store.lockOn (.listing other)
    cases hlisting : store.board.listing? other with
    | none =>
      rw [lockOn, hlisting]
      rfl
    | some listing =>
      obtain ⟨listed, hlisted⟩ := h.backed other listing hlisting
      obtain ⟨listed', hlisted', hsame⟩ := loansKept_insert hloans hasset _ _ hlisted
      rw [lockOn_listing hlisting, Option.bind_some]
      simp only [Listing.lock, hlisted, hlisted', Option.map_some, hsame]

/-- Replacing a loan on record by one in the same asset changes at most what is locked on it. -/
lemma Orderly.lockOn_replace (h : store.Orderly) (ledger : Ledger) {loans : LoanBook} {id : LoanId}
    {old loan : Loan} (hold : store.loans.loan? id = some old)
    (hloans : loans.loans = store.loans.loans.insert id loan) (hasset : loan.asset = old.asset) :
    { store with ledger, loans }.lockOn = Function.update store.lockOn (.loan id) loan.lock :=
  h.lockOn_rewrite ledger hloans fun found hfound => by
    rw [hold] at hfound
    rw [hasset, Option.some.inj hfound]

/-- Storing a loan under its number, in the same asset, changes at most what is locked on it. -/
lemma Orderly.lockOn_setLoan (h : store.Orderly) (ledger : Ledger) {old : Loan} (loan : Loan)
    (hold : store.loans.loan? loan.id = some old) (hasset : loan.asset = old.asset) :
    { store with ledger, loans := store.loans.setLoan loan }.lockOn =
      Function.update store.lockOn (.loan loan.id) loan.lock :=
  h.lockOn_replace ledger hold rfl hasset

/-- Rewriting one listing changes at most what is locked on that listing. -/
lemma lockOn_listings (store : Store) {board : ListingBoard} {id : ListingId} {listing : Listing}
    (hlistings : board.listings = store.board.listings.insert id listing) :
    { store with board }.lockOn =
      Function.update store.lockOn (.listing id) (listing.lock store.loans) := by
  funext slot
  cases slot with
  | loan other =>
    rw [Function.update_of_ne (show Slot.loan other ≠ .listing id from nofun)]
    rfl
  | listing other =>
    show (board.listing? other).bind (Listing.lock store.loans) = _
    rw [ListingBoard.listing?_insert hlistings]
    by_cases hid : other = id
    · rw [hid, Function.update_self, if_pos rfl]
      rfl
    · rw [Function.update_of_ne fun heq => hid (Slot.listing.inj heq), if_neg hid]
      rfl

/-- Storing a listing under its name changes at most what is locked on it. -/
lemma lockOn_setListing (store : Store) (listing : Listing) :
    { store with board := store.board.setListing listing }.lockOn =
      Function.update store.lockOn (.listing listing.id) (listing.lock store.loans) :=
  store.lockOn_listings rfl

/-- Ending a listing leaves nothing locked on it. -/
lemma lockOn_finish (store : Store) (listing : Listing) {status : ListingStatus}
    (hstatus : status ≠ .active) :
    { store with board := store.board.finish listing status }.lockOn =
      Function.update store.lockOn (.listing listing.id) none := by
  have hlistings : (store.board.finish listing status).listings =
      store.board.listings.insert listing.id { listing with status } := rfl
  rw [store.lockOn_listings hlistings, Listing.lock_of_ended hstatus]

/-- A slot that keeps what is locked in it does not change. -/
lemma update_lockOn {slot : Slot} {lock : Option Lock} (h : store.lockOn slot = lock) :
    Function.update store.lockOn slot lock = store.lockOn := by
  rw [← h, Function.update_eq_self]

/-- A change that keeps the loans and the listings keeps every lock. -/
lemma lockOn_frame {store' : Store} (hloans : store'.loans = store.loans)
    (hboard : store'.board = store.board) : store'.lockOn = store.lockOn := by
  funext slot
  cases slot with
  | loan id => rw [lockOn, lockOn, hloans]
  | listing id => rw [lockOn, lockOn, hloans, hboard]

/-! ## Bids of others -/

/-- A bid for a debt raises the bid before it. -/
lemma BidDebtSteps.raises (s : BidDebtSteps store caller item amount now) {payer : Account}
    (hbid : s.listing.bidder = some payer) : s.listing.bid < amount := by
  have hrequires := s.requires
  simp only [nextDebtBid, hbid, bind_eq_ok, addAmount_eq_ok] at hrequires
  obtain ⟨step, hstep, -, hsum⟩ := hrequires
  have hpos := bidStep_pos hstep
  have hcovers := s.covers
  omega

/-- Nobody bids nothing for a debt that has a price. -/
lemma BidDebtSteps.amount_ne_zero (s : BidDebtSteps store caller item amount now)
    (hpriced : s.listing.price ≠ 0) : amount ≠ 0 := by
  cases hbid : s.listing.bidder with
  | none =>
    have hrequires := s.requires
    simp only [nextDebtBid, hbid] at hrequires
    have hcovers := s.covers
    rw [← Except.ok.inj hrequires] at hcovers
    omega
  | some payer => exact Nat.ne_zero_of_lt (s.raises hbid)

end Store

/-- A listing with a price that is not the pool's own, and whose bid, which only an auction has, is
a positive amount of another account than the pool's. -/
structure Listing.OfOthers (pool : Account) (listing : Listing) : Prop where
  priced : listing.price ≠ 0
  seller : listing.seller ≠ pool
  bids : ∀ payer, listing.bidder = some payer →
    payer ≠ pool ∧ listing.bid ≠ 0 ∧ listing.kind = .auction

variable {O V N : Type} [PriceSource O] [Vault V] [Venue N] {prices : O} {store : Store}
variable {vault : V} {venue : N} {facility : Facility V N} {caller : Account} {now : Nat}
variable {action : UserAction} {transfers : List Transfer}

/-- A step leaves the bid of before or a new one, of a positive price that the caller pays. -/
lemma Loan.Advances.bid_of {loan loan' : Loan}
    (h : loan.Advances prices store caller now action transfers loan') {bid : Bid}
    (hbid : loan'.bid = some bid) : loan.bid = some bid ∨ bid.price ≠ 0 ∧ bid.payer = caller := by
  cases h with
  | auctioned _ _ _ _ _ priced =>
    obtain rfl := Option.some.inj hbid
    exact .inr ⟨priced, rfl⟩
  | outbid _ _ _ _ raises =>
    obtain rfl := Option.some.inj hbid
    exact .inr ⟨Nat.ne_zero_of_lt raises, rfl⟩
  | paidDown | bought | claimed => exact .inl hbid
  | repaid | redeemed | reclaimed | liquidated | sold | soldOver => cases hbid

namespace Store

/-- An orderly store whose loan book is in step and in which no bid is the pool's own or of
nothing. -/
structure BidsOfOthers (store : Store) : Prop extends store.Orderly where
  inStep : store.loans.InStep
  loans : ∀ id loan bid, store.loans.loan? id = some loan → loan.bid = some bid →
    bid.price ≠ 0 ∧ bid.payer ≠ store.poolAccount
  listings : ∀ id listing, store.board.listing? id = some listing →
    listing.OfOthers store.poolAccount

namespace BidsOfOthers

/-- An empty store has no bids. -/
lemma created {settings : Settings} (h : Store.create settings = .ok store) :
    store.BidsOfOthers := by
  obtain rfl := create_eq_ok h
  exact {
    book := LoanBook.consistent_empty
    board := ListingBoard.consistent_empty
    backed := fun _ _ hl => nomatch hl
    inStep := .empty
    loans := fun _ _ _ hl => nomatch hl
    listings := fun _ _ hl => nomatch hl }

/-- A change that keeps the settings, the loans and the listings keeps the bids. -/
lemma frame (h : store.BidsOfOthers) {store' : Store} (hsettings : store'.settings = store.settings)
    (hloans : store'.loans = store.loans) (hboard : store'.board = store.board) :
    store'.BidsOfOthers where
  toOrderly := h.toOrderly.frame hloans hboard
  inStep := hloans ▸ h.inStep
  loans := by
    rw [hloans, poolAccount, hsettings]
    exact h.loans
  listings := by
    rw [hboard, poolAccount, hsettings]
    exact h.listings

/-- An active listing on a token is one of others. -/
lemma of_activeListing? (h : store.BidsOfOthers) {item : Item} {listing : Listing}
    (hlisted : store.board.activeListing? item = some listing) :
    listing.OfOthers store.poolAccount :=
  h.listings _ _ (h.board.of_activeListing? hlisted).1

/-- An active loan has no bid. -/
lemma no_bid (h : store.BidsOfOthers) {id : LoanId} {loan : Loan}
    (hloan : store.loans.loan? id = some loan) (hactive : loan.status = .active) :
    loan.bid = none := by
  cases hbid : loan.bid with
  | none => rfl
  | some bid =>
    have hauction : loan.status = .auction :=
      (h.inStep.bids id loan hloan).mp (by rw [hbid, Option.isSome_some])
    exact absurd (hactive.symm.trans hauction) nofun

/-- Storing a listing of others keeps the listings those of others. -/
lemma setListing (h : store.BidsOfOthers) {board : ListingBoard} {id : ListingId}
    {listing : Listing} (hlistings : board.listings = store.board.listings.insert id listing)
    (hnew : listing.OfOthers store.poolAccount) (other : ListingId) (found : Listing)
    (hfound : board.listing? other = some found) : found.OfOthers store.poolAccount := by
  rw [ListingBoard.listing?_insert hlistings] at hfound
  split at hfound
  · obtain rfl := Option.some.inj hfound
    exact hnew
  · exact h.listings other found hfound

/-- Ending a listing keeps the listings those of others. -/
lemma finish (h : store.BidsOfOthers) {item : Item} {listing : Listing} (status : ListingStatus)
    (hlisted : store.board.activeListing? item = some listing) (other : ListingId) (found : Listing)
    (hfound : (store.board.finish listing status).listing? other = some found) :
    found.OfOthers store.poolAccount := by
  obtain ⟨hpriced, hseller, hbids⟩ := h.of_activeListing? hlisted
  have hended : Listing.OfOthers store.poolAccount { listing with status } :=
    ⟨hpriced, hseller, hbids⟩
  exact h.setListing rfl hended other found hfound

/-- Every action of another account than the pool's keeps the listings those of others. -/
lemma listings_served (h : store.BidsOfOthers) (hcaller : caller ≠ store.poolAccount)
    (hs : action.Serves prices store vault venue caller now facility transfers) (id : ListingId)
    (listing : Listing) (hlisting : facility.store.board.listing? id = some listing) :
    listing.OfOthers store.poolAccount := by
  cases hs with
  | deposit | withdraw | borrow | repay | setMandate | bid | redeem =>
    exact h.listings id listing hlisting
  | liquidate s | sell s =>
    obtain ⟨_, -, hstore, -⟩ := settle_eq_ok s.settles
    rw [hstore] at hlisting
    exact h.listings id listing hlisting
  | list s =>
    have hlistings := congrArg ListingBoard.listings (ListingBoard.post_eq_ok s.posts)
    exact h.setListing hlistings ⟨s.priced, hcaller, nofun⟩ id listing hlisting
  | buyDebt s | claimDebt s =>
    obtain ⟨_, -, -, hstore⟩ := passDebt_eq_ok s.passes
    rw [hstore] at hlisting
    exact h.finish .sold s.listed id listing hlisting
  | @bidDebt _ amount s =>
    obtain ⟨hpriced, hseller, -⟩ := h.of_activeListing? s.listed
    have hbidden : Listing.OfOthers store.poolAccount
        { s.listing with bidder := some caller, bid := amount } := by
      refine ⟨hpriced, hseller, fun payer hpayer => ?_⟩
      rw [← Option.some.inj hpayer]
      exact ⟨hcaller, s.amount_ne_zero hpriced, s.auction⟩
    exact h.setListing rfl hbidden id listing hlisting
  | cancelListing s => exact h.finish .cancelled s.listed id listing hlisting

/-- Every action of another account than the pool's keeps the bids those of others, provided that a
new listing gets a new name. -/
lemma user (h : store.BidsOfOthers) (hcaller : caller ≠ store.poolAccount)
    (hfree : action.NameFree store)
    (hs : action.Serves prices store vault venue caller now facility transfers) :
    facility.store.BidsOfOthers := by
  have hpool : facility.store.poolAccount = store.poolAccount :=
    congrArg Settings.poolAccount hs.settings
  have hrecords := hs.records h.book
  refine ⟨h.toOrderly.served hfree hs, hrecords.inStep h.inStep, ?_, ?_⟩
  · intro id loan bid hloan hbid
    rw [hpool]
    have halters := hrecords.alters h.book id
    rw [hloan] at halters
    generalize hold : store.loans.loan? id = old at halters
    cases halters with
    | kept => exact h.loans id loan bid hold hbid
    | opened => cases hbid
    | @advanced _ _ before _ advances =>
      rcases advances.bid_of hbid with hsame | ⟨hprice, hpayer⟩
      · exact h.loans id before bid hold hsame
      · exact ⟨hprice, hpayer ▸ hcaller⟩
  · rw [hpool]
    exact h.listings_served hcaller hs

end BidsOfOthers

end Store

end PooledCredit
