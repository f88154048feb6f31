import PooledCredit.Proofs.Requests.Lending
import PooledCredit.Resale.Trade

/-!
# What selling a debt does

The requests of the debt market, read like those of lending. None of them touches a reserve or
the amount of a debt.
-/

namespace PooledCredit

/-- Posting stores a listing under its name and makes it the active one on its token. -/
lemma ListingBoard.post_eq_ok {board board' : ListingBoard} {listing : Listing}
    (h : board.post listing = .ok board') :
    board' = { board with
      listings := board.listings.insert listing.id listing
      active := board.active.insert listing.item listing.id
      nonce := board.nonce + 1 } := by
  simp only [post, bind_eq_ok, fitClock_eq_ok, pure_eq_ok] at h
  obtain ⟨_, ⟨-, rfl⟩, rfl⟩ := h
  rfl

namespace Store

variable {store : Store} {caller : Account} {item : Item} {now : Nat}

/-- A listing is not stale exactly when its loan is the open one on the token, is active and
still belongs to the seller. -/
lemma isStale_eq_false {listing : Listing} :
    store.isStale listing = false ↔
      ∃ loan, store.loans.openLoan? listing.item = some loan ∧ loan.id = listing.loan ∧
        loan.status = .active ∧ loan.debtor = listing.seller := by
  unfold isStale
  cases h : store.loans.openLoan? listing.item with
  | none => simp
  | some loan => simp [and_assoc]

/-! ## Listing -/

/-- The steps of listing the debt of an active loan on a token without an active listing. -/
structure ListSteps (store : Store) (caller : Account) (item : Item) (kind : SaleKind)
    (price endsAt now : Nat) where
  loan : Loan
  /-- When the auction ends. -/
  ending : Nat
  board : ListingBoard
  isOpen : store.loans.openLoan? item = some loan
  owned : loan.debtor = caller
  active : loan.status = .active
  unlisted : store.board.activeListing? item = none
  priced : price ≠ 0
  ends : auctionEnd store.settings kind endsAt now = .ok ending
  posts : store.board.post
    { id := Listing.nameFor item loan.id store.board.nonce
      item
      loan := loan.id
      kind
      seller := caller
      price
      endsAt := ending
      bidder := none
      bid := 0
      status := .active
      createdAt := now } = .ok board

/-- A listing goes to the board. -/
lemma list_eq_ok {kind : SaleKind} {price endsAt : Nat} {outcome : Outcome ListingId}
    (h : store.list caller item kind price endsAt now = .ok outcome) :
    ∃ s : ListSteps store caller item kind price endsAt now,
      outcome = {
        reply := Listing.nameFor item s.loan.id store.board.nonce
        store := { store with board := s.board }
        effects := {
          events :=
            [.debtListed (Listing.nameFor item s.loan.id store.board.nonce) item caller kind
              price s.ending now] } } := by
  simp only [list, LoanBook.openLoan, Loan.requireStatus, bind_eq_ok, require_eq_ok, exists_const,
    orRefuse_eq_ok] at h
  obtain ⟨loan, isOpen, owned, active, h⟩ := h
  split at h
  · exact (refuse_eq_ok.mp h).elim
  · next unlisted =>
    simp only [bind_eq_ok, require_eq_ok, exists_const, pure_eq_ok] at h
    obtain ⟨priced, ending, ends, board, posts, rfl⟩ := h
    exact ⟨⟨loan, ending, board, isOpen, owned, active, unlisted, priced, ends, posts⟩, rfl⟩

/-! ## Passing a debt -/

/-- The steps of passing a debt: the open loan on the token of a listing, and the listed loan,
whose wrapped token is handed over. -/
structure PassSteps (store : Store) (listing : Listing) (buyer : Account) where
  loan : Loan
  listed : Loan
  isOpen : store.loans.openLoan? listing.item = some loan
  found : (store.loans.setLoan { loan with debtor := buyer }).loan? listing.loan = some listed

/-- The loan book after a debt is passed. -/
def PassSteps.passed {listing : Listing} {buyer : Account} (s : PassSteps store listing buyer) :
    LoanBook :=
  store.loans.setLoan { s.loan with debtor := buyer }

/-- Passing a debt makes the buyer the debtor and ends the listing. -/
lemma passDebt_eq_ok {listing : Listing} {buyer : Account} {asset : Asset}
    {transfers : List Transfer} {store' : Store}
    (h : store.passDebt listing buyer = .ok (asset, transfers, store')) :
    ∃ s : PassSteps store listing buyer,
      asset = s.loan.asset ∧
      transfers = Transfer.handover s.listed.wrapped listing.seller buyer ∧
      store' =
        { store with loans := s.passed, board := store.board.finish listing .sold } := by
  simp only [passDebt, listedLoan, LoanBook.openLoan, bind_eq_ok, orRefuse_eq_ok, pure_eq_ok,
    Prod.mk.injEq] at h
  obtain ⟨loan, isOpen, listed, found, rfl, rfl, rfl⟩ := h
  exact ⟨⟨loan, listed, isOpen, found⟩, rfl, rfl, rfl⟩

/-- The steps of buying the debt of a current listing at its fixed price. -/
structure BuyDebtSteps (store : Store) (caller : Account) (item : Item) where
  listing : Listing
  asset : Asset
  /-- The transfer of the wrapped token. -/
  handover : List Transfer
  store' : Store
  listed : store.board.activeListing? item = some listing
  fixed : listing.kind = .fixedPrice
  notOwn : listing.seller ≠ caller
  current : store.isStale listing = false
  passes : store.passDebt listing caller = .ok (asset, handover, store')

/-- A purchase pays the price to the seller and passes the debt. -/
lemma buyDebt_eq_ok {outcome : Outcome Unit} (h : store.buyDebt caller item now = .ok outcome) :
    ∃ s : BuyDebtSteps store caller item,
      outcome = {
        reply := ()
        store := s.store'
        effects := {
          transfers :=
            Transfer.payment s.asset caller s.listing.seller s.listing.price ++ s.handover
          events :=
            [.debtSold s.listing.id s.listing.item s.listing.seller caller s.listing.price
              now] } } := by
  simp only [buyDebt, ListingBoard.activeListing, requireCurrent, bind_eq_ok, require_eq_ok,
    exists_const, orRefuse_eq_ok, pure_eq_ok, Prod.exists] at h
  obtain ⟨listing, listed, fixed, notOwn, current, asset, handover, store', passes, rfl⟩ := h
  exact ⟨⟨listing, asset, handover, store', listed, fixed, notOwn, current, passes⟩, rfl⟩

/-! ## Bidding for a debt -/

/-- The steps of bidding in the auction of a current listing. -/
structure BidDebtSteps (store : Store) (caller : Account) (item : Item) (amount now : Nat) where
  listing : Listing
  required : Nat
  loan : Loan
  listed : store.board.activeListing? item = some listing
  auction : listing.kind = .auction
  notOwn : listing.seller ≠ caller
  inTime : now < listing.endsAt
  current : store.isStale listing = false
  requires : nextDebtBid store.settings listing = .ok required
  covers : required ≤ amount
  found : store.loans.loan? listing.loan = some loan

/-- A bid for a debt locks its amount with the pool and refunds the bid before it. -/
lemma bidDebt_eq_ok {amount : Nat} {outcome : Outcome Unit}
    (h : store.bidDebt caller item amount now = .ok outcome) :
    ∃ s : BidDebtSteps store caller item amount now,
      outcome = {
        reply := ()
        store := { store with
          board :=
            store.board.setListing { s.listing with bidder := some caller, bid := amount } }
        effects := {
          transfers :=
            (s.listing.bidder.elim [] fun bidder =>
              Transfer.payment s.loan.asset store.poolAccount bidder s.listing.bid) ++
              Transfer.payment s.loan.asset caller store.poolAccount amount
          events := [.debtBid s.listing.id item caller amount now] } } := by
  simp only [bidDebt, ListingBoard.activeListing, requireCurrent, listedLoan, bind_eq_ok,
    require_eq_ok, exists_const, orRefuse_eq_ok, pure_eq_ok] at h
  obtain ⟨listing, listed, auction, notOwn, inTime, current, required, requires, covers, loan,
    found, rfl⟩ := h
  refine ⟨⟨listing, required, loan, listed, auction, notOwn, inTime, current, requires, covers,
    found⟩, ?_⟩
  cases listing.bidder <;> rfl

/-- The steps of claiming the debt of a current listing whose auction has ended with a bid. -/
structure ClaimDebtSteps (store : Store) (item : Item) (now : Nat) where
  listing : Listing
  buyer : Account
  asset : Asset
  /-- The transfer of the wrapped token. -/
  handover : List Transfer
  store' : Store
  listed : store.board.activeListing? item = some listing
  auction : listing.kind = .auction
  ended : listing.endsAt ≤ now
  sold : listing.bidder = some buyer
  current : store.isStale listing = false
  passes : store.passDebt listing buyer = .ok (asset, handover, store')

/-- A claim leaves the account of the pool as it is. -/
lemma ClaimDebtSteps.poolAccount_eq (s : ClaimDebtSteps store item now) :
    s.store'.poolAccount = store.poolAccount := by
  obtain ⟨_, -, -, hstore⟩ := passDebt_eq_ok s.passes
  rw [hstore]
  rfl

/-- A claim pays the highest bid to the seller and passes the debt to its bidder. -/
lemma claimDebt_eq_ok {outcome : Outcome Account} (h : store.claimDebt item now = .ok outcome) :
    ∃ s : ClaimDebtSteps store item now,
      outcome = {
        reply := s.buyer
        store := s.store'
        effects := {
          transfers :=
            Transfer.payment s.asset s.store'.poolAccount s.listing.seller s.listing.bid ++
              s.handover
          events :=
            [.debtClaimed s.listing.id s.listing.item s.listing.seller s.buyer s.listing.bid
              now] } } := by
  simp only [claimDebt, ListingBoard.activeListing, requireCurrent, bind_eq_ok, require_eq_ok,
    exists_const, orRefuse_eq_ok, pure_eq_ok, Prod.exists] at h
  obtain ⟨listing, listed, auction, ended, buyer, sold, current, asset, handover, store', passes,
    rfl⟩ := h
  exact ⟨⟨listing, buyer, asset, handover, store', listed, auction, ended, sold, current, passes⟩,
    rfl⟩

/-! ## Cancelling -/

/-- The steps of cancelling a listing that is the caller's own or stale. The bid on it, if there
is one, is refunded in the asset of the listed loan. -/
structure CancelSteps (store : Store) (caller : Account) (item : Item) where
  listing : Listing
  refunded : Nat
  refund : List Transfer
  listed : store.board.activeListing? item = some listing
  allowed : listing.seller = caller ∨ store.isStale listing = true
  refunds :
    (listing.bidder = none ∧ refunded = 0 ∧ refund = []) ∨
    ∃ bidder loan, listing.bidder = some bidder ∧ store.loans.loan? listing.loan = some loan ∧
      refunded = listing.bid ∧
      refund = Transfer.payment loan.asset store.poolAccount bidder listing.bid

/-- A cancellation ends the listing and refunds its bid. -/
lemma cancelListing_eq_ok {outcome : Outcome Nat}
    (h : store.cancelListing caller item now = .ok outcome) :
    ∃ s : CancelSteps store caller item,
      outcome = {
        reply := s.refunded
        store := { store with board := store.board.finish s.listing .cancelled }
        effects := {
          transfers := s.refund
          events := [.listingCancelled s.listing.id s.listing.item s.refunded now] } } := by
  simp only [cancelListing, ListingBoard.activeListing, bind_eq_ok, require_eq_ok, exists_const,
    orRefuse_eq_ok] at h
  obtain ⟨listing, listed, allowed, h⟩ := h
  split at h
  · next bidder hbidder =>
    simp only [listedLoan, bind_eq_ok, orRefuse_eq_ok, pure_eq_ok] at h
    obtain ⟨loan, found, _, rfl, rfl⟩ := h
    exact ⟨⟨listing, _, _, listed, allowed, .inr ⟨bidder, loan, hbidder, found, rfl, rfl⟩⟩, rfl⟩
  · next hbidder =>
    simp only [bind_eq_ok, pure_eq_ok] at h
    obtain ⟨_, rfl, rfl⟩ := h
    exact ⟨⟨listing, _, _, listed, allowed, .inl ⟨hbidder, rfl, rfl⟩⟩, rfl⟩

end Store

end PooledCredit
