import PooledCredit.Proofs.Reserves.Balances
import PooledCredit.Proofs.Resale.Board
import PooledCredit.Proofs.Runs

/-!
# What the pool account must hold

In each asset the pool account holds the funds of the reserve, the bids that are locked on loans
under auction and the bids that are locked on active listings. `Store.obligations` adds the three
up; the lemmas here say how the operations of the ledger, the loan book and the board change the
sum.
-/

namespace PooledCredit

/-- What is locked in an asset by the bid on a loan under auction. -/
def Loan.lockedBid (asset : Asset) (loan : Loan) : Nat :=
  if loan.status = .auction ∧ loan.asset = asset then loan.bid.elim 0 Bid.price else 0

/-- What is locked in an asset by the bid on an active listing, which is paid in the asset of the
listed loan. -/
def Listing.lockedBid (book : LoanBook) (asset : Asset) (listing : Listing) : Nat :=
  if listing.status = .active ∧ (book.loan? listing.loan).map Loan.asset = some asset then
    listing.bid
  else 0

namespace Store

/-- What the pool account must hold of an asset: the funds of its reserve and every locked
bid. -/
def obligations (store : Store) (asset : Asset) : Nat :=
  store.ledger.fundsOf asset + store.loans.loans.total (Loan.lockedBid asset) +
    store.board.listings.total (Listing.lockedBid store.loans asset)

/-- The loan book and the board are consistent, and every listing is of a loan on record. -/
structure Orderly (store : Store) : Prop where
  book : store.loans.Consistent
  board : store.board.Consistent
  backed : ∀ id listing, store.board.listing? id = some listing →
    ∃ loan, store.loans.loan? listing.loan = some loan

variable {store : Store}

/-! ## Changes of the ledger, the loans and the board -/

/-- A new ledger changes the obligations by what it changes of the funds. -/
lemma obligations_ledger (store : Store) (ledger : Ledger) (asset : Asset) :
    { store with ledger }.obligations asset + store.ledger.fundsOf asset =
      store.obligations asset + ledger.fundsOf asset := by
  simp only [obligations]
  omega

/-- The loans on record keep their assets. -/
def LoansKept (book book' : LoanBook) : Prop :=
  ∀ id loan, book.loan? id = some loan → ∃ loan', book'.loan? id = some loan' ∧
    loan'.asset = loan.asset

/-- Rewriting one loan within its asset keeps the loans. -/
lemma loansKept_insert {book book' : LoanBook} {id : LoanId} {loan : Loan}
    (h : book'.loans = book.loans.insert id loan)
    (hasset : ∀ old, book.loan? id = some old → loan.asset = old.asset) :
    LoansKept book book' := by
  intro other found hf
  rw [LoanBook.loan?_insert h]
  by_cases hid : other = id
  · subst hid
    exact ⟨loan, if_pos rfl, hasset found hf⟩
  · exact ⟨found, (if_neg hid).trans hf, rfl⟩

/-- What is locked on the listings does not change while the loans are kept. -/
lemma Orderly.lockedListings (h : store.Orderly) {book : LoanBook}
    (hkept : LoansKept store.loans book) (asset : Asset) :
    store.board.listings.total (Listing.lockedBid book asset) =
      store.board.listings.total (Listing.lockedBid store.loans asset) := by
  refine SortedMap.total_congr fun id listing hl => ?_
  obtain ⟨loan, hloan⟩ := h.backed id listing hl
  obtain ⟨loan', hloan', hasset⟩ := hkept listing.loan loan hloan
  simp only [Listing.lockedBid, hloan, hloan', Option.map_some, hasset]

/-- Rewriting one loan changes the obligations by what it changes of the funds and of the bid
locked on the loan. -/
lemma Orderly.obligations_rewrite (h : store.Orderly) (ledger : Ledger) {loans : LoanBook}
    {id : LoanId} {loan : Loan} (hloans : loans.loans = store.loans.loans.insert id loan)
    (hasset : ∀ old, store.loans.loan? id = some old → loan.asset = old.asset) (asset : Asset) :
    { store with ledger, loans }.obligations asset + store.ledger.fundsOf asset +
        SortedMap.part (Loan.lockedBid asset) (store.loans.loan? id) =
      store.obligations asset + ledger.fundsOf asset + loan.lockedBid asset := by
  have hlistings := h.lockedListings (loansKept_insert hloans hasset) asset
  have hinsert := SortedMap.total_insert (Loan.lockedBid asset) store.loans.loans id loan
  simp only [obligations, LoanBook.loan?, hlistings, hloans]
  omega

/-- Replacing a loan on record by one in the same asset changes the obligations by what it changes
of the funds and of the bid locked on the loan. -/
lemma Orderly.obligations_replace (h : store.Orderly) (ledger : Ledger) {loans : LoanBook}
    {id : LoanId} {old loan : Loan} (hold : store.loans.loan? id = some old)
    (hloans : loans.loans = store.loans.loans.insert id loan) (hasset : loan.asset = old.asset)
    (asset : Asset) :
    { store with ledger, loans }.obligations asset + store.ledger.fundsOf asset +
        old.lockedBid asset =
      store.obligations asset + ledger.fundsOf asset + loan.lockedBid asset := by
  have hchange := h.obligations_rewrite ledger hloans
    (fun found hfound => by
      rw [hold] at hfound
      rw [hasset, Option.some.inj hfound]) asset
  rw [hold, SortedMap.part_some] at hchange
  exact hchange

/-- What is locked on a loan on record is part of the obligations. -/
lemma lockedBid_le_of_loan {id : LoanId} {loan : Loan} (hloan : store.loans.loan? id = some loan)
    (asset : Asset) : loan.lockedBid asset ≤ store.obligations asset := by
  have hle := SortedMap.le_total (Loan.lockedBid asset) hloan
  unfold obligations
  omega

/-- What is locked on a listing on the board is part of the obligations. -/
lemma lockedBid_le_of_listing {id : ListingId} {listing : Listing}
    (hlisting : store.board.listing? id = some listing) (asset : Asset) :
    listing.lockedBid store.loans asset ≤ store.obligations asset := by
  have hle := SortedMap.le_total (Listing.lockedBid store.loans asset) hlisting
  unfold obligations
  omega

/-- Rewriting one loan keeps a store orderly when the new book is consistent. -/
lemma Orderly.rewrite (h : store.Orderly) {ledger : Ledger} {loans : LoanBook} {id : LoanId}
    {loan : Loan} (hbook : loans.Consistent)
    (hloans : loans.loans = store.loans.loans.insert id loan) :
    { store with ledger, loans }.Orderly where
  book := hbook
  board := h.board
  backed other listing hl := by
    obtain ⟨found, hf⟩ := h.backed other listing hl
    show ∃ loan', loans.loan? listing.loan = some loan'
    rw [LoanBook.loan?_insert hloans]
    split
    · exact ⟨loan, rfl⟩
    · exact ⟨found, hf⟩

/-- Storing one listing changes the obligations by what it changes of the bid locked on it. -/
lemma obligations_setListing (store : Store) {board : ListingBoard} {id : ListingId}
    {listing : Listing} (hlistings : board.listings = store.board.listings.insert id listing)
    (asset : Asset) :
    { store with board }.obligations asset +
        SortedMap.part (Listing.lockedBid store.loans asset) (store.board.listing? id) =
      store.obligations asset + listing.lockedBid store.loans asset := by
  have hinsert := SortedMap.total_insert (Listing.lockedBid store.loans asset)
    store.board.listings id listing
  simp only [obligations, ListingBoard.listing?, hlistings]
  omega

/-- Storing a listing of a loan on record keeps a store orderly when the new board is
consistent. -/
lemma Orderly.setListing (h : store.Orderly) {board : ListingBoard} {id : ListingId}
    {listing : Listing} (hboard : board.Consistent)
    (hlistings : board.listings = store.board.listings.insert id listing)
    (hbacked : ∃ loan, store.loans.loan? listing.loan = some loan) :
    { store with board }.Orderly where
  book := h.book
  board := hboard
  backed other found hf := by
    rw [ListingBoard.listing?_insert hlistings] at hf
    split at hf
    · obtain rfl := Option.some.inj hf
      exact hbacked
    · exact h.backed other found hf

/-- A change that keeps the loans and the listings keeps a store orderly. -/
lemma Orderly.frame (h : store.Orderly) {store' : Store} (hloans : store'.loans = store.loans)
    (hboard : store'.board = store.board) : store'.Orderly where
  book := hloans ▸ h.book
  board := hboard ▸ h.board
  backed := by
    rw [hloans, hboard]
    exact h.backed

/-- A new ledger keeps a store orderly. -/
lemma Orderly.ledger (h : store.Orderly) (ledger : Ledger) : { store with ledger }.Orderly :=
  h.frame rfl rfl

end Store

/-- An action that lists a debt finds the name of its listing free. -/
def UserAction.NameFree (store : Store) (action : UserAction) : Prop :=
  ∀ item kind price endsAt loan, action = .list item kind price endsAt →
    store.loans.openLoan? item = some loan →
    store.board.listing? (Listing.nameFor item loan.id store.board.nonce) = none

/-- Paying down a loan that is not under auction rewrites one loan, which keeps its asset, is not
under auction and gets no bid. -/
lemma LoanBook.payDown_rewrites {book book' : LoanBook} {old loan : Loan} {remaining now : Nat}
    (hold : book.loan? loan.id = some old) (hasset : loan.asset = old.asset)
    (hstatus : loan.status ≠ .auction) (h : book.payDown loan remaining now = .ok book') :
    ∃ loan', book'.loans = book.loans.insert loan.id loan' ∧ loan'.asset = old.asset ∧
      loan'.status ≠ .auction ∧ (loan.bid = none → loan'.bid = none) := by
  rcases payDown_eq_ok h with ⟨-, hc⟩ | ⟨-, rfl⟩
  · obtain ⟨found, hf, -, -, rfl⟩ := close_eq_ok hc
    rw [hold] at hf
    obtain rfl := Option.some.inj hf
    exact ⟨_, rfl, rfl, nofun, fun _ => rfl⟩
  · exact ⟨_, rfl, hasset, hstatus, fun hbid => hbid⟩

namespace Store

variable {store : Store} {caller : Account} {item : Item} {amount now : Nat}
variable {O V : Type} [PriceSource O] [Vault V] {prices : O} {vault vault' : V}

/-! ## Orderly stores stay orderly -/

namespace Orderly

/-- Opening a loan keeps a store orderly. -/
lemma borrow (h : store.Orderly) {lent : Asset} {debtor : Account}
    (s : BorrowSteps store prices vault caller lent amount item debtor now vault') :
    { store with ledger := s.lent, loans := s.loans }.Orderly := by
  obtain ⟨-, -, hloans⟩ := LoanBook.openNew_eq_ok s.opens
  exact h.rewrite (h.book.openNew s.opens) (congrArg LoanBook.loans hloans)

/-- Paying down an open loan keeps a store orderly. -/
lemma payDown (h : store.Orderly) {ledger : Ledger} {loans : LoanBook} {loan : Loan}
    (next : Loan) {remaining : Nat} (hloan : store.loans.openLoan? item = some loan)
    (hid : next.id = loan.id) (hitem : next.item = loan.item) (hasset : next.asset = loan.asset)
    (hactive : next.status = .active)
    (hp : store.loans.payDown next remaining now = .ok loans) :
    { store with ledger, loans }.Orderly := by
  obtain ⟨hfiled, hopen, -⟩ := h.book.of_openLoan? hloan
  rw [← hid] at hfiled
  have hbook := h.book.payDown hfiled (by rw [hactive, hopen]; rfl) hitem hp
  obtain ⟨_, hloans, -⟩ := LoanBook.payDown_rewrites hfiled hasset (by rw [hactive]; nofun) hp
  exact h.rewrite hbook hloans

/-- A bid keeps a store orderly. -/
lemma bid (h : store.Orderly) {price : Nat} {bidder : Account}
    (s : BidSteps store prices caller item price bidder now) :
    { store with ledger := s.accrued, loans := store.loans.setLoan s.bidden }.Orderly := by
  obtain ⟨hfiled, hopen, -⟩ := h.book.of_openLoan? s.isOpen
  have hbook : (store.loans.setLoan s.bidden).Consistent :=
    h.book.setLoan hfiled hopen.symm rfl
  exact h.rewrite hbook rfl

/-- A settlement keeps a store orderly. -/
lemma settle (h : store.Orderly) {loan : Loan} {proceeds : Nat} {winner : Option Account}
    {settlement : Settlement} {store' : Store} {transfers : List Transfer}
    (hs : store.settle loan proceeds winner now = .ok (settlement, store', transfers)) :
    store'.Orderly := by
  obtain ⟨s, -, rfl, -⟩ := settle_eq_ok hs
  obtain ⟨_, -, -, -, hloans⟩ := LoanBook.close_eq_ok s.closes
  exact h.rewrite (h.book.close s.closes) (congrArg LoanBook.loans hloans)

/-- Passing the debt of an active listing keeps a store orderly. -/
lemma passDebt (h : store.Orderly) {listing : Listing} {buyer : Account} {lent : Asset}
    {transfers : List Transfer} {store' : Store}
    (hlisted : store.board.activeListing? item = some listing)
    (hp : store.passDebt listing buyer = .ok (lent, transfers, store')) : store'.Orderly := by
  obtain ⟨hlisting, -, hactive⟩ := h.board.of_activeListing? hlisted
  obtain ⟨s, -, -, rfl⟩ := passDebt_eq_ok hp
  obtain ⟨hfiled, hopen, -⟩ := h.book.of_openLoan? s.isOpen
  have hbook : s.passed.Consistent := h.book.setLoan hfiled rfl rfl
  have hpassed : { store with loans := s.passed }.Orderly := h.rewrite hbook rfl
  have hbacked := hpassed.backed _ _ hlisting
  exact hpassed.setListing (h.board.finish .sold hlisting hactive nofun) rfl hbacked

/-- A listing under a new name keeps a store orderly. -/
lemma list (h : store.Orderly) {kind : SaleKind} {price endsAt : Nat}
    (s : ListSteps store caller item kind price endsAt now)
    (hfresh : store.board.listing? (Listing.nameFor item s.loan.id store.board.nonce) = none) :
    { store with board := s.board }.Orderly := by
  obtain ⟨hfiled, -, -⟩ := h.book.of_openLoan? s.isOpen
  have hboard := h.board.post s.posts rfl hfresh s.unlisted rfl
  have hposts := ListingBoard.post_eq_ok s.posts
  exact h.setListing hboard (congrArg ListingBoard.listings hposts) ⟨s.loan, hfiled⟩

/-- A bid for a debt keeps a store orderly. -/
lemma bidDebt (h : store.Orderly) (s : BidDebtSteps store caller item amount now) :
    { store with
      board := store.board.setListing
        { s.listing with bidder := some caller, bid := amount } }.Orderly := by
  obtain ⟨hlisting, -, -⟩ := h.board.of_activeListing? s.listed
  exact h.setListing (h.board.setListing hlisting rfl rfl rfl) rfl ⟨s.loan, s.found⟩

/-- A cancellation keeps a store orderly. -/
lemma cancelListing (h : store.Orderly) (s : CancelSteps store caller item) :
    { store with board := store.board.finish s.listing .cancelled }.Orderly := by
  obtain ⟨hlisting, -, hactive⟩ := h.board.of_activeListing? s.listed
  have hbacked := h.backed _ _ hlisting
  exact h.setListing (h.board.finish .cancelled hlisting hactive nofun) rfl hbacked

/-- Every user's action keeps a store orderly, provided that a new listing gets a new name. -/
lemma served {N : Type} [Venue N] {venue : N} {action : UserAction} {facility : Facility V N}
    {transfers : List Transfer} (h : store.Orderly) (hfree : action.NameFree store)
    (hs : action.Serves prices store vault venue caller now facility transfers) :
    facility.store.Orderly := by
  cases hs with
  | deposit | withdraw => exact h.ledger _
  | borrow s => exact h.borrow s
  | repay s => exact h.payDown s.loan s.isOpen rfl rfl rfl s.active s.paysDown
  | setMandate => exact ⟨h.book.setMandate _ _ _, h.board, h.backed⟩
  | bid s => exact h.bid s
  | redeem s =>
    exact h.payDown { s.loan with status := .active, bid := none } s.isOpen rfl rfl rfl rfl
      s.paysDown
  | liquidate s | sell s => exact (h.ledger s.accrued).settle s.settles
  | list s => exact h.list s (hfree _ _ _ _ s.loan rfl s.isOpen)
  | buyDebt s | claimDebt s => exact h.passDebt s.listed s.passes
  | bidDebt s => exact h.bidDebt s
  | cancelListing s => exact h.cancelListing s

end Orderly

end Store

end PooledCredit
