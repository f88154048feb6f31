import PooledCredit.Proofs.Pool.Isolation

/-!
# What a sale changes

An action of the debt market leaves all of lending alone: the reserves and what is supplied of them,
the collateral and its wrapped collections, the mandates, and of the loan book the indexes and the
loans. The only exception is the debtor of a loan that is bought or claimed. The loan is then the
one that was listed and not just the one that is open on the token: a listing that is not stale has
both at once.
-/

namespace PooledCredit

/-- The debt behind a listing passes to a buyer: the listed loan, which was the seller's, becomes
the buyer's and is otherwise as it was, like all other loans. An account pays the seller a price in
the asset of the loan, and the seller hands the wrapped token of the loan to the buyer. -/
structure Listing.Passes (listing : Listing) (loan : Loan) (buyer payer : Account) (price : Nat)
    (store store' : Store) (transfers : List Transfer) : Prop where
  listed : store.loans.loan? listing.loan = some loan
  isOpen : store.loans.openLoan? listing.item = some loan
  active : loan.status = .active
  owned : loan.debtor = listing.seller
  loans : ∀ id, store'.loans.loan? id =
    if id = listing.loan then some { loan with debtor := buyer } else store.loans.loan? id
  transfers : transfers =
    Transfer.payment loan.asset payer listing.seller price ++
      Transfer.handover loan.wrapped listing.seller buyer

namespace UserAction

/-- What an action of a caller on the debt market does to the loans: a purchase passes the debt of
the active listing on the token to the caller at the listed price, a claim passes it to the bidder
for the bid, which the pool holds, and other actions do nothing. -/
def Resells (action : UserAction) (caller : Account) (store store' : Store)
    (transfers : List Transfer) : Prop :=
  match action with
  | buyDebt item =>
    ∃ listing loan, store.board.activeListing? item = some listing ∧
      listing.Passes loan caller caller listing.price store store' transfers
  | claimDebt item =>
    ∃ listing loan bidder, store.board.activeListing? item = some listing ∧
      listing.bidder = some bidder ∧
      listing.Passes loan bidder store.poolAccount listing.bid store store' transfers
  | _ => store'.loans.loans = store.loans.loans

/-- What an action of a caller on the debt market leaves alone: everything but the board and the
debtor of the loan that it passes on. -/
structure Neutral (action : UserAction) (caller : Account) (store store' : Store)
    (transfers : List Transfer) : Prop where
  settings : store'.settings = store.settings
  /-- The reserves and what every account has supplied. -/
  ledger : store'.ledger = store.ledger
  collateral : store'.collateral = store.collateral
  wrappers : store'.wrappers = store.wrappers
  nextId : store'.loans.nextId = store.loans.nextId
  openByItem : store'.loans.openByItem = store.loans.openByItem
  openByCollection : store'.loans.openByCollection = store.loans.openByCollection
  mandates : store'.loans.mandates = store.loans.mandates
  loans : action.Resells caller store store' transfers

end UserAction

/-- Passing the debt of a current listing makes the buyer the debtor of the listed loan. -/
lemma Store.passDebt_passes {store store' : Store} {listing : Listing} {buyer : Account}
    {asset : Asset} {handover : List Transfer} (hb : store.loans.Consistent)
    (hcurrent : store.isStale listing = false)
    (h : store.passDebt listing buyer = .ok (asset, handover, store')) (payer : Account)
    (price : Nat) :
    ∃ loan, store' = { store with
        loans := store.loans.setLoan { loan with debtor := buyer }
        board := store.board.finish listing .sold } ∧
      listing.Passes loan buyer payer price store store'
        (Transfer.payment asset payer listing.seller price ++ handover) := by
  obtain ⟨s, rfl, rfl, rfl⟩ := passDebt_eq_ok h
  -- the open loan on the token is the listed one
  obtain ⟨loan, hopen, hid, hactive, howned⟩ := isStale_eq_false.mp hcurrent
  obtain rfl := Option.some.inj (hopen.symm.trans s.isOpen)
  obtain ⟨hfiled, -, -⟩ := hb.of_openLoan? hopen
  rw [hid] at hfiled
  have hloans (id : LoanId) :
      (store.loans.setLoan { s.loan with debtor := buyer }).loan? id =
        if id = listing.loan then some { s.loan with debtor := buyer }
        else store.loans.loan? id := by
    rw [LoanBook.loan?_setLoan, hid]
  have hwrapped : s.listed.wrapped = s.loan.wrapped := by
    have hfound := s.found
    rw [hloans, if_pos rfl] at hfound
    rw [← Option.some.inj hfound]
  refine ⟨s.loan, rfl, hfiled, hopen, hactive, howned, hloans, ?_⟩
  rw [hwrapped]

namespace UserAction

variable {action : UserAction} {caller : Account} {store : Store} {transfers : List Transfer}

/-- Storing a loan and changing the board leaves the rest of a store alone. -/
lemma Neutral.of_setLoan {store' : Store} {loan : Loan} {board : ListingBoard}
    (hstore : store' = { store with loans := store.loans.setLoan loan, board })
    (h : action.Resells caller store store' transfers) :
    action.Neutral caller store store' transfers := by
  subst hstore
  exact ⟨rfl, rfl, rfl, rfl, rfl, rfl, rfl, rfl, h⟩

/-- An action of the debt market leaves lending, the vault and the venue alone. -/
theorem Serves.neutral {O V N : Type} [PriceSource O] [Vault V] [Venue N] {prices : O} {vault : V}
    {venue : N} {facility : Facility V N} {now : Nat}
    (hs : action.Serves prices store vault venue caller now facility transfers)
    (hb : store.loans.Consistent) (htrades : action.trades = true) :
    action.Neutral caller store facility.store transfers ∧ facility.vault = vault ∧
      facility.venue = venue := by
  cases hs with
  | deposit | withdraw | borrow | repay | setMandate | bid | redeem | liquidate | sell =>
    cases htrades
  | list | bidDebt | cancelListing =>
    exact ⟨⟨rfl, rfl, rfl, rfl, rfl, rfl, rfl, rfl, rfl⟩, rfl, rfl⟩
  | buyDebt s =>
    obtain ⟨loan, hstore, hpasses⟩ :=
      Store.passDebt_passes hb s.current s.passes caller s.listing.price
    exact ⟨.of_setLoan hstore ⟨s.listing, loan, s.listed, hpasses⟩, rfl, rfl⟩
  | claimDebt s =>
    obtain ⟨loan, hstore, hpasses⟩ :=
      Store.passDebt_passes hb s.current s.passes store.poolAccount s.listing.bid
    rw [s.poolAccount_eq]
    exact ⟨.of_setLoan hstore ⟨s.listing, loan, s.buyer, s.listed, s.sold, hpasses⟩, rfl, rfl⟩

end UserAction

end PooledCredit
