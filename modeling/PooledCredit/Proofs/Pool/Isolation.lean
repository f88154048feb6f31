import PooledCredit.Proofs.Collateral.Terms
import PooledCredit.Proofs.Pool.Permissions
import PooledCredit.Proofs.Resale.Listings
import PooledCredit.Proofs.Reserves.Confined

/-!
# What an action leaves alone

A user's action is on at most one asset and on at most one token. It leaves alone the reserves of
other assets and what is supplied of them, the loans and the listings on other tokens and the
indexes that lead to these, and also every closed loan and every finished listing. A run in which
only users act, and none of them on a certain asset or on a certain token, therefore leaves both as
they were.

The actions of the debt market find a loan by way of a listing. For them the names of the listings
in the run have to be different.
-/

namespace PooledCredit

/-! ## Single records -/

/-- What becomes of a record, before and after which there may be none, when only the records on one
token are changed, and of these only the current ones. -/
inductive AltersOn {α : Type} (item? : Option Item) (token : α → Item) (current : α → Prop) :
    Option α → Option α → Prop where
  | kept (record : Option α) : AltersOn item? token current record record
  | filed {record : α} (on : item? = some (token record)) :
      AltersOn item? token current none (some record)
  | revised {record record' : α} (on : item? = some (token record))
      (stays : token record' = token record) (live : current record) :
      AltersOn item? token current (some record) (some record')

namespace AltersOn

variable {α : Type} {item? : Option Item} {token : α → Item} {current : α → Prop}
variable {before after : Option α} {record : α}

/-- A record on another token, before or after, is kept. -/
lemma of_elsewhere (h : AltersOn item? token current before after)
    (hrecord : before = some record ∨ after = some record)
    (helsewhere : item? ≠ some (token record)) : after = before := by
  cases h with
  | kept => rfl
  | filed on =>
    obtain rfl := Option.some.inj (hrecord.resolve_left nofun)
    exact absurd on helsewhere
  | revised on stays =>
    refine absurd on ?_
    rcases hrecord with hbefore | hafter
    · obtain rfl := Option.some.inj hbefore
      exact helsewhere
    · obtain rfl := Option.some.inj hafter
      rwa [← stays]

/-- A record that is no longer current is kept. -/
lemma of_not_current (h : AltersOn item? token current before after)
    (hrecord : before = some record) (hpast : ¬ current record) : after = some record := by
  cases h with
  | kept => exact hrecord
  | filed => cases hrecord
  | revised _ _ live =>
    obtain rfl := Option.some.inj hrecord
    exact absurd live hpast

/-- The current records on another token are the same before and after. -/
lemma current_iff {ι : Type} {find find' : ι → Option α} {item : Item}
    (h : ∀ id, AltersOn item? token current (find id) (find' id))
    (helsewhere : item? ≠ some item) :
    (∃ id, find' id = some record ∧ current record ∧ token record = item) ↔
      ∃ id, find id = some record ∧ current record ∧ token record = item := by
  refine exists_congr fun id => and_congr_left fun ⟨_, hitem⟩ => ?_
  rw [← hitem] at helsewhere
  constructor
  · intro hafter
    rw [← (h id).of_elsewhere (.inr hafter) helsewhere, hafter]
  · intro hbefore
    rw [(h id).of_elsewhere (.inl hbefore) helsewhere, hbefore]

end AltersOn

/-- A loan is found on a token exactly if it is filed, open and on that token. -/
lemma LoanBook.Consistent.openLoan?_eq_some {book : LoanBook} (hb : book.Consistent) {item : Item}
    {loan : Loan} : book.openLoan? item = some loan ↔
      ∃ id, book.loan? id = some loan ∧ loan.status.isOpen = true ∧ loan.item = item := by
  constructor
  · exact fun h => ⟨loan.id, hb.of_openLoan? h⟩
  · rintro ⟨id, hloan, hopen, rfl⟩
    exact hb.openLoan?_of_isOpen hloan hopen

/-- A listing is the active one on a token exactly if it is filed, active and on that token. -/
lemma ListingBoard.Consistent.activeListing?_eq_some {board : ListingBoard} (hb : board.Consistent)
    {item : Item} {listing : Listing} : board.activeListing? item = some listing ↔
      ∃ id, board.listing? id = some listing ∧ listing.status = .active ∧ listing.item = item := by
  constructor
  · intro h
    obtain ⟨hlisting, hitem, hactive⟩ := hb.of_activeListing? h
    exact ⟨listing.id, hlisting, hactive, hitem⟩
  · rintro ⟨id, hlisting, hactive, hitem⟩
    exact Option.bind_eq_some_iff.mpr
      ⟨id, (hb.leads item id).mpr ⟨listing, hlisting, hitem, hactive⟩, hlisting⟩

/-! ## Actions -/

namespace UserAction

/-- The token that an action is on. -/
def item? : UserAction → Option Item
  | deposit _ _ _ _ | withdraw _ _ _ | setMandate _ _ => none
  | borrow _ _ item _ _ | repay item _ | bid item _ _ | redeem item _ _ | liquidate item _
    | sell item | list item _ _ _ | buyDebt item | bidDebt item _ | claimDebt item
    | cancelListing item => some item

/-- Whether an action is one of the debt market. -/
def trades : UserAction → Bool
  | list _ _ _ _ | buyDebt _ | bidDebt _ _ | claimDebt _ | cancelListing _ => true
  | deposit _ _ _ _ | withdraw _ _ _ | borrow _ _ _ _ _ | repay _ _ | setMandate _ _ | bid _ _ _
    | redeem _ _ _ | liquidate _ _ | sell _ => false

/-- What an action of a caller leaves alone when it takes one store to another. -/
structure Isolated (action : UserAction) (caller : Account) (store store' : Store) : Prop where
  settings : store'.settings = store.settings
  collateral : store'.collateral = store.collateral
  wrappers : store'.wrappers = store.wrappers
  /-- The reserves of other assets, and all supply but that of the treasury and of the account whose
  supply the action is on, in its asset. -/
  ledger :
    store.ledger.Confined (action.asset? store) (action.supplier? caller) store'.ledger
  /-- The loans that are or were on other tokens. -/
  loans : ∀ id loan, store.loans.loan? id = some loan ∨ store'.loans.loan? id = some loan →
    action.item? ≠ some loan.item → store'.loans.loan? id = store.loans.loan? id
  /-- The loans that were closed. -/
  closed : ∀ id loan, store.loans.loan? id = some loan → loan.status.isOpen = false →
    store'.loans.loan? id = some loan
  /-- Which loan is open on another token. -/
  openLoans : ∀ item, action.item? ≠ some item →
    store'.loans.openLoan? item = store.loans.openLoan? item
  /-- How many loans are open on another collection. -/
  counts : ∀ collection, (∀ item, action.item? = some item → item.collection ≠ collection) →
    store'.loans.openCount collection = store.loans.openCount collection
  /-- The listings that are or were on other tokens. -/
  listings : ∀ id listing,
    store.board.listing? id = some listing ∨ store'.board.listing? id = some listing →
    action.item? ≠ some listing.item → store'.board.listing? id = store.board.listing? id
  /-- The listings that were finished. -/
  finished : ∀ id listing, store.board.listing? id = some listing → listing.status ≠ .active →
    store'.board.listing? id = some listing
  /-- Which listing is active on another token. -/
  activeListings : ∀ item, action.item? ≠ some item →
    store'.board.activeListing? item = store.board.activeListing? item

variable {O V N : Type} [PriceSource O] [Vault V] [Venue N] {action : UserAction} {prices : O}
variable {store : Store} {vault : V} {venue : N} {facility : Facility V N} {caller : Account}
variable {now : Nat} {transfers : List Transfer}

/-- Outside of the debt market, an action that takes a loan a step further is on its token. -/
lemma item?_of_advances {loan loan' : Loan}
    (h : loan.Advances prices store caller now action transfers loan')
    (htrades : action.trades = false) : action.item? = some loan.item := by
  cases h with
  | bought | claimed => cases htrades
  | auctioned | outbid | paidDown | repaid | redeemed | reclaimed | liquidated | sold
    | soldOver => rfl

namespace Serves

/-- On the debt market, an action leaves the loans alone or passes the debt of an open loan on its
token. -/
lemma passes (hs : action.Serves prices store vault venue caller now facility transfers)
    (hb : store.loans.Consistent) (hboard : store.board.Consistent)
    (htrades : action.trades = true) :
    facility.store.loans = store.loans ∨
      ∃ loan buyer, action.item? = some loan.item ∧ store.loans.loan? loan.id = some loan ∧
        loan.status.isOpen = true ∧
        facility.store.loans = store.loans.setLoan { loan with debtor := buyer } := by
  cases hs with
  | deposit | withdraw | borrow | repay | setMandate | bid | redeem | liquidate | sell =>
    cases htrades
  | list | bidDebt | cancelListing => exact .inl rfl
  | buyDebt s | claimDebt s =>
    right
    obtain ⟨t, -, -, hstore⟩ := Store.passDebt_eq_ok s.passes
    obtain ⟨-, hlisted, -⟩ := hboard.of_activeListing? s.listed
    obtain ⟨hfiled, hopen, hitem⟩ := hb.of_openLoan? t.isOpen
    exact ⟨t.loan, _, congrArg some (hitem.trans hlisted).symm, hfiled, hopen,
      congrArg Store.loans hstore⟩

/-- Outside of the debt market, an action leaves the board alone. -/
lemma board (hs : action.Serves prices store vault venue caller now facility transfers)
    (htrades : action.trades = false) : facility.store.board = store.board := by
  cases hs with
  | liquidate s | sell s =>
    obtain ⟨_, -, hstore, -⟩ := Store.settle_eq_ok s.settles
    show s.store'.board = store.board
    rw [hstore]
  | list | buyDebt | bidDebt | claimDebt | cancelListing => cases htrades
  | deposit | withdraw | borrow | repay | setMandate | bid | redeem => rfl

/-- An action changes no loan but on its token, and no closed one. -/
lemma loan_altersOn (hs : action.Serves prices store vault venue caller now facility transfers)
    (hb : store.loans.Consistent) (hboard : action.trades = true → store.board.Consistent)
    (id : LoanId) :
    AltersOn action.item? Loan.item (fun loan => loan.status.isOpen = true)
      (store.loans.loan? id) (facility.store.loans.loan? id) := by
  cases htrades : action.trades with
  | false =>
    have halters := (hs.records hb).alters hb id
    generalize store.loans.loan? id = before, facility.store.loans.loan? id = after at halters ⊢
    cases halters with
    | kept => exact .kept _
    | opened => exact .filed rfl
    | advanced advances =>
      exact .revised (item?_of_advances advances htrades) advances.sameDeal.item advances.isOpen
  | true =>
    rcases hs.passes hb (hboard htrades) htrades with hsame | ⟨loan, buyer, hon, hfiled, hopen, h⟩
    · rw [hsame]
      exact .kept _
    · rw [h, LoanBook.loan?_setLoan]
      split
      · next hid =>
        rw [hid, hfiled]
        exact .revised hon rfl hopen
      · exact .kept _

/-- An action changes no number of open loans but on the collection of its token. -/
lemma openCount_eq (hs : action.Serves prices store vault venue caller now facility transfers)
    (hb : store.loans.Consistent) (hboard : action.trades = true → store.board.Consistent)
    {collection : Collection}
    (helsewhere : ∀ item, action.item? = some item → item.collection ≠ collection) :
    facility.store.loans.openCount collection = store.loans.openCount collection := by
  cases htrades : action.trades with
  | false =>
    have hrecords := hs.records hb
    generalize facility.store.loans = loans at hrecords ⊢
    cases hrecords with
    | kept | advanced => rfl
    | opened opens =>
      obtain ⟨-, -, rfl⟩ := LoanBook.openNew_eq_ok opens
      have hne := helsewhere _ rfl
      simp only [LoanBook.openCount, SortedMap.getD, SortedMap.get?_insert_of_ne _ hne.symm]
    | closed filed advances closes =>
      obtain ⟨found, hfound, -, -, rfl⟩ := LoanBook.close_eq_ok closes
      obtain rfl := Option.some.inj (hfound.symm.trans filed)
      have hne := helsewhere _ (item?_of_advances advances htrades)
      exact (LoanBook.getD_countDown _ _ _).trans (if_neg hne.symm)
  | true =>
    rcases hs.passes hb (hboard htrades) htrades with hsame | ⟨_, _, -, -, -, h⟩
    · rw [hsame]
    · rw [h]
      rfl

/-- An action changes no listing but on its token, and no finished one, provided that a new listing
gets a new name. -/
lemma listing_altersOn (hs : action.Serves prices store vault venue caller now facility transfers)
    (hboard : action.trades = true → store.board.Consistent ∧ action.NameFree store)
    (id : ListingId) :
    AltersOn action.item? Listing.item (fun listing => listing.status = .active)
      (store.board.listing? id) (facility.store.board.listing? id) := by
  cases htrades : action.trades with
  | false =>
    rw [hs.board htrades]
    exact .kept _
  | true =>
    obtain ⟨hconsistent, hfree⟩ := hboard htrades
    cases hs with
    | deposit | withdraw | borrow | repay | setMandate | bid | redeem | liquidate | sell =>
      cases htrades
    | @list item kind price endsAt s =>
      have hposts := congrArg ListingBoard.listings (ListingBoard.post_eq_ok s.posts)
      rw [ListingBoard.listing?_insert hposts]
      split
      · next hid =>
        have hnone := hfree item kind price endsAt s.loan rfl s.isOpen
        rw [hid, hnone]
        exact .filed rfl
      · exact .kept _
    | buyDebt s | claimDebt s =>
      obtain ⟨hlisting, hitem, hactive⟩ := hconsistent.of_activeListing? s.listed
      obtain ⟨_, -, -, hstore⟩ := Store.passDebt_eq_ok s.passes
      show AltersOn _ _ _ _ (s.store'.board.listing? id)
      rw [hstore, ListingBoard.listing?_finish]
      split
      · next hid =>
        rw [hid, hlisting]
        exact .revised (congrArg some hitem.symm) rfl hactive
      · exact .kept _
    | bidDebt s | cancelListing s =>
      obtain ⟨hlisting, hitem, hactive⟩ := hconsistent.of_activeListing? s.listed
      simp only [ListingBoard.listing?_setListing, ListingBoard.listing?_finish]
      split
      · next hid =>
        rw [hid, hlisting]
        exact .revised (congrArg some hitem.symm) rfl hactive
      · exact .kept _

end Serves

end UserAction

/-! ## Agreement -/

/-- Two stores agree on an asset and on a token: on the reserve of the asset and on what every
account has supplied of it, and on the loans and the listings on the token, the open and the active
one among them. -/
structure Store.AgreesOn (asset : Asset) (item : Item) (store store' : Store) : Prop where
  reserve : store'.ledger.reserves.get? asset = store.ledger.reserves.get? asset
  supplies : ∀ account,
    store'.ledger.scaledSupplyOf asset account = store.ledger.scaledSupplyOf asset account
  loans : ∀ id loan, store.loans.loan? id = some loan ∨ store'.loans.loan? id = some loan →
    loan.item = item → store'.loans.loan? id = store.loans.loan? id
  openLoan : store'.loans.openLoan? item = store.loans.openLoan? item
  listings : ∀ id listing,
    store.board.listing? id = some listing ∨ store'.board.listing? id = some listing →
    listing.item = item → store'.board.listing? id = store.board.listing? id
  activeListing : store'.board.activeListing? item = store.board.activeListing? item

namespace Store.AgreesOn

variable {store middle store' : Store} {asset : Asset} {item : Item}

/-- A store agrees with itself. -/
lemma refl (asset : Asset) (item : Item) (store : Store) : store.AgreesOn asset item store where
  reserve := rfl
  supplies _ := rfl
  loans _ _ _ _ := rfl
  openLoan := rfl
  listings _ _ _ _ := rfl
  activeListing := rfl

/-- A record on a token that is kept twice is kept. -/
lemma record_trans {α : Type} {token : α → Item} {before between after : Option α} {record : α}
    (h : ∀ a, before = some a ∨ between = some a → token a = item → between = before)
    (h' : ∀ a, between = some a ∨ after = some a → token a = item → after = between)
    (hrecord : before = some record ∨ after = some record) (hitem : token record = item) :
    after = before := by
  have hbetween : between = some record := by
    rcases hrecord with hbefore | hafter
    · rw [h record (.inl hbefore) hitem, hbefore]
    · rw [← h' record (.inr hafter) hitem, hafter]
  rw [h' record (.inl hbetween) hitem, h record (.inr hbetween) hitem]

/-- Stores that agree with one between them agree. -/
lemma trans (h : store.AgreesOn asset item middle) (h' : middle.AgreesOn asset item store') :
    store.AgreesOn asset item store' where
  reserve := h'.reserve.trans h.reserve
  supplies account := (h'.supplies account).trans (h.supplies account)
  loans id _ := record_trans (h.loans id) (h'.loans id)
  openLoan := h'.openLoan.trans h.openLoan
  listings id _ := record_trans (h.listings id) (h'.listings id)
  activeListing := h'.activeListing.trans h.activeListing

end Store.AgreesOn

/-- What an action leaves alone includes every asset and every token that it is not on. -/
lemma UserAction.Isolated.agreesOn {action : UserAction} {caller : Account} {store store' : Store}
    (h : action.Isolated caller store store') {asset : Asset} {item : Item}
    (hasset : action.asset? store ≠ some asset) (hitem : action.item? ≠ some item) :
    store.AgreesOn asset item store' where
  reserve := h.ledger.reserves asset hasset
  supplies account := h.ledger.supplies asset account (.inl hasset)
  loans id loan hfound hon := h.loans id loan hfound (hon ▸ hitem)
  openLoan := h.openLoans item hitem
  listings id listing hfound hon := h.listings id listing hfound (hon ▸ hitem)
  activeListing := h.activeListings item hitem

/-! ## Runs -/

section Runs

variable {O V N : Type} [PriceSource O] [Vault V] [Venue N]

namespace Store.Trail

variable {store : Store} {past : List Store} {action : UserAction} {prices : O} {vault : V}
variable {venue : N} {caller : Account} {now : Nat} {reply : Reply} {facility : Facility V N}
variable {effects : Effects}

/-- An action that a run ends with is isolated: before it the records are consistent, and a name
that it gives is new. -/
lemma isolated (h : Trail (store :: past))
    (hrun : action.run prices ⟨store, vault, venue⟩ caller now = .ok (reply, facility, effects))
    (hnames : action.trades = true → (names (facility.store :: store :: past)).Nodup) :
    action.Isolated caller store facility.store := by
  have hserves := UserAction.run_serves hrun
  have hnext : Trail (facility.store :: store :: past) := h.stepped (.user hrun)
  have hbook : store.loans.Consistent := (Reachable.inStep ⟨_, h⟩).toConsistent
  have hbook' : facility.store.loans.Consistent := (Reachable.inStep ⟨_, hnext⟩).toConsistent
  have hmarket (htrades : action.trades = true) :
      (store.board.Consistent ∧ action.NameFree store) ∧ facility.store.board.Consistent := by
    obtain ⟨-, hpast, -⟩ := List.nodup_append.mp (hnames htrades)
    obtain ⟨hlisted, hgiven, -⟩ := h.listed hpast
    have hfree := hserves.nameFree hlisted.board (newNames_free (hnames htrades) hgiven)
    exact ⟨⟨hlisted.board, hfree⟩, (hnext.listed (hnames htrades)).1.board⟩
  have hloan := hserves.loan_altersOn hbook fun htrades => (hmarket htrades).1.1
  have hlisting := hserves.listing_altersOn fun htrades => (hmarket htrades).1
  exact {
    settings := hserves.settings
    collateral := hserves.collateral
    wrappers := hserves.wrappers
    ledger := hserves.confined
    loans := fun id loan hfound => (hloan id).of_elsewhere hfound
    closed := fun id loan hfound hclosed => (hloan id).of_not_current hfound (by simp [hclosed])
    openLoans := fun item helsewhere => Option.ext fun loan => by
      rw [hbook.openLoan?_eq_some, hbook'.openLoan?_eq_some]
      exact AltersOn.current_iff hloan helsewhere
    counts := fun collection => hserves.openCount_eq hbook fun htrades => (hmarket htrades).1.1
    listings := fun id listing hfound => (hlisting id).of_elsewhere hfound
    finished := fun id listing hfound => (hlisting id).of_not_current hfound
    activeListings := fun item helsewhere => by
      cases htrades : action.trades with
      | false => rw [hserves.board htrades]
      | true =>
        obtain ⟨⟨hboard, -⟩, hboard'⟩ := hmarket htrades
        refine Option.ext fun listing => ?_
        rw [hboard.activeListing?_eq_some, hboard'.activeListing?_eq_some]
        exact AltersOn.current_iff hlisting helsewhere }

/-- In every run, a user's action that succeeds leaves alone the reserves of other assets than its
own, all supply but that of the account that deposits or withdraws and of the treasury in its asset,
the loans and the listings on other tokens than its own, all closed loans and all finished
listings. So the stores before and after it agree on every asset and every token that it is not on.
For the actions of the debt market the names in the run have to be different. -/
theorem action_isolated (h : Trail (store :: past))
    (hrun : action.run prices ⟨store, vault, venue⟩ caller now = .ok (reply, facility, effects))
    (hnames : action.trades = true → (names (facility.store :: store :: past)).Nodup) :
    action.Isolated caller store facility.store ∧
    ∀ asset item, action.asset? store ≠ some asset → action.item? ≠ some item →
      store.AgreesOn asset item facility.store := by
  have hisolated := h.isolated hrun hnames
  exact ⟨hisolated, fun _ _ => hisolated.agreesOn⟩

end Store.Trail

namespace SmallMarket

/-- The pool in which the borrower's debt is up for auction for the second time and the supplier has
bid 400. -/
def offered : Pool PriceFeeds NoVault FlatVenue := founded.follow (setUp ++ lending ++ reoffering)

/-- When the auction is over, the supplier claims the debt. -/
def claimedOffer : Result (Reply × Facility NoVault FlatVenue × Effects) :=
  UserAction.run (.claimDebt ⟨art, 1⟩) offered.prices
    ⟨offered.state.store, offered.vault, offered.venue⟩ supplier 1000

/-- When the supplier claims the debt, the loan gets another debtor; the supply of the supplier, all
that there is in other assets and on other tokens, and the listing that was cancelled stay as they
are. -/
theorem claiming_isolated :
    ∃ reply facility effects id cancelled,
      claimedOffer = .ok (reply, facility, effects) ∧
      (Store.names (facility.store :: founded.stores [] (setUp ++ lending ++ reoffering))).Nodup ∧
      (facility.store.loans.loan? 1).map Loan.debtor = some supplier ∧
      facility.store.ledger.scaledSupplyOf coin supplier =
        offered.state.store.ledger.scaledSupplyOf coin supplier ∧
      (∀ asset item, asset ≠ coin → item ≠ ⟨art, 1⟩ →
        offered.state.store.AgreesOn asset item facility.store) ∧
      cancelled.status = .cancelled ∧
      facility.store.board.listing? id = some cancelled := by
  have hok : claimedOffer.isOk = true := by decide +kernel
  have hclaims : ∀ claimed ∈ claimedOffer.toOption,
      (Store.names
        (claimed.2.1.store :: founded.stores [] (setUp ++ lending ++ reoffering))).Nodup ∧
      (claimed.2.1.store.loans.loan? 1).map Loan.debtor = some supplier := by
    decide +kernel
  have hcancelled : ∃ entry ∈ offered.state.store.board.listings.entries,
      entry.2.status = .cancelled := by
    decide +kernel
  have hasset : (UserAction.claimDebt ⟨art, 1⟩).asset? offered.state.store = some coin := by
    decide +kernel
  have htreasury : supplier ≠ offered.state.store.ledger.treasury := by decide +kernel
  obtain ⟨⟨reply, facility, effects⟩, hrun⟩ := isOk_iff.mp hok
  rw [hrun] at hclaims
  obtain ⟨hnames, hdebtor⟩ := hclaims _ rfl
  obtain ⟨⟨id, cancelled⟩, hentry, hstatus⟩ := hcancelled
  obtain ⟨past, hstores, htrail⟩ := founded_trail (setUp ++ lending ++ reoffering)
  have hdistinct := hnames
  rw [hstores] at hdistinct
  rw [← offered] at htrail hdistinct
  obtain ⟨hisolated, hagrees⟩ := Store.Trail.action_isolated htrail hrun fun _ => hdistinct
  refine ⟨reply, facility, effects, id, cancelled, hrun, hnames, hdebtor, ?_, ?_, hstatus, ?_⟩
  · have hnobody : (UserAction.claimDebt ⟨art, 1⟩).supplier? supplier ≠ some supplier :=
      (Option.some_ne_none supplier).symm
    exact hisolated.ledger.supplies coin supplier (.inr ⟨hnobody, htreasury⟩)
  · intro asset item hother hitem
    refine hagrees asset item ?_ ?_
    · rw [hasset]
      exact fun heq => hother (Option.some.inj heq).symm
    · exact fun heq => hitem (Option.some.inj heq).symm
  · refine hisolated.finished id cancelled (SortedMap.mem_entries_iff.mp hentry) ?_
    rw [show cancelled.status = .cancelled from hstatus]
    nofun

end SmallMarket

namespace Pool

/-! ### Bystanders -/

variable {pool : Pool O V N} {asset : Asset} {item : Item}

/-- Moves other than an operator's action and a user's action on the asset or on the token. -/
def Avoids (asset : Asset) (item : Item) (pool : Pool O V N) : Move O V N → Prop
  | .call ⟨_, _, .user action⟩ =>
    action.asset? pool.state.store ≠ some asset ∧ action.item? ≠ some item
  | .call ⟨_, _, .operator _⟩ => False
  | .fund .. | .mint .. | .turn .. => True

/-- A move that avoids an asset and a token leaves the store alone, or it is a user's action, on
neither, that succeeds. -/
lemma Avoids.cases {move : Move O V N} (h : pool.Avoids asset item move) :
    (pool.after move).state.store = pool.state.store ∨
      ∃ (action : UserAction) (caller : Account) (now : Nat) (reply : Reply)
        (facility : Facility V N) (effects : Effects),
        action.run pool.prices ⟨pool.state.store, pool.vault, pool.venue⟩ caller now =
          .ok (reply, facility, effects) ∧
        (pool.after move).state.store = facility.store ∧
        action.asset? pool.state.store ≠ some asset ∧ action.item? ≠ some item := by
  cases move with
  | call call =>
    obtain ⟨caller, now, action⟩ := call
    rcases pool.execute_cases ⟨caller, now, action⟩ with ⟨-, hstate, -, -⟩ |
      ⟨action, reply, facility, effects, custody, rfl, -, ha, -, hstate, -, -⟩ |
      ⟨action, _, _, _, _, rfl, -⟩
    · exact .inl (congrArg PoolState.store hstate)
    · exact .inr ⟨action, caller, now, reply, facility, effects, ha,
        congrArg PoolState.store hstate, h⟩
    · exact h.elim
  | fund asset account amount =>
    simp only [Pool.after]
    cases hf : pool.fund asset account amount with
    | ok funded =>
      simp only [Pool.fund, bind_eq_ok, pure_eq_ok] at hf
      obtain ⟨_, -, rfl⟩ := hf
      exact .inl rfl
    | error e => exact .inl rfl
  | mint item owner => exact .inl rfl
  | turn prices vault venue => exact .inl rfl

/-- The names given up to a store come last among those given up to a later one. -/
lemma names_suffix (pool : Pool O V N) (past : List Store) (moves : List (Move O V N)) :
    Store.names (pool.state.store :: past) <:+ Store.names (pool.stores past moves) := by
  induction moves generalizing pool past with
  | nil => exact List.suffix_rfl
  | cons move moves ih =>
    refine List.IsSuffix.trans ?_ (ih (pool.after move) _)
    split
    · next heq => exact heq ▸ List.suffix_rfl
    · exact List.suffix_append _ _

/-- A run that avoids an asset and a token leads to a store that agrees with the first one on
both. -/
theorem avoiding_agrees {past : List Store} (h : Store.Trail (pool.state.store :: past))
    {moves : List (Move O V N)} (hobeys : pool.Obeys (Avoids asset item) moves)
    (hnames : (Store.names (pool.stores past moves)).Nodup) :
    pool.state.store.AgreesOn asset item (pool.follow moves).state.store := by
  induction moves generalizing pool past with
  | nil => exact .refl _ _ _
  | cons move moves ih =>
    obtain ⟨hfirst, hrest⟩ := hobeys
    rw [stores] at hnames
    show pool.state.store.AgreesOn asset item ((pool.after move).follow moves).state.store
    split at hnames
    · next heq =>
      have hagrees := ih (heq ▸ h) hrest hnames
      rwa [heq] at hagrees
    · next hne =>
      obtain ⟨action, caller, now, reply, facility, effects, hrun, hstore, hasset, hitem⟩ :=
        (Avoids.cases hfirst).resolve_left hne
      have hnodup := hnames.sublist (names_suffix _ _ moves).sublist
      have hisolated := h.isolated hrun fun _ => hstore ▸ hnodup
      have hagrees := hisolated.agreesOn hasset hitem
      rw [← hstore] at hagrees
      exact hagrees.trans (ih (hstore ▸ h.stepped (.user hrun)) hrest hnames)

end Pool

end Runs

end PooledCredit
