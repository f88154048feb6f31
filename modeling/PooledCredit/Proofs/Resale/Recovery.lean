import PooledCredit.Proofs.Loans.Lifecycle
import PooledCredit.Proofs.Resale.Sales

/-!
# No bid for a debt is stranded

Once the auction of a debt has ended, the bid in it leaves the pool by one of two ways. The claim
asks for the open loan on the token, which it finds only when the listing is not stale; the refund
asks for the listed loan by its number, which it finds whatever has become of that loan. A listing
is stale or it is not, so one of the two ways is always open, and the asset is that of the listed
loan on both: numbers are not given twice, and a loan keeps its asset.

What stands behind a listing is shown without assuming anything of the names of listings. A listing
that takes the name of another has been posted on its own, and is found as it was posted.
-/

namespace PooledCredit

/-- A result without a failure has a value. -/
lemma exists_of_failsOnly {α : Type} {x : Result α} (h : FailsOnly (fun _ => False) x) :
    ∃ a, x = .ok a := by
  cases x with
  | ok a => exact ⟨a, rfl⟩
  | error e => exact (h e rfl).elim

/-! ## Where listings come from -/

/-- How a listing got on the board by a step from a store: it was there, it was posted, a bid was
put on an active one, or an active one ended. -/
inductive Listing.Arises (store : Store) : Listing → Prop where
  | kept {id : ListingId} {listing : Listing} (found : store.board.listing? id = some listing) :
      Arises store listing
  | posted {caller : Account} {item : Item} {kind : SaleKind} {price endsAt now : Nat}
      (s : Store.ListSteps store caller item kind price endsAt now) :
      Arises store
        { id := Listing.nameFor item s.loan.id store.board.nonce
          item
          loan := s.loan.id
          kind
          seller := caller
          price
          endsAt := s.ending
          bidder := none
          bid := 0
          status := .active
          createdAt := now }
  | bidden {caller : Account} {item : Item} {amount now : Nat}
      (s : Store.BidDebtSteps store caller item amount now) :
      Arises store { s.listing with bidder := some caller, bid := amount }
  | ended {item : Item} {listing : Listing}
      (listed : store.board.activeListing? item = some listing) (status : ListingStatus) :
      Arises store { listing with status }

namespace Store

variable {store store' : Store} {id : ListingId} {listing : Listing}

/-- Ending an active listing leaves listings that were there and the ended one. -/
lemma arises_finish {item : Item} {ended : Listing} {status : ListingStatus}
    (hlisted : store.board.activeListing? item = some ended)
    (h : (store.board.finish ended status).listing? id = some listing) :
    Listing.Arises store listing := by
  rw [ListingBoard.listing?_finish] at h
  split at h
  · obtain rfl := Option.some.inj h
    exact .ended hlisted status
  · exact .kept h

/-- Passing the debt of an active listing ends it. -/
lemma arises_passDebt {item : Item} {ended : Listing} {buyer : Account} {asset : Asset}
    {transfers : List Transfer} (hlisted : store.board.activeListing? item = some ended)
    (hp : store.passDebt ended buyer = .ok (asset, transfers, store'))
    (h : store'.board.listing? id = some listing) : Listing.Arises store listing := by
  obtain ⟨s, -, -, rfl⟩ := passDebt_eq_ok hp
  exact arises_finish hlisted h

end Store

/-- Every listing on the board after a user's action arises in one of the known ways. -/
lemma UserAction.Serves.listing_arises {O V N : Type} [PriceSource O] [Vault V] [Venue N]
    {action : UserAction} {prices : O} {store : Store} {vault : V} {venue : N}
    {facility : Facility V N} {caller : Account} {now : Nat} {transfers : List Transfer}
    (hs : action.Serves prices store vault venue caller now facility transfers) {id : ListingId}
    {listing : Listing} (h : facility.store.board.listing? id = some listing) :
    Listing.Arises store listing := by
  cases hs with
  | deposit | withdraw | borrow | repay | setMandate | bid | redeem => exact .kept h
  | liquidate s | sell s =>
    obtain ⟨_, -, hstore, -⟩ := Store.settle_eq_ok s.settles
    replace h : s.store'.board.listing? id = some listing := h
    rw [hstore] at h
    exact .kept h
  | list s =>
    have hposts := congrArg ListingBoard.listings (ListingBoard.post_eq_ok s.posts)
    replace h : s.board.listing? id = some listing := h
    rw [ListingBoard.listing?_insert hposts] at h
    split at h
    · obtain rfl := Option.some.inj h
      exact .posted s
    · exact .kept h
  | buyDebt s | claimDebt s => exact Store.arises_passDebt s.listed s.passes h
  | bidDebt s =>
    replace h : (store.board.setListing { s.listing with
      bidder := some caller, bid := _ }).listing? id = some listing := h
    rw [ListingBoard.listing?_setListing] at h
    split at h
    · obtain rfl := Option.some.inj h
      exact .bidden s
    · exact .kept h
  | cancelListing s => exact Store.arises_finish s.listed h

namespace Store

variable {store store' : Store} {past : List Store} {id : ListingId} {listing : Listing}

/-- Every listing on the board after a step arises in one of the known ways. -/
lemma Step.listing_arises (hs : Step store store')
    (h : store'.board.listing? id = some listing) : Listing.Arises store listing := by
  cases hs with
  | user hrun => exact (UserAction.run_serves hrun).listing_arises h
  | operator hrun =>
    obtain ⟨-, -, hboard, -⟩ := OperatorAction.run_eq_ok hrun
    rw [hboard] at h
    exact .kept h
  | accrual ha =>
    obtain ⟨_, _, -, rfl⟩ := accrue_eq_ok ha
    exact .kept h

/-- After a step a loan is still on record with its deal. -/
lemma Step.loan_kept (hs : Step store store') (hb : store.loans.Consistent) {id : LoanId}
    {loan : Loan} (hloan : store.loans.loan? id = some loan) :
    ∃ loan', store'.loans.loan? id = some loan' ∧ loan.SameDeal loan' := by
  cases hs with
  | @user _ _ _ _ _ _ _ _ _ _ facility _ _ _ _ hrun =>
    have halters := ((UserAction.run_serves hrun).records hb).alters hb id
    rw [hloan] at halters
    generalize facility.store.loans.loan? id = after at halters ⊢
    cases halters with
    | kept => exact ⟨loan, rfl, .refl loan⟩
    | advanced advances => exact ⟨_, rfl, advances.sameDeal⟩
  | operator hrun =>
    obtain ⟨-, hloans, -⟩ := OperatorAction.run_eq_ok hrun
    exact ⟨loan, by rw [hloans, hloan], .refl loan⟩
  | accrual ha =>
    obtain ⟨_, _, -, rfl⟩ := accrue_eq_ok ha
    exact ⟨loan, hloan, .refl loan⟩

/-! ## What stands behind a listing -/

/-- The loan that a listing is of: when the listing was posted, it was the open loan on the token,
was active and belonged to the seller, and it still has the deal that it had then. -/
def Lists (past : List Store) (listing : Listing) (loan : Loan) : Prop :=
  ∃ before ∈ past, ∃ listed, before.loans.openLoan? listing.item = some listed ∧
    listed.id = listing.loan ∧ listed.status = .active ∧ listed.debtor = listing.seller ∧
    listed.SameDeal loan

/-- What stands behind a listing: it has a price, its bid is not nothing, and the loan that was
listed is on record. -/
structure Stands (store : Store) (past : List Store) (listing : Listing) : Prop where
  priced : listing.price ≠ 0
  bids : ∀ bidder, listing.bidder = some bidder → listing.bid ≠ 0
  recorded : ∃ loan, store.loans.loan? listing.loan = some loan ∧ Lists past listing loan

/-- What stands behind a listing still does after a step. -/
lemma Stands.stepped (h : store.Stands past listing) (hs : Step store store')
    (hb : store.loans.Consistent) : store'.Stands (store :: past) listing where
  priced := h.priced
  bids := h.bids
  recorded := by
    obtain ⟨loan, hloan, before, hmem, listed, hopen, hid, hactive, howned, hdeal⟩ := h.recorded
    obtain ⟨loan', hloan', hkept⟩ := hs.loan_kept hb hloan
    exact ⟨loan', hloan', before, List.mem_cons_of_mem _ hmem, listed, hopen, hid, hactive, howned,
      hdeal.trans hkept⟩

/-- An active listing is on the board. -/
lemma listing?_of_activeListing? {item : Item}
    (h : store.board.activeListing? item = some listing) :
    ∃ id, store.board.listing? id = some listing := by
  obtain ⟨id, -, hlisting⟩ := Option.bind_eq_some_iff.mp h
  exact ⟨id, hlisting⟩

/-- Something stands behind every listing of a run. -/
lemma Trail.stands (h : Trail (store :: past)) (hlisting : store.board.listing? id = some listing) :
    store.Stands past listing := by
  generalize htrail : store :: past = trail at h
  induction h generalizing store past id listing with
  | created h =>
    cases htrail
    obtain rfl := create_eq_ok h
    cases hlisting
  | @stepped before after past h hs ih =>
    cases htrail
    have hb : before.loans.Consistent := Reachable.debtsAddUp ⟨past, h⟩ |>.book
    have hstands {id : ListingId} {old : Listing} (hold : before.board.listing? id = some old) :
        after.Stands (before :: past) old := (ih hold rfl).stepped hs hb
    cases hs.listing_arises hlisting with
    | kept hold => exact hstands hold
    | posted s =>
      obtain ⟨hfiled, -, -⟩ := hb.of_openLoan? s.isOpen
      obtain ⟨loan, hloan, hdeal⟩ := hs.loan_kept hb hfiled
      exact ⟨s.priced, nofun, loan, hloan, before, List.mem_cons_self, s.loan, s.isOpen, rfl,
        s.active, s.owned, hdeal⟩
    | bidden s =>
      obtain ⟨_, hold⟩ := listing?_of_activeListing? s.listed
      have hbehind := hstands hold
      exact ⟨hbehind.priced, fun _ _ => s.amount_ne_zero hbehind.priced, hbehind.recorded⟩
    | ended listed =>
      obtain ⟨_, hold⟩ := listing?_of_activeListing? listed
      have hbehind := hstands hold
      exact ⟨hbehind.priced, hbehind.bids, hbehind.recorded⟩

/-! ## The two ways out -/

variable {item : Item} {bidder caller : Account} {loan : Loan} {now : Nat} {p : Failure → Prop}

/-- The claim of a listing that is not stale, after the end of its auction and with a bid, does not
fail. -/
lemma failsOnly_claimDebt (hlisted : store.board.activeListing? item = some listing)
    (hauction : listing.kind = .auction) (hended : listing.endsAt ≤ now)
    (hbidder : listing.bidder = some bidder) (hcurrent : store.isStale listing = false) :
    FailsOnly p (store.claimDebt item now) := by
  obtain ⟨loan, hopen, hid, -, -⟩ := isStale_eq_false.mp hcurrent
  refine FailsOnly.bind_of_ok (orRefuse_eq_ok.mpr hlisted) ?_
  refine FailsOnly.bind_of_holds hauction ?_
  refine FailsOnly.bind_of_holds hended ?_
  refine FailsOnly.bind_of_ok (orRefuse_eq_ok.mpr hbidder) ?_
  refine FailsOnly.bind_of_holds hcurrent ?_
  refine FailsOnly.bind ?_ fun _ _ => failsOnly_pure _
  -- the listed loan is the open one, which is on record with its new debtor
  have hpassed : (store.loans.setLoan { loan with debtor := bidder }).loan? listing.loan =
      some { loan with debtor := bidder } := by
    rw [LoanBook.loan?_setLoan, if_pos hid.symm]
  refine FailsOnly.bind_of_ok (orRefuse_eq_ok.mpr hopen) ?_
  exact FailsOnly.bind_of_ok (orRefuse_eq_ok.mpr hpassed) (failsOnly_pure _)

/-- The cancellation of a stale listing whose loan is on record does not fail, whoever calls. -/
lemma failsOnly_cancelListing (hlisted : store.board.activeListing? item = some listing)
    (hstale : store.isStale listing = true)
    (hloan : store.loans.loan? listing.loan = some loan) (caller : Account) :
    FailsOnly p (store.cancelListing caller item now) := by
  refine FailsOnly.bind_of_ok (orRefuse_eq_ok.mpr hlisted) ?_
  refine FailsOnly.bind_of_holds (.inr hstale) ?_
  simp only []
  split
  · refine FailsOnly.bind_of_ok (orRefuse_eq_ok.mpr hloan) ?_
    exact (failsOnly_pure _).bind fun _ _ => failsOnly_pure _
  · exact (failsOnly_pure _).bind fun _ _ => failsOnly_pure _

/-- A claim pays the bid out of the pool to the seller, in the asset of the listed loan, and hands
the wrapped token of that loan to the bidder. -/
lemma claimDebt_transfers (hb : store.loans.Consistent)
    (hlisted : store.board.activeListing? item = some listing)
    (hbidder : listing.bidder = some bidder)
    (hloan : store.loans.loan? listing.loan = some loan) {outcome : Outcome Account}
    (h : store.claimDebt item now = .ok outcome) :
    outcome.effects.transfers =
      Transfer.payment loan.asset store.poolAccount listing.seller listing.bid ++
        Transfer.handover loan.wrapped listing.seller bidder := by
  obtain ⟨s, rfl⟩ := claimDebt_eq_ok h
  obtain rfl := Option.some.inj (hlisted.symm.trans s.listed)
  obtain rfl := Option.some.inj (hbidder.symm.trans s.sold)
  obtain ⟨sold, -, hpasses⟩ :=
    passDebt_passes hb s.current s.passes store.poolAccount s.listing.bid
  obtain rfl := Option.some.inj (hpasses.listed.symm.trans hloan)
  rw [s.poolAccount_eq]
  exact hpasses.transfers

/-- A cancellation pays the bid out of the pool back to the bidder, in the asset of the listed
loan. -/
lemma cancelListing_transfers (hlisted : store.board.activeListing? item = some listing)
    (hbidder : listing.bidder = some bidder)
    (hloan : store.loans.loan? listing.loan = some loan) {outcome : Outcome Nat}
    (h : store.cancelListing caller item now = .ok outcome) :
    outcome.reply = listing.bid ∧ outcome.effects.transfers =
      Transfer.payment loan.asset store.poolAccount bidder listing.bid := by
  obtain ⟨s, rfl⟩ := cancelListing_eq_ok h
  obtain rfl := Option.some.inj (hlisted.symm.trans s.listed)
  rcases s.refunds with ⟨hnone, -⟩ | ⟨bidder', loan', hbidder', hloan', hrefunded, hrefund⟩
  · rw [hbidder] at hnone
    cases hnone
  · obtain rfl := Option.some.inj (hbidder.symm.trans hbidder')
    obtain rfl := Option.some.inj (hloan.symm.trans hloan')
    exact ⟨hrefunded, hrefund⟩

/-- In every run, let the auction of an active listing with a bid have ended. Then the bid is an
amount, and the loan that was listed is on record with the asset that it had when it was listed. If
the listing is not stale its claim succeeds, and if it is stale then its cancellation does, whoever
calls. Every claim that succeeds pays exactly the bid out of the pool to the seller, and every
cancellation that does pays exactly the bid back to the bidder, both in the asset of the listed
loan. -/
theorem Trail.bids_recoverable (h : Trail (store :: past)) {item : Item} {listing : Listing}
    {bidder : Account} {now : Nat} (hlisted : store.board.activeListing? item = some listing)
    (hauction : listing.kind = .auction) (hbidder : listing.bidder = some bidder)
    (hended : listing.endsAt ≤ now) :
    listing.bid ≠ 0 ∧
    ∃ loan, store.loans.loan? listing.loan = some loan ∧ Lists past listing loan ∧
      ((store.isStale listing = false ∧ ∃ outcome, store.claimDebt item now = .ok outcome) ∨
        store.isStale listing = true ∧
          ∀ caller, ∃ outcome, store.cancelListing caller item now = .ok outcome) ∧
      (∀ outcome, store.claimDebt item now = .ok outcome →
        outcome.effects.transfers =
          Transfer.payment loan.asset store.poolAccount listing.seller listing.bid ++
            Transfer.handover loan.wrapped listing.seller bidder) ∧
      ∀ caller outcome, store.cancelListing caller item now = .ok outcome →
        outcome.reply = listing.bid ∧ outcome.effects.transfers =
          Transfer.payment loan.asset store.poolAccount bidder listing.bid := by
  have hb : store.loans.Consistent := Reachable.debtsAddUp ⟨past, h⟩ |>.book
  obtain ⟨_, hlisting⟩ := listing?_of_activeListing? hlisted
  have hstands := h.stands hlisting
  obtain ⟨loan, hloan, hlists⟩ := hstands.recorded
  refine ⟨hstands.bids bidder hbidder, loan, hloan, hlists, ?exit,
    fun _ hclaim => claimDebt_transfers hb hlisted hbidder hloan hclaim,
    fun _ _ hcancel => cancelListing_transfers hlisted hbidder hloan hcancel⟩
  cases hstale : store.isStale listing with
  | false =>
    have hclaims := failsOnly_claimDebt (p := fun _ => False) hlisted hauction hended hbidder hstale
    exact .inl ⟨rfl, exists_of_failsOnly hclaims⟩
  | true =>
    exact .inr ⟨rfl, fun caller =>
      exists_of_failsOnly (failsOnly_cancelListing hlisted hstale hloan caller)⟩

end Store

namespace SmallMarket

/-- Another asset that is lent. -/
def gem : Asset := Id.fill 0xA1

/-- The borrower puts its debt up for auction and the supplier bids 400. Then the borrower repays
the loan and takes another one on the same token, in another asset. -/
def borrowingAgain : List (Move PriceFeeds NoVault FlatVenue) :=
  [.call ⟨borrower, 0, .user (.list ⟨art, 1⟩ .auction 350 1000)⟩,
    .fund coin supplier 400,
    .call ⟨supplier, 0, .user (.bidDebt ⟨art, 1⟩ 400)⟩,
    .call ⟨borrower, 0, .user (.repay ⟨art, 1⟩ maxAmount)⟩,
    .turn { feeds with assets := feeds.assets.insert gem ⟨wad, 0⟩ } {} venue,
    .call ⟨founder, 0, .operator (.openReserve gem { decimals := 0 })⟩,
    .fund gem supplier 1000,
    .call ⟨supplier, 0, .user (.deposit gem 1000 supplier 0)⟩,
    .call ⟨borrower, 0, .user (.borrow gem 200 ⟨art, 1⟩ borrower 0)⟩]

/-- The loan that was listed is closed and another one in another asset is open on the token; after
the auction anyone can cancel the listing, which refunds the bid in the asset of the first loan. -/
theorem borrowingAgain_recovers :
    let store := (founded.follow (setUp ++ lending ++ borrowingAgain)).state.store
    (∃ loan ∈ store.loans.openLoan? ⟨art, 1⟩, loan.asset = gem) ∧
    ∃ outcome, store.cancelListing founder ⟨art, 1⟩ 1000 = .ok outcome ∧ outcome.reply = 400 ∧
      outcome.effects.transfers = [.pay coin store.poolAccount supplier 400] := by
  intro store
  obtain ⟨past, -, htrail⟩ := founded_trail (setUp ++ lending ++ borrowingAgain)
  obtain ⟨listing, hlisted, hauction, hbidder, hbid, hends, hof, hstale⟩ := show
    ∃ listing ∈ store.board.activeListing? ⟨art, 1⟩, listing.kind = .auction ∧
      listing.bidder = some supplier ∧ listing.bid = 400 ∧ listing.endsAt = 1000 ∧
      listing.loan = 1 ∧ store.isStale listing = true by decide +kernel
  have hother : ∃ loan ∈ store.loans.openLoan? ⟨art, 1⟩, loan.asset = gem := by decide +kernel
  have hpays : Transfer.payment coin store.poolAccount supplier 400 =
      [.pay coin store.poolAccount supplier 400] := by decide +kernel
  obtain ⟨-, loan, hloan, -, hexit, -, hcancels⟩ :=
    Store.Trail.bids_recoverable htrail hlisted hauction hbidder hends.le
  have hasset : loan.asset = coin := by
    obtain ⟨first, hfirst, hcoin⟩ := show ∃ first ∈ store.loans.loan? 1, first.asset = coin by
      decide +kernel
    rw [hof] at hloan
    rwa [← Option.some.inj (hfirst.symm.trans hloan)]
  rcases hexit with ⟨hcurrent, -⟩ | ⟨-, hany⟩
  · exact absurd (hstale.symm.trans hcurrent) nofun
  · obtain ⟨outcome, hcancel⟩ := hany founder
    obtain ⟨hreply, htransfers⟩ := hcancels founder outcome hcancel
    rw [hasset, hbid, hpays] at htransfers
    exact ⟨hother, outcome, hcancel, hreply.trans hbid, htransfers⟩

end SmallMarket

end PooledCredit
