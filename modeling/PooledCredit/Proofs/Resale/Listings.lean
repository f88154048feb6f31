import PooledCredit.Proofs.Pool.Locks

/-!
# Listings and the loans behind them

Seen from one listing, a user's action that succeeds posts it, puts a bid on it, ends it, or leaves
it alone, and a listing that has ended is left alone for good. What a listing says of its bid
follows, and so does its link to the loan book: a debt passes to another debtor only through the
active listing on its token, which ends with it, so the loan behind an active listing belongs to
the seller as long as it is open.

All of this needs that a new listing does not take the name of another. Names are hashes, so it is
assumed of a run that the names given in it are different.
-/

namespace PooledCredit

/-! ## One listing -/

/-- What a listing says of its sale and its bid: only an auction has an end and a bidder, there is a
bidder exactly if there is a bid, and the bid is at least the price and not the seller's own. -/
structure Listing.WellFormed (listing : Listing) : Prop where
  fixed : listing.kind = .fixedPrice → listing.bidder = none ∧ listing.endsAt = 0
  unbid : listing.bidder = none ↔ listing.bid = 0
  bids : ∀ bidder, listing.bidder = some bidder →
    listing.price ≤ listing.bid ∧ bidder ≠ listing.seller

/-- What a user's action of a caller does to an entry of the board, before and after which there may
be none. -/
inductive Listing.Alters (store : Store) (caller : Account) :
    UserAction → Option Listing → Option Listing → Prop where
  | kept {action : UserAction} (listing : Option Listing) :
      Alters store caller action listing listing
  /-- The debtor of an active loan without an active listing offers the debt for sale. -/
  | posted {item : Item} {id : ListingId} {kind : SaleKind} {price endsAt ending now : Nat}
      {loan : Loan} (isOpen : store.loans.openLoan? item = some loan) (owned : loan.debtor = caller)
      (unlisted : store.board.activeListing? item = none) (priced : price ≠ 0)
      (fixed : kind = .fixedPrice → ending = 0) :
      Alters store caller (.list item kind price endsAt) none
        (some { id, item, loan := loan.id, kind, seller := caller, price, endsAt := ending,
                bidder := none, bid := 0, status := .active, createdAt := now })
  /-- An account other than the seller bids in an active auction, at least the price and more than
  the bid before. -/
  | bidden {item : Item} {listing : Listing} {amount : Nat} (active : listing.status = .active)
      (auction : listing.kind = .auction) (notOwn : listing.seller ≠ caller)
      (covers : listing.bidder = none → listing.price ≤ amount)
      (raises : ∀ bidder, listing.bidder = some bidder → listing.bid < amount) :
      Alters store caller (.bidDebt item amount) (some listing)
        (some { listing with bidder := some caller, bid := amount })
  /-- An active listing ends. -/
  | ended {action : UserAction} {listing : Listing} {status : ListingStatus}
      (active : listing.status = .active) (final : status ≠ .active) :
      Alters store caller action (some listing) (some { listing with status })

namespace Listing

variable {store : Store} {caller : Account} {action : UserAction} {listing listing' : Listing}
variable {old : Option Listing}

/-- A listing that has ended does not change. -/
lemma Alters.of_ended {after : Option Listing}
    (h : Alters store caller action (some listing) after) (hended : listing.status ≠ .active) :
    after = some listing := by
  cases h with
  | kept => rfl
  | bidden active => exact absurd active hended
  | ended active => exact absurd active hended

/-- Whatever is done to an entry of the board, what it says of its bid stays in order. -/
lemma Alters.wellFormed (h : Alters store caller action old (some listing'))
    (hold : ∀ listing, old = some listing → listing.WellFormed ∧ listing.price ≠ 0) :
    listing'.WellFormed ∧ listing'.price ≠ 0 := by
  cases h with
  | kept => exact hold listing' rfl
  | posted _ _ _ priced fixed =>
    exact ⟨⟨fun hfixed => ⟨rfl, fixed hfixed⟩, ⟨fun _ => rfl, fun _ => rfl⟩, nofun⟩, priced⟩
  | @bidden _ listing amount _ auction notOwn covers raises =>
    obtain ⟨hformed, hpriced⟩ := hold listing rfl
    have hcovered : listing.price ≤ amount := by
      cases hbidder : listing.bidder with
      | none => exact covers hbidder
      | some bidder => exact (hformed.bids bidder hbidder).1.trans (raises bidder hbidder).le
    have hpositive : amount ≠ 0 := by omega
    refine ⟨⟨fun hfixed => ?_, ⟨nofun, fun hzero => absurd hzero hpositive⟩, ?_⟩, hpriced⟩
    · exact absurd (hfixed.symm.trans auction) nofun
    · rintro _ ⟨⟩
      exact ⟨hcovered, notOwn.symm⟩
  | @ended _ listing =>
    obtain ⟨⟨hfixed, hunbid, hbids⟩, hpriced⟩ := hold listing rfl
    exact ⟨⟨hfixed, hunbid, hbids⟩, hpriced⟩

end Listing

/-! ## What each request does to the board -/

variable {O V N : Type} [PriceSource O] [Vault V] [Venue N]

namespace UserAction.Serves

variable {action : UserAction} {prices : O} {store : Store} {vault : V} {venue : N}
variable {facility : Facility V N} {caller : Account} {now : Nat} {transfers : List Transfer}

/-- A user's action that succeeds alters each entry of the board in one of the known ways. -/
lemma listing_alters
    (hs : action.Serves prices store vault venue caller now facility transfers)
    (hb : store.board.Consistent) (hfree : action.NameFree store) (id : ListingId) :
    Listing.Alters store caller action (store.board.listing? id)
      (facility.store.board.listing? id) := by
  cases hs with
  | deposit | withdraw | borrow | repay | setMandate | bid | redeem => exact .kept _
  | liquidate s | sell s =>
    obtain ⟨_, -, hstore, -⟩ := Store.settle_eq_ok s.settles
    show Listing.Alters store caller _ _ (s.store'.board.listing? id)
    rw [hstore]
    exact .kept _
  | @list item kind price endsAt s =>
    have hposts := congrArg ListingBoard.listings (ListingBoard.post_eq_ok s.posts)
    rw [ListingBoard.listing?_insert hposts]
    split
    · next hid =>
      have hnone := hfree item kind price endsAt s.loan rfl s.isOpen
      rw [hid, hnone]
      refine .posted s.isOpen s.owned s.unlisted s.priced ?_
      rintro rfl
      exact (Except.ok.inj s.ends).symm
    · exact .kept _
  | buyDebt s | claimDebt s =>
    obtain ⟨hlisting, -, hactive⟩ := hb.of_activeListing? s.listed
    obtain ⟨_, -, -, hstore⟩ := Store.passDebt_eq_ok s.passes
    show Listing.Alters store caller _ _ (s.store'.board.listing? id)
    rw [hstore, ListingBoard.listing?_finish]
    split
    · next hid =>
      rw [hid, hlisting]
      exact .ended hactive (by decide)
    · exact .kept _
  | @bidDebt item amount s =>
    obtain ⟨hlisting, -, hactive⟩ := hb.of_activeListing? s.listed
    rw [ListingBoard.listing?_setListing]
    split
    · next hid =>
      rw [hid, hlisting]
      refine .bidden hactive s.auction s.notOwn (fun hnone => ?_) fun bidder => s.raises
      have hrequires := s.requires
      simp only [Store.nextDebtBid, hnone] at hrequires
      exact Except.ok.inj hrequires ▸ s.covers
    · exact .kept _
  | cancelListing s =>
    obtain ⟨hlisting, -, hactive⟩ := hb.of_activeListing? s.listed
    rw [ListingBoard.listing?_finish]
    split
    · next hid =>
      rw [hid, hlisting]
      exact .ended hactive (by decide)
    · exact .kept _

end UserAction.Serves

/-! ## The loan behind a listing -/

/-- A step other than the sale of a debt keeps the debtor. -/
lemma Loan.Advances.debtor {prices : O} {store : Store} {caller : Account} {now : Nat}
    {action : UserAction} {transfers : List Transfer} {loan loan' : Loan}
    (h : loan.Advances prices store caller now action transfers loan')
    (hbuy : ∀ item, action ≠ .buyDebt item) (hclaim : ∀ item, action ≠ .claimDebt item) :
    loan'.debtor = loan.debtor := by
  cases h with
  | @bought item => exact absurd rfl (hbuy item)
  | @claimed item => exact absurd rfl (hclaim item)
  | auctioned | outbid | paidDown | repaid | redeemed | reclaimed | liquidated | sold
    | soldOver => rfl

/-- A listing is of a loan on its token, which belongs to the seller while the listing is active and
the loan is open. -/
structure Listing.Matches (listing : Listing) (loan : Loan) : Prop where
  item : loan.item = listing.item
  seller : listing.status = .active → loan.status.isOpen = true → loan.debtor = listing.seller

namespace Store

/-- Every listing matches the loan it is of. -/
def ListingsMatch (store : Store) : Prop :=
  ∀ id listing loan, store.board.listing? id = some listing →
    store.loans.loan? listing.loan = some loan → listing.Matches loan

variable {store : Store}

/-- An entry of the board and the entry of its loan, altered by an action that sells no debt, match
if all listings did before. -/
lemma Orderly.matches_of_alters (h : store.Orderly) (hm : store.ListingsMatch) {prices : O}
    {caller : Account} {now : Nat} {action : UserAction} {transfers : List Transfer}
    {id : ListingId} {listing : Listing} {loan : Loan}
    (hbuy : ∀ item, action ≠ .buyDebt item) (hclaim : ∀ item, action ≠ .claimDebt item)
    (hlisting : Listing.Alters store caller action (store.board.listing? id) (some listing))
    (hloan : action.Alters prices store caller now listing.loan transfers
      (store.loans.loan? listing.loan) (some loan)) : listing.Matches loan := by
  -- a listing of before matched the loan of before, of which item and debtor are kept
  have hkept (old : Listing) (hold : store.board.listing? id = some old)
      (hitem : listing.item = old.item) (hof : listing.loan = old.loan)
      (hseller : listing.seller = old.seller)
      (hactive : listing.status = .active → old.status = .active) : listing.Matches loan := by
    obtain ⟨before, hbefore⟩ := h.backed id old hold
    obtain ⟨hsame, howner⟩ := hm id old before hold hbefore
    rw [hof, hbefore] at hloan
    cases hloan with
    | kept =>
      refine ⟨hsame.trans hitem.symm, fun hstill hopen => ?_⟩
      rw [hseller]
      exact howner (hactive hstill) hopen
    | advanced advances =>
      refine ⟨advances.sameDeal.item.trans (hsame.trans hitem.symm), fun hstill _ => ?_⟩
      rw [advances.debtor hbuy hclaim, hseller]
      exact howner (hactive hstill) advances.isOpen
  generalize hold : store.board.listing? id = old at hlisting
  cases hlisting with
  | kept => exact hkept listing hold rfl rfl rfl fun hactive => hactive
  | bidden active => exact hkept _ hold rfl rfl rfl fun _ => active
  | ended active => exact hkept _ hold rfl rfl rfl fun _ => active
  | posted isOpen owned =>
    obtain ⟨hfiled, -, hitem⟩ := h.book.of_openLoan? isOpen
    rw [hfiled] at hloan
    cases hloan with
    | kept => exact ⟨hitem, fun _ _ => owned⟩
    | advanced advances => cases advances

/-- Passing the debt of an active listing ends the only active listing of the loan, so that all
listings still match their loans. -/
lemma Orderly.passDebt_matches (h : store.Orderly) (hm : store.ListingsMatch) {item : Item}
    {listing : Listing} {buyer : Account} {asset : Asset} {transfers : List Transfer}
    {store' : Store} (hlisted : store.board.activeListing? item = some listing)
    (hp : store.passDebt listing buyer = .ok (asset, transfers, store')) :
    store'.ListingsMatch := by
  obtain ⟨hsold, -, hactive⟩ := h.board.of_activeListing? hlisted
  obtain ⟨s, -, -, rfl⟩ := passDebt_eq_ok hp
  obtain ⟨hfiled, hopen, hpassed⟩ := h.book.of_openLoan? s.isOpen
  intro id other loan hother hloan
  replace hother : (store.board.finish listing .sold).listing? id = some other := hother
  replace hloan : s.passed.loan? other.loan = some loan := hloan
  rw [ListingBoard.listing?_finish] at hother
  rw [PassSteps.passed, LoanBook.loan?_setLoan] at hloan
  split at hother
  · obtain rfl := Option.some.inj hother
    refine ⟨?_, nofun⟩
    split at hloan
    · obtain rfl := Option.some.inj hloan
      exact hpassed
    · exact (hm listing.id listing loan hsold hloan).item
  · next hid =>
    split at hloan
    · next hof =>
      obtain rfl := Option.some.inj hloan
      have hsame : s.loan.item = other.item := (hm id other s.loan hother (hof ▸ hfiled)).item
      refine ⟨hsame, fun hstill _ => absurd ?_ hid⟩
      -- two active listings on one token
      have hfirst := (h.board.leads other.item id).mpr ⟨other, hother, rfl, hstill⟩
      have hsecond := (h.board.leads other.item listing.id).mpr
        ⟨listing, hsold, hpassed.symm.trans hsame, hactive⟩
      exact Option.some.inj (hfirst.symm.trans hsecond)
    · exact hm id other loan hother hloan

/-- What holds of the listings of a store: the store is orderly, each listing is well formed and has
a price, and it matches the loan it is of. -/
structure Listed (store : Store) : Prop extends store.Orderly where
  formed : ∀ id listing, store.board.listing? id = some listing →
    listing.WellFormed ∧ listing.price ≠ 0
  ofLoans : store.ListingsMatch

/-- A user's action keeps the listings in order, provided that a new listing gets a new name. -/
lemma Listed.served {action : UserAction} {prices : O} {vault : V} {venue : N}
    {facility : Facility V N} {caller : Account} {now : Nat} {transfers : List Transfer}
    (h : store.Listed) (hfree : action.NameFree store)
    (hs : action.Serves prices store vault venue caller now facility transfers) :
    facility.store.Listed where
  toOrderly := h.toOrderly.served hfree hs
  formed id listing hlisting := by
    have halters := hs.listing_alters h.board hfree id
    rw [hlisting] at halters
    exact halters.wellFormed (h.formed id)
  ofLoans := by
    have halters := hs.listing_alters h.board hfree
    have hbook := (hs.records h.book).alters h.book
    have hother (hbuy : ∀ item, action ≠ .buyDebt item)
        (hclaim : ∀ item, action ≠ .claimDebt item) : facility.store.ListingsMatch := by
      intro id listing loan hlisting hloan
      exact h.toOrderly.matches_of_alters h.ofLoans hbuy hclaim (hlisting ▸ halters id)
        (hloan ▸ hbook listing.loan)
    cases hs with
    | buyDebt s => exact h.toOrderly.passDebt_matches h.ofLoans s.listed s.passes
    | claimDebt s => exact h.toOrderly.passDebt_matches h.ofLoans s.listed s.passes
    | deposit | withdraw | borrow | repay | setMandate | bid | redeem | liquidate | sell | list
      | bidDebt | cancelListing => exact hother nofun nofun

/-- A change that keeps the loans and the board keeps the listings in order. -/
lemma Listed.frame (h : store.Listed) {store' : Store} (hloans : store'.loans = store.loans)
    (hboard : store'.board = store.board) : store'.Listed where
  toOrderly := h.toOrderly.frame hloans hboard
  formed := by
    rw [hboard]
    exact h.formed
  ofLoans := by
    unfold ListingsMatch
    rw [hloans, hboard]
    exact h.ofLoans

/-- An empty store has no listings. -/
lemma Listed.created {settings : Settings} (h : Store.create settings = .ok store) :
    store.Listed := by
  obtain rfl := create_eq_ok h
  exact {
    book := LoanBook.consistent_empty
    board := ListingBoard.consistent_empty
    backed := fun _ _ hl => nomatch hl
    formed := fun _ _ hl => nomatch hl
    ofLoans := fun _ _ _ hl => nomatch hl }

end Store

/-! ## The names given in a run -/

/-- The names that were given from one board to a later one: those of the listings that tokens
without an active listing got. -/
def ListingBoard.newNames (before after : ListingBoard) : List ListingId :=
  (after.active.entries.filter fun entry => (before.active.get? entry.1).isNone).map Prod.snd

/-- A name was given exactly if a token leads to it now that led nowhere before. -/
lemma ListingBoard.mem_newNames {before after : ListingBoard} {id : ListingId} :
    id ∈ before.newNames after ↔
      ∃ item, after.active.get? item = some id ∧ before.active.get? item = none := by
  simp only [newNames, List.mem_map, List.mem_filter, Option.isNone_iff_eq_none]
  constructor
  · rintro ⟨⟨item, _⟩, ⟨hentry, hnone⟩, rfl⟩
    exact ⟨item, SortedMap.mem_entries_iff.mp hentry, hnone⟩
  · rintro ⟨item, hsome, hnone⟩
    exact ⟨⟨item, id⟩, ⟨SortedMap.mem_entries_iff.mpr hsome, hnone⟩, rfl⟩

namespace Store

/-- The names that were given along a run, the latest store first. -/
def names : List Store → List ListingId
  | after :: before :: past => before.board.newNames after.board ++ names (before :: past)
  | _ => []

variable {store store' : Store}

/-- What a step does to the listings, provided that a name it gives is not on the board: they stay
in order, those that have ended stay as they are, and names come to the board only by being
given. -/
structure Relists (store store' : Store) : Prop where
  listed : store'.Listed
  ended : ∀ id listing, store.board.listing? id = some listing → listing.status ≠ .active →
    store'.board.listing? id = some listing
  given : ∀ id listing, store'.board.listing? id = some listing →
    (∃ old, store.board.listing? id = some old) ∨ id ∈ store.board.newNames store'.board

/-- A step that keeps the loans and the board relists nothing. -/
lemma Listed.relists (h : store.Listed) (hloans : store'.loans = store.loans)
    (hboard : store'.board = store.board) : store.Relists store' where
  listed := h.frame hloans hboard
  ended id listing hlisting _ := by rw [hboard, hlisting]
  given id listing hlisting := .inl ⟨listing, by rw [← hboard, hlisting]⟩

end Store

/-- When no name that it gives is on the board, an action that lists a debt finds its name free. -/
lemma UserAction.Serves.nameFree {action : UserAction} {prices : O} {store : Store} {vault : V}
    {venue : N} {facility : Facility V N} {caller : Account} {now : Nat}
    {transfers : List Transfer}
    (hs : action.Serves prices store vault venue caller now facility transfers)
    (hb : store.board.Consistent)
    (hnew : ∀ id ∈ store.board.newNames facility.store.board, store.board.listing? id = none) :
    action.NameFree store := by
  rintro item kind price endsAt loan rfl hopen
  cases hs with
  | list s =>
    obtain rfl := Option.some.inj (s.isOpen.symm.trans hopen)
    refine hnew _ (ListingBoard.mem_newNames.mpr ⟨item, ?_, hb.active_eq_none s.unlisted⟩)
    show s.board.active.get? item = _
    rw [ListingBoard.post_eq_ok s.posts]
    exact SortedMap.get?_insert_self store.board.active item _

namespace Store

variable {store store' : Store}

/-- A step whose names are new relists. -/
lemma Step.relists (hs : Step store store') (h : store.Listed)
    (hnew : ∀ id ∈ store.board.newNames store'.board, store.board.listing? id = none) :
    store.Relists store' := by
  cases hs with
  | user hrun =>
    have hserves := UserAction.run_serves hrun
    have hfree := hserves.nameFree h.board hnew
    have hlisted := h.served hfree hserves
    have halters := hserves.listing_alters h.board hfree
    refine ⟨hlisted, fun id listing hlisting hended => ?_, fun id listing hlisting => ?_⟩
    · have hentry := halters id
      rw [hlisting] at hentry
      exact hentry.of_ended hended
    · have hentry := halters id
      rw [hlisting] at hentry
      generalize hold : store.board.listing? id = old at hentry ⊢
      cases hentry with
      | kept => exact .inl ⟨_, rfl⟩
      | bidden | ended => exact .inl ⟨_, rfl⟩
      | posted _ _ unlisted =>
        have hleads := (hlisted.board.leads _ id).mpr ⟨_, hlisting, rfl, rfl⟩
        exact .inr (ListingBoard.mem_newNames.mpr
          ⟨_, hleads, h.board.active_eq_none unlisted⟩)
  | operator hrun =>
    obtain ⟨-, hloans, hboard, -⟩ := OperatorAction.run_eq_ok hrun
    exact h.relists hloans hboard
  | accrual ha =>
    obtain ⟨_, _, -, rfl⟩ := accrue_eq_ok ha
    exact h.relists rfl rfl

/-- If the names of a run are all different and those on the board were given in the run before its
last step, that step gives no name that is on the board. -/
lemma newNames_free {past : List Store} (hnames : (names (store' :: store :: past)).Nodup)
    (hgiven : ∀ id listing, store.board.listing? id = some listing → id ∈ names (store :: past)) :
    ∀ id ∈ store.board.newNames store'.board, store.board.listing? id = none := by
  intro id hid
  cases hfound : store.board.listing? id with
  | none => rfl
  | some listing =>
    obtain ⟨-, -, hdiffer⟩ := List.nodup_append.mp hnames
    exact absurd rfl (hdiffer id hid id (hgiven id listing hfound))

/-- Along a run whose names are all different the listings stay in order, and every name on the
board was given in the run. -/
lemma Trail.listed {past : List Store} (h : Trail (store :: past))
    (hnames : (names (store :: past)).Nodup) :
    store.Listed ∧
      (∀ id listing, store.board.listing? id = some listing → id ∈ names (store :: past)) ∧
      ∀ earlier ∈ past, ∀ id listing, earlier.board.listing? id = some listing →
        listing.status ≠ .active → store.board.listing? id = some listing := by
  generalize htrail : store :: past = trail at h
  induction h generalizing store past with
  | created h =>
    cases htrail
    refine ⟨.created h, ?_, fun _ hmem => nomatch hmem⟩
    obtain rfl := create_eq_ok h
    exact fun _ _ hl => nomatch hl
  | @stepped before after past h hs ih =>
    cases htrail
    obtain ⟨-, hpast, -⟩ := List.nodup_append.mp hnames
    obtain ⟨hlisted, hgiven, hended⟩ := ih hpast rfl
    have hrelists := hs.relists hlisted (newNames_free hnames hgiven)
    refine ⟨hrelists.listed, fun id listing hlisting => ?_, fun earlier hmem id listing hl hdone => ?_⟩
    · refine List.mem_append.mpr ?_
      rcases hrelists.given id listing hlisting with ⟨old, hold⟩ | hnew
      · exact .inr (hgiven id old hold)
      · exact .inl hnew
    · rcases List.mem_cons.mp hmem with rfl | hmem
      · exact hrelists.ended id listing hl hdone
      · exact hrelists.ended id listing (hended earlier hmem id listing hl hdone) hdone

/-- The listings of every run whose names are all different. A token leads exactly to the listing
that is on the board, on that token and active, so that it has at most one; a listing that was sold
or cancelled has stayed as it was; and every listing is well formed and matches a loan on record. -/
theorem Trail.listings_in_order {past : List Store} (h : Trail (store :: past))
    (hnames : (names (store :: past)).Nodup) :
    (∀ item id, store.board.active.get? item = some id ↔
      ∃ listing, store.board.listing? id = some listing ∧ listing.item = item ∧
        listing.status = .active) ∧
    (∀ id id' listing listing', store.board.listing? id = some listing →
      store.board.listing? id' = some listing' → listing.status = .active →
      listing'.status = .active → listing.item = listing'.item → id = id') ∧
    (∀ earlier ∈ past, ∀ id listing, earlier.board.listing? id = some listing →
      listing.status ≠ .active → store.board.listing? id = some listing) ∧
    ∀ id listing, store.board.listing? id = some listing →
      listing.WellFormed ∧
        ∃ loan, store.loans.loan? listing.loan = some loan ∧ listing.Matches loan := by
  obtain ⟨hlisted, -, hended⟩ := h.listed hnames
  refine ⟨hlisted.board.leads, ?_, hended, ?_⟩
  · intro id id' listing listing' hfound hfound' hactive hactive' hitem
    have hid := (hlisted.board.leads listing'.item id).mpr ⟨listing, hfound, hitem, hactive⟩
    have hid' := (hlisted.board.leads listing'.item id').mpr ⟨listing', hfound', rfl, hactive'⟩
    exact Option.some.inj (hid.symm.trans hid')
  · intro id listing hfound
    obtain ⟨loan, hloan⟩ := hlisted.backed id listing hfound
    exact ⟨(hlisted.formed id listing hfound).1, loan, hloan,
      hlisted.ofLoans id listing loan hfound hloan⟩

end Store

namespace SmallMarket

/-- The borrower offers its debt at a fixed price, thinks better of it and puts the debt up for
auction, where the supplier bids 400. -/
def reoffering : List (Move PriceFeeds NoVault FlatVenue) :=
  [.call ⟨borrower, 0, .user (.list ⟨art, 1⟩ .fixedPrice 350 0)⟩,
    .call ⟨borrower, 0, .user (.cancelListing ⟨art, 1⟩)⟩,
    .call ⟨borrower, 0, .user (.list ⟨art, 1⟩ .auction 350 1000)⟩,
    .fund coin supplier 400,
    .call ⟨supplier, 0, .user (.bidDebt ⟨art, 1⟩ 400)⟩]

/-- The two listings got different names; the cancelled one is as it was left, and the active one is
well formed and matches the loan. -/
theorem reoffering_listings :
    (Store.names (founded.stores [] (setUp ++ lending ++ reoffering))).Nodup ∧
    (founded.follow (setUp ++ lending ++ reoffering)).state.store.board.nonce = 2 ∧
    ∃ id listing loan,
      (founded.follow (setUp ++ lending ++ reoffering)).state.store.board.active.get? ⟨art, 1⟩ =
        some id ∧
      (founded.follow (setUp ++ lending ++ reoffering)).state.store.board.listing? id =
        some listing ∧
      listing.status = .active ∧ listing.bidder = some supplier ∧ listing.WellFormed ∧
      (founded.follow (setUp ++ lending ++ reoffering)).state.store.loans.loan? listing.loan =
        some loan ∧
      listing.Matches loan := by
  have hnames : (Store.names (founded.stores [] (setUp ++ lending ++ reoffering))).Nodup := by
    decide +kernel
  have hbid : ∃ listing ∈ (founded.follow
      (setUp ++ lending ++ reoffering)).state.store.board.activeListing? ⟨art, 1⟩,
        listing.bidder = some supplier := by
    decide +kernel
  have hnonce : (founded.follow (setUp ++ lending ++ reoffering)).state.store.board.nonce = 2 := by
    decide +kernel
  obtain ⟨past, hstores, htrail⟩ := founded_trail (setUp ++ lending ++ reoffering)
  have hnames' := hnames
  rw [hstores] at hnames'
  obtain ⟨hleads, -, -, hformed⟩ := Store.Trail.listings_in_order htrail hnames'
  obtain ⟨listing, hlisted, hbidder⟩ := hbid
  obtain ⟨id, hactive, hlisting⟩ := Option.bind_eq_some_iff.mp hlisted
  obtain ⟨found, hfound, -, hstatus⟩ := (hleads ⟨art, 1⟩ id).mp hactive
  obtain rfl := Option.some.inj (hfound.symm.trans hlisting)
  obtain ⟨hwell, loan, hloan, hmatches⟩ := hformed id found hlisting
  exact ⟨hnames, hnonce, id, found, loan, hactive, hlisting, hstatus, hbidder, hwell, hloan,
    hmatches⟩

end SmallMarket

end PooledCredit
