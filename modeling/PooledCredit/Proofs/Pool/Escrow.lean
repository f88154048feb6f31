import PooledCredit.Proofs.Loans.Losses
import PooledCredit.Proofs.Pool.Cover
import PooledCredit.Proofs.Pool.Locks

/-!
# A bid leaves escrow once and in full

A committed bid brings its price from the caller and locks it. From then on it stands, unchanged,
until one committed call ends it: the call refunds it in one transfer, settles the loan with it or
pays it to the seller of the debt. `Lock.Leaves` has one constructor for each way out, with all the
transfers of the call, and `UserAction.Escrows` says what an action does to the locks as a whole: it
changes at most one of them.
-/

namespace PooledCredit

/-- What an action offers as a bid. -/
def UserAction.offer? : UserAction → Option Nat
  | bid _ price _ => some price
  | bidDebt _ amount => some amount
  | _ => none

/-- Whether an action is about bids: it places one, ends one, or acts where one may stand. -/
def UserAction.concernsBids : UserAction → Bool
  | bid .. | redeem .. | liquidate .. | sell .. => true
  | bidDebt .. | claimDebt .. | cancelListing .. => true
  | deposit .. | withdraw .. | borrow .. | repay .. | setMandate .. | list .. | buyDebt .. => false

/-- Whether an action pays out of the funds of a reserve. -/
def UserAction.drawsFunds : UserAction → Bool
  | withdraw .. | borrow .. => true
  | _ => false

/-- The transfers of a sale of the token of a loan, apart from the refund of a bid. -/
def Loan.saleTransfers (loan : Loan) (pool buyer : Account) (proceeds surplus : Nat) :
    List Transfer :=
  Transfer.handover loan.item pool buyer ++ Transfer.payment loan.asset buyer pool proceeds ++
    (Transfer.payment loan.asset pool loan.debtor surplus ++ [.burn loan.wrapped])

/-- What an action of a caller locks, and in which slot: a bid on the open loan on a token, or on
the active listing on it. -/
inductive UserAction.Places (store : Store) (caller : Account) :
    UserAction → Slot → Lock → Prop where
  | bid {item : Item} {price : Nat} {bidder : Account} {loan : Loan}
      (isOpen : store.loans.openLoan? item = some loan) :
      Places store caller (.bid item price bidder) (.loan loan.id) ⟨loan.asset, caller, price⟩
  | bidDebt {item : Item} {amount : Nat} {listing : Listing} {loan : Loan}
      (listed : store.board.activeListing? item = some listing)
      (found : store.loans.loan? listing.loan = some loan) :
      Places store caller (.bidDebt item amount) (.listing listing.id) ⟨loan.asset, caller, amount⟩

/-- The ways in which a locked bid leaves its slot by an action of a caller, with the reply and all
transfers of the action and what is locked in the slot afterwards. -/
inductive Lock.Leaves (store : Store) (caller : Account) (lock : Lock) :
    Slot → UserAction → Reply → List Transfer → Option Lock → Prop where
  /-- A higher bid in the same asset takes its place, and the bid is refunded. -/
  | outbid {slot : Slot} {action : UserAction} {reply : Reply} {next : Lock}
      (places : action.Places store caller slot next) (asset : next.asset = lock.asset)
      (raises : lock.amount < next.amount) :
      Leaves store caller lock slot action reply
        [lock.refund store.poolAccount, next.deposit store.poolAccount] (some next)
  /-- The loan is redeemed, and the bid is refunded, with the fine for the bidder. -/
  | redeemed {item : Item} {amount maxFine paid : Nat} {loan : Loan} {bid : Bid} {closed : Bool}
      {reply : Reply} (isOpen : store.loans.openLoan? item = some loan)
      (locked : loan.bid = some bid) :
      Leaves store caller lock (.loan loan.id) (.redeem item amount maxFine) reply
        (Transfer.payment loan.asset caller store.poolAccount (paid + bid.fine) ++
          lock.refund store.poolAccount ::
            (Transfer.payment loan.asset store.poolAccount bid.bidder bid.fine ++
              store.release loan closed)) none
  /-- The token is sold to a venue, and the bid is refunded. -/
  | sold {item : Item} {proceeds surplus : Nat} {buyer : Account} {loan : Loan} {reply : Reply}
      (isOpen : store.loans.openLoan? item = some loan) :
      Leaves store caller lock (.loan loan.id) (.sell item) reply
        (lock.refund store.poolAccount ::
          loan.saleTransfers store.poolAccount buyer proceeds surplus) none
  /-- The bid settles the loan: one part pays the debt, and the rest goes to the debtor. -/
  | liquidated {item : Item} {minPrice : Nat} {loan : Loan} {bid : Bid} {settlement : Settlement}
      (isOpen : store.loans.openLoan? item = some loan) (locked : loan.bid = some bid)
      (asset : loan.asset = lock.asset)
      (whole : settlement.repaid + settlement.surplus = lock.amount) :
      Leaves store caller lock (.loan loan.id) (.liquidate item minPrice) (.settled settlement)
        (Transfer.payment loan.asset store.poolAccount loan.debtor settlement.surplus ++
          Transfer.handover loan.item store.poolAccount bid.bidder ++ [.burn loan.wrapped]) none
  /-- The bid is paid to the seller of the debt, which passes to the account that paid the bid. -/
  | claimed {item wrapped : Item} {listing : Listing} {reply : Reply}
      (listed : store.board.activeListing? item = some listing) :
      Leaves store caller lock (.listing listing.id) (.claimDebt item) reply
        (.pay lock.asset store.poolAccount listing.seller lock.amount ::
          Transfer.handover wrapped listing.seller lock.payer) none
  /-- The listing is cancelled, and the bid is refunded. -/
  | cancelled {item : Item} {listing : Listing} {reply : Reply}
      (listed : store.board.activeListing? item = some listing) :
      Leaves store caller lock (.listing listing.id) (.cancelListing item) reply
        [lock.refund store.poolAccount] none

/-- What an action of a caller that succeeds does to the locks, with its reply and all its
transfers. -/
inductive UserAction.Escrows (store : Store) (caller : Account) :
    UserAction → Reply → List Transfer → (Slot → Option Lock) → Prop where
  /-- An action that is not about bids leaves them alone, and only one that draws funds pays
  anything out of the pool account. -/
  | kept {action : UserAction} {reply : Reply} {transfers : List Transfer}
      (apart : action.concernsBids = false)
      (pays : ∀ asset target amount, .pay asset store.poolAccount target amount ∈ transfers →
        action.drawsFunds = true) :
      Escrows store caller action reply transfers store.lockOn
  /-- A bid where none stands locks its price. -/
  | placed {action : UserAction} {reply : Reply} {slot : Slot} {lock : Lock}
      (places : action.Places store caller slot lock) (free : store.lockOn slot = none) :
      Escrows store caller action reply [lock.deposit store.poolAccount]
        (Function.update store.lockOn slot (some lock))
  /-- A bid that stands leaves its slot. -/
  | left {action : UserAction} {reply : Reply} {transfers : List Transfer} {slot : Slot}
      {lock : Lock} {next : Option Lock} (locked : store.lockOn slot = some lock)
      (leaves : lock.Leaves store caller slot action reply transfers next) :
      Escrows store caller action reply transfers (Function.update store.lockOn slot next)
  /-- A loan without a bid is sold to a venue. -/
  | sold {item : Item} {proceeds surplus : Nat} {buyer : Account} {loan : Loan} {reply : Reply}
      (isOpen : store.loans.openLoan? item = some loan)
      (free : store.lockOn (.loan loan.id) = none) :
      Escrows store caller (.sell item) reply
        (loan.saleTransfers store.poolAccount buyer proceeds surplus) store.lockOn
  /-- A listing without a bid is cancelled. -/
  | cancelled {item : Item} {listing : Listing} {reply : Reply}
      (listed : store.board.activeListing? item = some listing)
      (free : store.lockOn (.listing listing.id) = none) :
      Escrows store caller (.cancelListing item) reply [] store.lockOn

section Escrows

variable {store : Store} {caller : Account} {action : UserAction} {reply : Reply}
variable {transfers : List Transfer} {locks : Slot → Option Lock}

/-- An action leaves what is locked in a slot, or it is the one that ends it. -/
lemma UserAction.Escrows.lock_cases (h : action.Escrows store caller reply transfers locks)
    {slot : Slot} {lock : Lock} (hlock : store.lockOn slot = some lock) :
    locks slot = some lock ∨ lock.Leaves store caller slot action reply transfers (locks slot) := by
  cases h with
  | kept | sold | cancelled => exact .inl hlock
  | @placed _ _ other _ places free =>
    refine .inl ?_
    rw [Function.update_of_ne ?_, hlock]
    rintro rfl
    exact absurd (hlock.symm.trans free) (by simp)
  | @left _ _ _ other _ _ locked leaves =>
    by_cases hslot : slot = other
    · subst hslot
      obtain rfl := Option.some.inj (hlock.symm.trans locked)
      rw [Function.update_self]
      exact .inr leaves
    · rw [Function.update_of_ne hslot]
      exact .inl hlock

/-- A bid that succeeds brings its price from the caller, after the bid before it is refunded, and
locks it. -/
lemma UserAction.Escrows.of_offer (h : action.Escrows store caller reply transfers locks)
    {price : Nat} (hoffer : action.offer? = some price) :
    ∃ slot asset, action.Places store caller slot ⟨asset, caller, price⟩ ∧
      transfers = ((store.lockOn slot).elim [] fun lock => [lock.refund store.poolAccount]) ++
        [.pay asset caller store.poolAccount price] ∧
      locks slot = some ⟨asset, caller, price⟩ := by
  have hprice {slot : Slot} {lock : Lock} (hplaces : action.Places store caller slot lock) :
      lock = ⟨lock.asset, caller, price⟩ := by
    cases hplaces with
    | bid | bidDebt =>
      cases hoffer
      rfl
  cases h with
  | kept apart =>
    cases action with
    | bid | bidDebt => cases apart
    | _ => cases hoffer
  | @placed _ _ slot lock places free =>
    have hlock := hprice places
    refine ⟨slot, lock.asset, hlock ▸ places, ?_, ?_⟩
    · rw [free, hlock]
      rfl
    · rw [Function.update_self, ← hlock]
  | @left _ _ _ slot lock _ locked leaves =>
    cases leaves with
    | @outbid _ _ _ next places =>
      have hnext := hprice places
      refine ⟨slot, next.asset, hnext ▸ places, ?_, ?_⟩
      · rw [locked, hnext]
        rfl
      · rw [Function.update_self, ← hnext]
    | redeemed | sold | liquidated | claimed | cancelled => cases hoffer
  | sold | cancelled => cases hoffer

end Escrows

/-! ## What each request does to the locks -/

namespace Store

variable {store : Store} {caller : Account} {item : Item} {amount now : Nat} {reply : Reply}
variable {O V N : Type} [PriceSource O] [Vault V] [Venue N] {prices : O} {vault vault' : V}

/-- Borrowing leaves the locks alone. -/
lemma borrow_lockOn (h : store.BidsOfOthers) {lent : Asset} {debtor : Account}
    (s : BorrowSteps store prices vault caller lent amount item debtor now vault') :
    { store with ledger := s.lent, loans := s.loans }.lockOn = store.lockOn := by
  obtain ⟨hid, -, hloans⟩ := LoanBook.openNew_eq_ok s.opens
  have hfree : store.loans.loan? s.id = none := hid ▸ h.book.next_free
  rw [h.lockOn_rewrite s.lent (congrArg LoanBook.loans hloans)
    fun old hold => absurd (hfree.symm.trans hold) (by simp)]
  refine update_lockOn ?_
  rw [lockOn, hfree]
  rfl

/-- Repaying leaves the locks alone, since nothing is locked on an active loan. -/
lemma repay_lockOn (h : store.BidsOfOthers) (s : RepaySteps store item amount now) :
    { store with ledger := s.repaid, loans := s.loans }.lockOn = store.lockOn := by
  obtain ⟨hfiled, -, -⟩ := h.book.of_openLoan? s.isOpen
  have hbid := h.no_bid hfiled s.active
  obtain ⟨loan, hloans, hasset, -, hbid'⟩ :=
    LoanBook.payDown_rewrites hfiled rfl (by rw [s.active]; nofun) s.paysDown
  rw [h.lockOn_replace s.repaid hfiled hloans hasset, Loan.lock_of_none (hbid' hbid)]
  refine update_lockOn ?_
  rw [lockOn_loan hfiled, Loan.lock_of_none hbid]

/-- A bid locks its price in place of the bid before it. -/
lemma bid_escrows (h : store.BidsOfOthers) (hcaller : caller ≠ store.poolAccount) {price : Nat}
    {bidder : Account} (s : BidSteps store prices caller item price bidder now) :
    (UserAction.bid item price bidder).Escrows store caller reply
      (s.refund ++ Transfer.payment s.loan.asset caller store.poolAccount price)
      { store with ledger := s.accrued, loans := store.loans.setLoan s.bidden }.lockOn := by
  obtain ⟨hfiled, -, -⟩ := h.book.of_openLoan? s.isOpen
  have hplaces : (UserAction.bid item price bidder).Places store caller (.loan s.loan.id)
      ⟨s.loan.asset, caller, price⟩ := .bid s.isOpen
  have hlocks : { store with ledger := s.accrued, loans := store.loans.setLoan s.bidden }.lockOn =
      Function.update store.lockOn (.loan s.loan.id) (some ⟨s.loan.asset, caller, price⟩) :=
    h.lockOn_setLoan s.accrued s.bidden hfiled rfl
  rw [hlocks, Transfer.payment_eq s.offers hcaller]
  rcases s.admitted with ⟨⟨first⟩⟩ | ⟨⟨later⟩⟩
  · have hfree := (lockOn_loan hfiled).trans (Loan.lock_of_none (h.no_bid hfiled first.active))
    rw [first.refunds]
    exact .placed hplaces hfree
  · obtain ⟨hprice, hpayer⟩ := h.loans _ _ _ hfiled later.locked
    have hrefund : s.refund =
        [.pay s.loan.asset store.poolAccount later.previous.payer later.previous.price] :=
      later.refunds.trans (Transfer.payment_eq hprice hpayer.symm)
    have hlock := (lockOn_loan hfiled).trans (Loan.lock_of_bid later.locked)
    rw [hrefund]
    exact .left hlock (.outbid hplaces rfl later.outbids)

/-- A redeem refunds the bid. -/
lemma redeem_escrows (h : store.BidsOfOthers) {maxFine : Nat}
    (s : RedeemSteps store prices item amount maxFine now) :
    (UserAction.redeem item amount maxFine).Escrows store caller reply
      (Transfer.payment s.loan.asset caller store.poolAccount (s.repayment.paid + s.bid.fine) ++
        Transfer.payment s.loan.asset store.poolAccount s.bid.payer s.bid.price ++
          Transfer.payment s.loan.asset store.poolAccount s.bid.bidder s.bid.fine ++
            store.release s.loan (s.repayment.remaining == 0))
      { store with ledger := s.repaid, loans := s.loans }.lockOn := by
  obtain ⟨hfiled, -, -⟩ := h.book.of_openLoan? s.isOpen
  have hfiled' : store.loans.loan?
      ({ s.loan with status := .active, bid := none } : Loan).id = some s.loan := hfiled
  obtain ⟨loan, hloans, hasset, -, hbid⟩ :=
    LoanBook.payDown_rewrites hfiled' rfl nofun s.paysDown
  have hlocks : { store with ledger := s.repaid, loans := s.loans }.lockOn =
      Function.update store.lockOn (.loan s.loan.id) none := by
    rw [h.lockOn_replace s.repaid hfiled hloans hasset, Loan.lock_of_none (hbid rfl)]
  obtain ⟨hprice, hpayer⟩ := h.loans _ _ _ hfiled s.locked
  have hlock := (lockOn_loan hfiled).trans (Loan.lock_of_bid s.locked)
  rw [hlocks, Transfer.payment_eq hprice hpayer.symm, List.append_assoc, List.append_assoc]
  exact .left hlock (.redeemed s.isOpen s.locked)

/-- A settlement leaves nothing locked on its loan. -/
lemma settle_lockOn (h : store.Orderly) {loan : Loan} {proceeds : Nat} {winner : Option Account}
    {settlement : Settlement} {store' : Store} {transfers : List Transfer}
    (hfiled : store.loans.loan? loan.id = some loan)
    (hs : store.settle loan proceeds winner now = .ok (settlement, store', transfers)) :
    store'.lockOn = Function.update store.lockOn (.loan loan.id) none := by
  obtain ⟨s, -, rfl, -⟩ := settle_eq_ok hs
  obtain ⟨found, hfound, -, -, hloans⟩ := LoanBook.close_eq_ok s.closes
  obtain rfl := Option.some.inj (hfound.symm.trans hfiled)
  exact h.lockOn_replace s.settled hfiled (congrArg LoanBook.loans hloans) rfl

/-- A liquidation uses up the bid. -/
lemma liquidate_escrows (h : store.BidsOfOthers) {minPrice : Nat}
    (s : LiquidateSteps store item minPrice now) :
    (UserAction.liquidate item minPrice).Escrows store caller (.settled s.settlement) s.transfers
      s.store'.lockOn := by
  obtain ⟨hfiled, -, -⟩ := h.book.of_openLoan? s.isOpen
  have hlock := (lockOn_loan hfiled).trans (Loan.lock_of_bid s.locked)
  have hlocks := settle_lockOn (h.ledger s.accrued) hfiled s.settles
  obtain ⟨t, hsettlement, -, htransfers⟩ := settle_eq_ok s.settles
  have hsurplus : s.settlement.surplus = s.bid.price - min s.bid.price t.debt := by
    rw [hsettlement]
  have hwhole : s.settlement.repaid + s.settlement.surplus = s.bid.price := by
    rw [hsettlement]
    exact Nat.add_sub_cancel' (Nat.min_le_left _ _)
  rw [hlocks, htransfers, ← hsurplus]
  exact .left hlock (.liquidated s.isOpen s.locked rfl hwhole)

/-- A sale to a venue refunds the bid, if there is one. -/
lemma sell_escrows (h : store.BidsOfOthers) {venue venue' : N}
    (s : SellSteps store prices venue item now venue') :
    (UserAction.sell item).Escrows store caller reply
      (s.refund ++ Transfer.handover s.loan.item store.poolAccount (Venue.account venue') ++
        Transfer.payment s.loan.asset (Venue.account venue') store.poolAccount s.proceeds ++
          s.transfers) s.store'.lockOn := by
  obtain ⟨hfiled, -, -⟩ := h.book.of_openLoan? s.isOpen
  have hlocks : s.store'.lockOn = Function.update store.lockOn (.loan s.loan.id) none :=
    settle_lockOn (h.ledger s.accrued) hfiled s.settles
  obtain ⟨t, -, -, htransfers⟩ := settle_eq_ok s.settles
  rw [Option.elim_none, List.append_nil] at htransfers
  rw [hlocks, htransfers]
  rcases checkSale_eq_ok s.checks with ⟨hactive, -, hrefund⟩ |
    ⟨bid, deadline, hauction, hbid, -, -, -, hrefund⟩
  · have hfree := (lockOn_loan hfiled).trans (Loan.lock_of_none (h.no_bid hfiled hactive))
    rw [hrefund, update_lockOn hfree]
    exact .sold s.isOpen hfree
  · obtain ⟨hprice, hpayer⟩ := h.loans _ _ _ hfiled hbid
    have hlock := (lockOn_loan hfiled).trans (Loan.lock_of_bid hbid)
    have hrefund : s.refund = [.pay s.loan.asset store.poolAccount bid.payer bid.price] :=
      hrefund.trans (Transfer.payment_eq hprice hpayer.symm)
    rw [hrefund]
    exact .left hlock (.sold s.isOpen)

/-- Listing a debt locks nothing. -/
lemma list_lockOn {kind : SaleKind} {price endsAt : Nat}
    (s : ListSteps store caller item kind price endsAt now)
    (hfresh : store.board.listing? (Listing.nameFor item s.loan.id store.board.nonce) = none) :
    { store with board := s.board }.lockOn = store.lockOn := by
  have hposts := ListingBoard.post_eq_ok s.posts
  rw [store.lockOn_listings (congrArg ListingBoard.listings hposts), Listing.lock_of_none rfl]
  refine update_lockOn ?_
  rw [lockOn, hfresh]
  rfl

/-- Passing a debt leaves nothing locked on its listing. -/
lemma passDebt_lockOn (h : store.Orderly) {listing : Listing} {buyer : Account}
    (s : PassSteps store listing buyer) :
    { store with loans := s.passed, board := store.board.finish listing .sold }.lockOn =
      Function.update store.lockOn (.listing listing.id) none := by
  obtain ⟨hfiled, -, -⟩ := h.book.of_openLoan? s.isOpen
  have hloans : { store with loans := s.passed }.lockOn = store.lockOn := by
    have hpassed := h.lockOn_setLoan store.ledger { s.loan with debtor := buyer } hfiled rfl
    have hsame : Loan.lock { s.loan with debtor := buyer } = s.loan.lock := rfl
    rw [hsame] at hpassed
    exact hpassed.trans (update_lockOn (lockOn_loan hfiled))
  have hboard := lockOn_finish { store with loans := s.passed } listing
    (show ListingStatus.sold ≠ .active by decide)
  rw [hloans] at hboard
  exact hboard

/-- Buying a debt leaves the locks alone, since there are no bids at a fixed price. -/
lemma buyDebt_lockOn (h : store.BidsOfOthers) (s : BuyDebtSteps store caller item) :
    s.store'.lockOn = store.lockOn := by
  obtain ⟨hlisting, -, -⟩ := h.board.of_activeListing? s.listed
  obtain ⟨t, -, -, hstore⟩ := passDebt_eq_ok s.passes
  have hbidder : s.listing.bidder = none := by
    cases hbid : s.listing.bidder with
    | none => rfl
    | some payer =>
      obtain ⟨-, -, hkind⟩ := (h.of_activeListing? s.listed).bids payer hbid
      exact absurd (s.fixed.symm.trans hkind) nofun
  rw [hstore, passDebt_lockOn h.toOrderly t]
  refine update_lockOn ?_
  rw [lockOn_listing hlisting, Listing.lock_of_none hbidder]

/-- A bid for a debt locks its amount in place of the bid before it. -/
lemma bidDebt_escrows (h : store.BidsOfOthers) (hcaller : caller ≠ store.poolAccount)
    (s : BidDebtSteps store caller item amount now) :
    (UserAction.bidDebt item amount).Escrows store caller reply
      ((s.listing.bidder.elim [] fun bidder =>
          Transfer.payment s.loan.asset store.poolAccount bidder s.listing.bid) ++
        Transfer.payment s.loan.asset caller store.poolAccount amount)
      { store with
        board := store.board.setListing
          { s.listing with bidder := some caller, bid := amount } }.lockOn := by
  obtain ⟨hlisting, -, hactive⟩ := h.board.of_activeListing? s.listed
  obtain ⟨hpriced, -, hbids⟩ := h.of_activeListing? s.listed
  have hplaces : (UserAction.bidDebt item amount).Places store caller (.listing s.listing.id)
      ⟨s.loan.asset, caller, amount⟩ := .bidDebt s.listed s.found
  have hnew : Listing.lock store.loans { s.listing with bidder := some caller, bid := amount } =
      some ⟨s.loan.asset, caller, amount⟩ := Listing.lock_of_found hactive s.found
  have hlock := (lockOn_listing hlisting).trans (Listing.lock_of_found hactive s.found)
  rw [lockOn_setListing, hnew, Transfer.payment_eq (s.amount_ne_zero hpriced) hcaller]
  cases hbid : s.listing.bidder with
  | none =>
    rw [hbid] at hlock
    exact .placed hplaces hlock
  | some payer =>
    obtain ⟨hpayer, hamount, -⟩ := hbids payer hbid
    rw [hbid] at hlock
    rw [Option.elim_some, Transfer.payment_eq hamount hpayer.symm]
    exact .left hlock (.outbid hplaces rfl (s.raises hbid))

/-- Claiming a debt pays the bid to the seller. -/
lemma claimDebt_escrows (h : store.BidsOfOthers) (s : ClaimDebtSteps store item now) :
    (UserAction.claimDebt item).Escrows store caller reply
      (Transfer.payment s.asset s.store'.poolAccount s.listing.seller s.listing.bid ++ s.handover)
      s.store'.lockOn := by
  obtain ⟨hlisting, -, hactive⟩ := h.board.of_activeListing? s.listed
  obtain ⟨-, hseller, hbids⟩ := h.of_activeListing? s.listed
  obtain ⟨-, hamount, -⟩ := hbids s.buyer s.sold
  obtain ⟨t, hasset, hhandover, hstore⟩ := passDebt_eq_ok s.passes
  have hfound := current_loan h.toOrderly s.current t.isOpen
  have hlock := (lockOn_listing hlisting).trans (Listing.lock_of_found hactive hfound)
  rw [s.sold] at hlock
  rw [s.poolAccount_eq, hasset, hhandover, Transfer.payment_eq hamount hseller.symm, hstore,
    passDebt_lockOn h.toOrderly t]
  exact .left hlock (.claimed s.listed)

/-- Cancelling a listing refunds the bid, if there is one. -/
lemma cancelListing_escrows (h : store.BidsOfOthers) (s : CancelSteps store caller item) :
    (UserAction.cancelListing item).Escrows store caller reply s.refund
      { store with board := store.board.finish s.listing .cancelled }.lockOn := by
  obtain ⟨hlisting, -, hactive⟩ := h.board.of_activeListing? s.listed
  rw [store.lockOn_finish s.listing (show ListingStatus.cancelled ≠ .active by decide)]
  rcases s.refunds with ⟨hbid, -, hrefund⟩ | ⟨payer, loan, hbid, hfound, -, hrefund⟩
  · have hfree := (lockOn_listing hlisting).trans (Listing.lock_of_none hbid)
    rw [hrefund, update_lockOn hfree]
    exact .cancelled s.listed hfree
  · have hlock := (lockOn_listing hlisting).trans (Listing.lock_of_found hactive hfound)
    obtain ⟨hpayer, hamount, -⟩ := (h.of_activeListing? s.listed).bids payer hbid
    rw [hbid] at hlock
    rw [hrefund, Transfer.payment_eq hamount hpayer.symm]
    exact .left hlock (.cancelled s.listed)

/-- What an action of another account than the pool's does to the locks, provided that a new listing
gets a new name. -/
theorem BidsOfOthers.run_escrows (h : store.BidsOfOthers) (hcaller : caller ≠ store.poolAccount)
    {action : UserAction} {venue : N} {facility : Facility V N} {effects : Effects}
    (hfree : action.NameFree store)
    (hrun : action.run prices ⟨store, vault, venue⟩ caller now = .ok (reply, facility, effects)) :
    action.Escrows store caller reply effects.transfers facility.store.lockOn := by
  have hs := UserAction.run_serves hrun
  generalize htransfers : effects.transfers = transfers at hs
  have hother {asset asset' : Asset} {target target' : Account} {amount amount' : Nat}
      (hpay : .pay asset store.poolAccount target amount ∈
        Transfer.payment asset' caller target' amount') : False :=
    hcaller (Transfer.source_of_mem_payment hpay).symm
  cases hs with
  | deposit => exact .kept rfl fun _ _ _ hpay => (hother hpay).elim
  | withdraw => exact .kept rfl fun _ _ _ _ => rfl
  | setMandate => exact .kept rfl nofun
  | borrow s =>
    rw [borrow_lockOn h s]
    exact .kept rfl fun _ _ _ _ => rfl
  | repay s =>
    rw [repay_lockOn h s]
    refine .kept rfl fun _ _ _ hpay => ?_
    rcases List.mem_append.mp hpay with hpay | hrelease
    · exact (hother hpay).elim
    · exact absurd hrelease pay_notMem_release
  | bid s => exact bid_escrows h hcaller s
  | redeem s => exact redeem_escrows h s
  | liquidate s =>
    -- the settlement that is answered is that of the steps
    obtain ⟨t, rfl, hfacility, ht⟩ := UserAction.run_liquidate hrun
    rw [hfacility, ← htransfers, ht]
    exact liquidate_escrows h t
  | sell s => exact sell_escrows h s
  | list s =>
    rw [list_lockOn s (hfree _ _ _ _ s.loan rfl s.isOpen)]
    exact .kept rfl nofun
  | buyDebt s =>
    obtain ⟨_, -, hhandover, -⟩ := passDebt_eq_ok s.passes
    rw [buyDebt_lockOn h s, hhandover]
    refine .kept rfl fun _ _ _ hpay => ?_
    rcases List.mem_append.mp hpay with hpay | hhand
    · exact (hother hpay).elim
    · exact absurd hhand Transfer.pay_notMem_handover
  | bidDebt s => exact bidDebt_escrows h hcaller s
  | claimDebt s => exact claimDebt_escrows h s
  | cancelListing s => exact cancelListing_escrows h s

end Store

/-! ## Pools -/

namespace Pool

variable {O V N : Type} [PriceSource O] [Vault V] [Venue N]

/-- The moves of others: no action is called by the pool account itself, and no new listing has the
hash of an older one, which only a collision could bring about
(`ListingBoard.Consistent.collision`). -/
def ByOthers (pool : Pool O V N) : Move O V N → Prop
  | .call call => call.caller ≠ pool.state.store.poolAccount ∧ pool.NameFree call
  | .fund .. => True
  | .mint .. => True
  | .turn .. => True

/-- A call is committed and by it the bid locked in a slot leaves that slot. -/
def Releases (pool : Pool O V N) (slot : Slot) (lock : Lock) (call : Call) : Prop :=
  ∃ action commit, call.action = .user action ∧ pool.attempt call = .ok commit ∧
    lock.Leaves pool.state.store call.caller slot action commit.reply commit.effects.transfers
      (commit.state.store.lockOn slot)

variable {pool : Pool O V N}

/-- The bids are those of others in every pool that moves of others lead to. -/
lemma Reachable.bidsOfOthers (h : pool.Reachable ByOthers) : pool.state.store.BidsOfOthers := by
  induction h with
  | created h =>
    obtain ⟨store, hs, -, hstore, -⟩ := create_eq_ok h
    rw [hstore]
    exact .created hs
  | @moved pool move h admitted ih =>
    rcases pool.move_cases move with
      ⟨call, action, commit, facility, rfl, haction, -, hrun, hstate, hstore⟩ |
      ⟨hsettings, hloans, hboard⟩
    · rw [hstate, hstore]
      exact ih.user admitted.1 (admitted.2.action haction) (UserAction.run_serves hrun)
    · exact ih.frame hsettings hloans hboard

/-- What a committed call of another account does to the locks. -/
lemma Reachable.attempt_escrows (h : pool.Reachable ByOthers) {call : Call} {action : UserAction}
    {commit : Commit V N} (admitted : pool.ByOthers (.call call))
    (haction : call.action = .user action) (hcommit : pool.attempt call = .ok commit) :
    action.Escrows pool.state.store call.caller commit.reply commit.effects.transfers
      commit.state.store.lockOn := by
  obtain ⟨facility, custody, hrun, -, hstate, -, -⟩ := attempt_user haction hcommit
  rw [hstate]
  exact h.bidsOfOthers.run_escrows admitted.1 (admitted.2.action haction) hrun

/-- After a move of others a bid still stands, or the move was the call that ended it. -/
lemma Reachable.lock_after (h : pool.Reachable ByOthers) {move : Move O V N}
    (admitted : pool.ByOthers move) {slot : Slot} {lock : Lock}
    (hlock : pool.state.store.lockOn slot = some lock) :
    (pool.after move).state.store.lockOn slot = some lock ∨
      ∃ call, move = .call call ∧ pool.Releases slot lock call := by
  rcases pool.move_cases move with
    ⟨call, action, commit, facility, rfl, haction, hcommit, -, hstate, -⟩ | ⟨-, hloans, hboard⟩
  · rw [hstate]
    rcases (h.attempt_escrows admitted haction hcommit).lock_cases hlock with hstands | hleaves
    · exact .inl hstands
    · exact .inr ⟨call, rfl, action, commit, haction, hcommit, hleaves⟩
  · rw [Store.lockOn_frame hloans hboard]
    exact .inl hlock

/-- Along a run of others a bid stands to the end, or until the first call that ends it. -/
theorem Reachable.lock_along (h : pool.Reachable ByOthers) {moves : List (Move O V N)}
    (hobeys : pool.Obeys ByOthers moves) {slot : Slot} {lock : Lock}
    (hlock : pool.state.store.lockOn slot = some lock) :
    pool.Along (fun between => between.state.store.lockOn slot = some lock) moves ∨
      ∃ before call after, moves = before ++ .call call :: after ∧
        pool.Along (fun between => between.state.store.lockOn slot = some lock) before ∧
        (pool.follow before).Releases slot lock call := by
  induction moves generalizing pool with
  | nil => exact .inl hlock
  | cons move moves ih =>
    obtain ⟨admitted, hobeys⟩ := hobeys
    rcases h.lock_after admitted hlock with hstands | ⟨call, rfl, hreleases⟩
    · rcases ih (h.moved admitted) hobeys hstands with
        halong | ⟨before, call, after, rfl, halong, hreleases⟩
      · exact .inl ⟨hlock, halong⟩
      · exact .inr ⟨move :: before, call, after, rfl, ⟨hlock, halong⟩, hreleases⟩
    · exact .inr ⟨[], call, moves, rfl, hlock, hreleases⟩

/-- The bids in every pool that moves of others lead to. A committed bid brings its price from the
caller, beside the refund of the bid that it outbids, and locks it. Every committed action changes
the locks in one of the ways of `UserAction.Escrows`: it places one bid, or one bid leaves its slot
in one of the ways of `Lock.Leaves`, or none changes. And along every run of others a bid that is
locked stands, with its asset, payer and amount, to the end of the run or until one committed call
by which it leaves. -/
theorem Reachable.bids_leave_once (h : pool.Reachable ByOthers) :
    (∀ call action price commit, pool.ByOthers (.call call) → call.action = .user action →
      action.offer? = some price → pool.attempt call = .ok commit →
      ∃ slot asset, action.Places pool.state.store call.caller slot ⟨asset, call.caller, price⟩ ∧
        commit.effects.transfers =
          ((pool.state.store.lockOn slot).elim []
              fun lock => [lock.refund pool.state.store.poolAccount]) ++
            [.pay asset call.caller pool.state.store.poolAccount price] ∧
        commit.state.store.lockOn slot = some ⟨asset, call.caller, price⟩) ∧
    (∀ call action commit, pool.ByOthers (.call call) → call.action = .user action →
      pool.attempt call = .ok commit →
      action.Escrows pool.state.store call.caller commit.reply commit.effects.transfers
        commit.state.store.lockOn) ∧
    ∀ moves slot lock, pool.Obeys ByOthers moves → pool.state.store.lockOn slot = some lock →
      pool.Along (fun between => between.state.store.lockOn slot = some lock) moves ∨
        ∃ before call after, moves = before ++ .call call :: after ∧
          pool.Along (fun between => between.state.store.lockOn slot = some lock) before ∧
          (pool.follow before).Releases slot lock call := by
  refine ⟨?_, ?_, fun moves slot lock hobeys hlock => h.lock_along hobeys hlock⟩
  · intro call action price commit admitted haction hoffer hcommit
    exact (h.attempt_escrows admitted haction hcommit).of_offer hoffer
  · intro call action commit admitted haction hcommit
    exact h.attempt_escrows admitted haction hcommit

end Pool

namespace SmallMarket

/-- In the small market the bid of 300 is locked until the liquidation, by which it leaves. -/
theorem liquidating_releases :
    (lent.follow auctioning).state.store.lockOn (.loan 1) = some ⟨coin, supplier, 300⟩ ∧
      (lent.follow auctioning).Releases (.loan 1) ⟨coin, supplier, 300⟩ liquidating := by
  have hlending : founded.Obeys Pool.ByOthers (setUp ++ lending) := by
    refine ⟨⟨?_, nofun⟩, ⟨?_, nofun⟩, ⟨?_, nofun⟩, ⟨?_, nofun⟩, trivial, trivial, ⟨?_, nofun⟩,
      ⟨?_, nofun⟩, trivial⟩
    all_goals decide +kernel
  have hauctioning : lent.Obeys Pool.ByOthers auctioning := by
    refine ⟨trivial, trivial, ⟨?_, nofun⟩, trivial⟩
    decide +kernel
  have hliquidating : (lent.follow auctioning).Obeys Pool.ByOthers [.call liquidating] := by
    refine ⟨⟨?_, nofun⟩, trivial⟩
    decide +kernel
  have hr : (lent.follow auctioning).Reachable Pool.ByOthers :=
    ((Pool.Reachable.created founded_created).follow hlending).follow hauctioning
  have hlock : (lent.follow auctioning).state.store.lockOn (.loan 1) =
      some ⟨coin, supplier, 300⟩ := by
    decide +kernel
  have hgone : ((lent.follow auctioning).after (.call liquidating)).state.store.lockOn (.loan 1) =
      none := by
    decide +kernel
  refine ⟨hlock, ?_⟩
  -- nothing below looks into the pool
  generalize lent.follow auctioning = pool at hr hlock hgone hliquidating ⊢
  rcases (Pool.Reachable.bids_leave_once hr).2.2 _ _ _ hliquidating hlock with
    halong | ⟨before, call, after, hsplit, -, hreleases⟩
  · exact absurd (hgone.symm.trans halong.2) nofun
  · cases before with
    | nil =>
      simp only [List.nil_append, List.cons.injEq, Move.call.injEq] at hsplit
      rw [hsplit.1]
      exact hreleases
    | cons =>
      have hlength := congrArg List.length hsplit
      simp at hlength

end SmallMarket

end PooledCredit
