import PooledCredit.Proofs.Custody
import PooledCredit.Proofs.Pool.Obligations

/-!
# The pool account can always pay

Every request asks for transfers that leave the pool account with what it must hold afterwards,
and each payment out of it is covered when its turn comes. So the balance of the pool account in
custody is never below its obligations, and no payment out of it fails for want of balance.
-/

namespace PooledCredit

/-- A venue whose account never changes. -/
def Venue.Steady (N : Type) [Venue N] : Prop :=
  ∀ (venue venue' : N) (item : Item) (asset : Asset) (floor proceeds : Nat),
    Venue.sell venue item asset floor = .ok (proceeds, venue') →
      Venue.account venue' = Venue.account venue

/-- Giving the tokens of a loan back takes nothing off a balance. -/
lemma Lasts.release {asset : Asset} {account : Account} {rest balance : Nat} {store : Store}
    {loan : Loan} {closed : Bool} (h : rest ≤ balance) :
    Lasts asset account rest (store.release loan closed) balance := by
  unfold Store.release
  split
  · exact Lasts.handover h
  · exact h

namespace Store

variable {store : Store} {caller : Account} {item : Item} {amount now balance : Nat}
variable {asset : Asset}

/-! ## Supplying, borrowing and repaying -/

/-- A deposit brings what the funds gain. -/
lemma deposit_lasts {scaled : Nat} {ledger : Ledger} {beneficiary : Account} {lent : Asset}
    (hcaller : caller ≠ store.poolAccount)
    (hd : store.ledger.deposit lent beneficiary amount now = .ok (scaled, ledger))
    (hb : store.obligations asset ≤ balance) :
    Lasts asset store.poolAccount ({ store with ledger }.obligations asset)
      (Transfer.payment lent caller store.poolAccount amount) balance := by
  have hchange := store.obligations_ledger ledger asset
  have hfunds := Ledger.deposit_fundsOf hd asset
  rw [← List.append_nil (Transfer.payment _ _ _ _)]
  by_cases hasset : asset = lent
  · subst hasset
    rw [if_pos rfl] at hfunds
    exact .payIn hcaller (show _ ≤ _ by omega)
  · rw [if_neg hasset] at hfunds
    exact .payElse (Ne.symm hasset) (show _ ≤ _ by omega)

variable {O V N : Type} [PriceSource O] [Vault V] [Venue N] {prices : O} {vault vault' : V}

/-- A withdrawal takes what the funds lose. -/
lemma withdraw_lasts (honest : Vault.Honest V) {paid : Nat} {movement : Movement}
    {ledger : Ledger} {recipient : Account} {lent : Asset}
    (hw : store.ledger.withdraw vault lent caller amount now =
      .ok (paid, movement, ledger, vault'))
    (hb : store.obligations asset ≤ balance) :
    Lasts asset store.poolAccount ({ store with ledger }.obligations asset)
      (Transfer.payment lent store.poolAccount recipient paid) balance := by
  have hchange := store.obligations_ledger ledger asset
  have hfunds := Ledger.withdraw_fundsOf honest hw asset
  rw [← List.append_nil (Transfer.payment _ _ _ _)]
  by_cases hasset : asset = lent
  · subst hasset
    rw [if_pos rfl] at hfunds
    exact .payOut (by omega) (show _ ≤ _ by omega)
  · rw [if_neg hasset] at hfunds
    exact .payElse (Ne.symm hasset) (show _ ≤ _ by omega)

/-- A borrow takes what the funds lose; no bid is locked on the new loan. -/
lemma borrow_lasts (honest : Vault.Honest V) (h : store.Orderly) {lent : Asset}
    {debtor : Account}
    (s : BorrowSteps store prices vault caller lent amount item debtor now vault')
    (hb : store.obligations asset ≤ balance) :
    Lasts asset store.poolAccount
      ({ store with ledger := s.lent, loans := s.loans }.obligations asset)
      (Transfer.handover item caller store.poolAccount ++
        .mint s.wrapped debtor :: Transfer.payment lent store.poolAccount caller amount)
      balance := by
  obtain ⟨hid, -, hloans⟩ := LoanBook.openNew_eq_ok s.opens
  have hfree : store.loans.loan? s.id = none := hid ▸ h.book.next_free
  have hchange := h.obligations_rewrite s.lent
    (congrArg LoanBook.loans hloans)
    (fun old hold => absurd (hfree.symm.trans hold) (by simp)) asset
  have hnone : Loan.lockedBid asset
      ⟨s.id, debtor, caller, item, s.wrapped, lent, s.scaled, .active, none, now, now⟩ = 0 := rfl
  rw [hfree, SortedMap.part_none, hnone] at hchange
  have hfunds := Ledger.lend_fundsOf honest s.lends asset
  rw [Ledger.accrue_fundsOf s.accrues] at hfunds
  refine .handover ?_
  show Lasts asset store.poolAccount _ (Transfer.payment lent store.poolAccount caller amount) _
  rw [← List.append_nil (Transfer.payment _ _ _ _)]
  by_cases hasset : asset = lent
  · subst hasset
    rw [if_pos rfl] at hfunds
    exact .payOut (by omega) (show _ ≤ _ by omega)
  · rw [if_neg hasset] at hfunds
    exact .payElse (Ne.symm hasset) (show _ ≤ _ by omega)

/-- A repayment brings what the funds gain. -/
lemma repay_lasts (h : store.Orderly) (hcaller : caller ≠ store.poolAccount)
    (s : RepaySteps store item amount now) (hb : store.obligations asset ≤ balance) :
    Lasts asset store.poolAccount
      ({ store with ledger := s.repaid, loans := s.loans }.obligations asset)
      (Transfer.payment s.loan.asset caller store.poolAccount s.repayment.paid ++
        store.release s.loan (s.repayment.remaining == 0)) balance := by
  obtain ⟨hfiled, -, -⟩ := h.book.of_openLoan? s.isOpen
  obtain ⟨loan, hloans, hasset, hstatus, -⟩ :=
    LoanBook.payDown_rewrites hfiled rfl (by rw [s.active]; nofun) s.paysDown
  have hchange := h.obligations_replace s.repaid hfiled hloans hasset asset
  have hfunds := Ledger.repay_fundsOf s.repays asset
  rw [Ledger.accrue_fundsOf s.accrues] at hfunds
  have hold : s.loan.lockedBid asset = 0 := by simp [Loan.lockedBid, s.active]
  have hnew : loan.lockedBid asset = 0 := by simp [Loan.lockedBid, hstatus]
  rw [hold, hnew] at hchange
  by_cases heq : asset = s.loan.asset
  · rw [if_pos heq] at hfunds
    rw [← heq]
    exact .payIn hcaller (.release (by omega))
  · rw [if_neg heq] at hfunds
    exact .payElse (Ne.symm heq) (.release (by omega))

/-! ## Bidding and redeeming -/

/-- A bid brings what it locks and gives back what the bid before had locked. -/
lemma bid_lasts (h : store.Orderly) (hcaller : caller ≠ store.poolAccount) {price : Nat}
    {bidder : Account} (s : BidSteps store prices caller item price bidder now)
    (hb : store.obligations asset ≤ balance) :
    Lasts asset store.poolAccount
      ({ store with ledger := s.accrued, loans := store.loans.setLoan s.bidden }.obligations asset)
      (s.refund ++ Transfer.payment s.loan.asset caller store.poolAccount price) balance := by
  obtain ⟨hfiled, -, -⟩ := h.book.of_openLoan? s.isOpen
  have hchange := h.obligations_replace s.accrued hfiled
    (show (store.loans.setLoan s.bidden).loans = store.loans.loans.insert s.loan.id s.bidden
      from rfl) rfl asset
  rw [Ledger.accrue_fundsOf s.accrues] at hchange
  have hnew : s.bidden.lockedBid asset = if s.loan.asset = asset then price else 0 := by
    simp [Loan.lockedBid, BidSteps.bidden]
  rw [hnew] at hchange
  rw [← List.append_nil (Transfer.payment s.loan.asset caller _ _)]
  by_cases hasset : s.loan.asset = asset
  · rw [if_pos hasset] at hchange
    rcases s.admitted with ⟨⟨first⟩⟩ | ⟨⟨later⟩⟩
    · rw [first.refunds, hasset]
      exact .payIn hcaller (show _ ≤ _ by omega)
    · have hold : s.loan.lockedBid asset = later.previous.price := by
        simp [Loan.lockedBid, later.auction, later.locked, hasset]
      have hle := lockedBid_le_of_loan hfiled asset
      rw [hold] at hchange hle
      rw [later.refunds, hasset]
      exact .payOut (by omega) (.payIn hcaller (show _ ≤ _ by omega))
  · rw [if_neg hasset] at hchange
    rcases s.admitted with ⟨⟨first⟩⟩ | ⟨⟨later⟩⟩
    · rw [first.refunds]
      exact .payElse hasset (show _ ≤ _ by omega)
    · rw [later.refunds]
      exact .payElse hasset (.payElse hasset (show _ ≤ _ by omega))

/-- A redeem brings the payment and the fine, and gives back the bid with the fine. -/
lemma redeem_lasts (h : store.Orderly) (hcaller : caller ≠ store.poolAccount) {maxFine : Nat}
    (s : RedeemSteps store prices item amount maxFine now)
    (hb : store.obligations asset ≤ balance) :
    Lasts asset store.poolAccount
      ({ store with ledger := s.repaid, loans := s.loans }.obligations asset)
      (Transfer.payment s.loan.asset caller store.poolAccount (s.repayment.paid + s.bid.fine) ++
        Transfer.payment s.loan.asset store.poolAccount s.bid.payer s.bid.price ++
          Transfer.payment s.loan.asset store.poolAccount s.bid.bidder s.bid.fine ++
            store.release s.loan (s.repayment.remaining == 0)) balance := by
  obtain ⟨hfiled, -, -⟩ := h.book.of_openLoan? s.isOpen
  have hfiled' : store.loans.loan?
      ({ s.loan with status := .active, bid := none } : Loan).id = some s.loan := hfiled
  obtain ⟨loan, hloans, hasset, hstatus, -⟩ :=
    LoanBook.payDown_rewrites hfiled' rfl nofun s.paysDown
  have hchange := h.obligations_replace s.repaid hfiled' hloans hasset asset
  have hfunds := Ledger.repay_fundsOf s.repays asset
  rw [Ledger.accrue_fundsOf s.accrues] at hfunds
  have hnew : loan.lockedBid asset = 0 := by simp [Loan.lockedBid, hstatus]
  rw [hnew] at hchange
  simp only [List.append_assoc]
  by_cases heq : asset = s.loan.asset
  · have hold : s.loan.lockedBid asset = s.bid.price := by
      simp [Loan.lockedBid, s.auction, s.locked, heq]
    have hle := lockedBid_le_of_loan hfiled asset
    rw [hold] at hchange hle
    rw [if_pos heq] at hfunds
    rw [← heq]
    refine .payIn hcaller (.payOut ?_ (.payOut ?_ (.release ?_)))
    · omega
    · omega
    · omega
  · rw [if_neg heq] at hfunds
    have hne := Ne.symm heq
    exact .payElse hne (.payElse hne (.payElse hne (.release (by omega))))

/-! ## Settling -/

/-- A settlement turns the locked bid, if any, and the repaid part of the proceeds into funds. -/
lemma settle_obligations (h : store.Orderly) {loan : Loan} {proceeds : Nat}
    (hfiled : store.loans.loan? loan.id = some loan) (s : SettleSteps store loan proceeds now)
    (asset : Asset) :
    { store with ledger := s.settled, loans := s.loans }.obligations asset +
        loan.lockedBid asset =
      store.obligations asset + (if asset = loan.asset then min proceeds s.debt else 0) := by
  obtain ⟨found, hfound, -, hfinal, hloans⟩ := LoanBook.close_eq_ok s.closes
  rw [hfiled] at hfound
  obtain rfl := Option.some.inj hfound
  have hchange := h.obligations_replace s.settled hfiled (congrArg LoanBook.loans hloans) rfl asset
  have hnew : Loan.lockedBid asset { loan with
      status := if s.loss = 0 then .repaid else .defaulted
      bid := none
      scaled := 0
      updatedAt := now } = 0 := by
    simp [Loan.lockedBid]
  rw [hnew] at hchange
  have hrepaid : s.repaid.fundsOf asset =
      store.ledger.fundsOf asset + (if asset = loan.asset then min proceeds s.debt else 0) := by
    rcases s.repays with ⟨hz, -, hledger⟩ | ⟨repayment, -, hp, -⟩
    · rw [hledger, hz]
      simp
    · obtain ⟨reserve, debt, _, htouch, -, hd, hpaid, -⟩ := Ledger.repay_eq_ok hp
      obtain rfl := Option.some.inj (htouch.old.symm.trans s.found)
      obtain rfl := Except.ok.inj (hd.symm.trans s.owes)
      rw [Ledger.repay_fundsOf hp, hpaid, Nat.min_assoc, Nat.min_self]
  have hsettled : s.settled.fundsOf asset = s.repaid.fundsOf asset := by
    rcases s.writesOff with ⟨-, -, hledger⟩ | ⟨-, hw⟩
    · rw [hledger]
    · exact Ledger.writeOff_fundsOf hw asset
  omega

/-- A settlement pays out its surplus, which the proceeds or the locked bid cover. -/
lemma settle_lasts (h : store.Orderly) {loan : Loan} {proceeds : Nat} {winner : Option Account}
    {settlement : Settlement} {store' : Store} {transfers : List Transfer}
    (hfiled : store.loans.loan? loan.id = some loan)
    (hs : store.settle loan proceeds winner now = .ok (settlement, store', transfers))
    (hb : store.obligations asset + (if asset = loan.asset then proceeds else 0) ≤
      balance + loan.lockedBid asset) :
    Lasts asset store.poolAccount (store'.obligations asset) transfers balance := by
  obtain ⟨s, -, rfl, rfl⟩ := settle_eq_ok hs
  have hchange := settle_obligations h hfiled s asset
  have hle := lockedBid_le_of_loan hfiled asset
  have htokens (rest' balance' : Nat) (hrest : rest' ≤ balance') :
      Lasts asset store.poolAccount rest'
        (winner.elim [] (Transfer.handover loan.item store.poolAccount) ++ [.burn loan.wrapped])
        balance' := by
    cases winner with
    | none => exact hrest
    | some winner => exact .handover hrest
  rw [List.append_assoc]
  by_cases hasset : asset = loan.asset
  · rw [if_pos hasset] at hb hchange
    rw [← hasset]
    exact .payOut (by omega) (htokens _ _ (by omega))
  · rw [if_neg hasset] at hb hchange
    exact .payElse (Ne.symm hasset) (htokens _ _ (by omega))

/-- Accruing changes no obligation. -/
lemma accrue_obligations {lent : Asset} {accrual : Accrual} {ledger : Ledger}
    (ha : store.ledger.accrue lent now = .ok (accrual, ledger)) (asset : Asset) :
    { store with ledger }.obligations asset = store.obligations asset := by
  have hchange := store.obligations_ledger ledger asset
  rw [Ledger.accrue_fundsOf ha] at hchange
  omega

/-- A liquidation pays its surplus out of the locked bid. -/
lemma liquidate_lasts (h : store.Orderly) {minPrice : Nat}
    (s : LiquidateSteps store item minPrice now) (hb : store.obligations asset ≤ balance) :
    Lasts asset store.poolAccount (s.store'.obligations asset) s.transfers balance := by
  obtain ⟨hfiled, -, -⟩ := h.book.of_openLoan? s.isOpen
  refine settle_lasts (h.ledger s.accrued) hfiled s.settles ?_
  rw [accrue_obligations s.accrues]
  simp only [Loan.lockedBid, s.auction, s.locked, Option.elim_some, true_and, eq_comm]
  omega

/-- A sale brings the proceeds, after the bid on the loan is given back. -/
lemma sell_lasts (h : store.Orderly) {venue venue' : N}
    (hvenue : Venue.account venue' ≠ store.poolAccount)
    (s : SellSteps store prices venue item now venue') (hb : store.obligations asset ≤ balance) :
    Lasts asset store.poolAccount (s.store'.obligations asset)
      (s.refund ++ Transfer.handover s.loan.item store.poolAccount (Venue.account venue') ++
        Transfer.payment s.loan.asset (Venue.account venue') store.poolAccount s.proceeds ++
          s.transfers) balance := by
  obtain ⟨hfiled, -, -⟩ := h.book.of_openLoan? s.isOpen
  have hsettle (balance' : Nat)
      (hb' : store.obligations asset + (if asset = s.loan.asset then s.proceeds else 0) ≤
        balance' + s.loan.lockedBid asset) :
      Lasts asset store.poolAccount (s.store'.obligations asset) s.transfers balance' := by
    refine settle_lasts (h.ledger s.accrued) hfiled s.settles ?_
    rw [accrue_obligations s.accrues]
    exact hb'
  have hle := lockedBid_le_of_loan hfiled asset
  simp only [List.append_assoc]
  by_cases hasset : asset = s.loan.asset
  · simp only [if_pos hasset] at hsettle
    rcases checkSale_eq_ok s.checks with ⟨hactive, -, hrefund⟩ |
      ⟨bid, deadline, hauction, hbid, -, -, -, hrefund⟩
    · rw [hrefund, ← hasset]
      refine .handover (.payIn hvenue (hsettle _ ?_))
      omega
    · have hold : s.loan.lockedBid asset = bid.price := by
        simp [Loan.lockedBid, hauction, hbid, hasset]
      rw [hold] at hle hsettle
      rw [hrefund, ← hasset]
      refine .payOut (by omega) (.handover (.payIn hvenue (hsettle _ ?_)))
      omega
  · have hne := Ne.symm hasset
    simp only [if_neg hasset] at hsettle
    have hold : s.loan.lockedBid asset = 0 := by simp [Loan.lockedBid, hne]
    rw [hold] at hsettle
    rcases checkSale_eq_ok s.checks with ⟨hactive, -, hrefund⟩ |
      ⟨bid, deadline, hauction, hbid, -, -, -, hrefund⟩
    · rw [hrefund]
      refine .handover (.payElse hne (hsettle _ ?_))
      omega
    · rw [hrefund]
      refine .payElse hne (.handover (.payElse hne (hsettle _ ?_)))
      omega

/-! ## Selling a debt -/

/-- No bid is locked on a new listing. -/
lemma list_lasts {kind : SaleKind} {price endsAt : Nat}
    (s : ListSteps store caller item kind price endsAt now)
    (hfresh : store.board.listing? (Listing.nameFor item s.loan.id store.board.nonce) = none)
    (hb : store.obligations asset ≤ balance) :
    Lasts asset store.poolAccount ({ store with board := s.board }.obligations asset) []
      balance := by
  have hposts := ListingBoard.post_eq_ok s.posts
  have hchange := store.obligations_setListing (congrArg ListingBoard.listings hposts) asset
  have hnone : Listing.lockedBid store.loans asset
      ⟨Listing.nameFor item s.loan.id store.board.nonce, item, s.loan.id, kind, caller, price,
        s.ending, none, 0, .active, now⟩ = 0 := by
    simp [Listing.lockedBid]
  rw [hfresh, SortedMap.part_none, hnone] at hchange
  exact show _ ≤ _ by omega

/-- Passing a debt keeps the loans. -/
lemma PassSteps.loansKept (h : store.Orderly) {listing : Listing} {buyer : Account}
    (s : PassSteps store listing buyer) : LoansKept store.loans s.passed := by
  obtain ⟨hfiled, -, -⟩ := h.book.of_openLoan? s.isOpen
  refine loansKept_insert rfl fun old hold => ?_
  rw [hfiled] at hold
  rw [← Option.some.inj hold]

/-- Passing a debt frees the bid that is locked on its listing. -/
lemma passDebt_obligations (h : store.Orderly) {listing : Listing} {buyer : Account}
    (hlisting : store.board.listing? listing.id = some listing) (s : PassSteps store listing buyer)
    (asset : Asset) :
    { store with loans := s.passed, board := store.board.finish listing .sold }.obligations asset +
        listing.lockedBid store.loans asset =
      store.obligations asset := by
  obtain ⟨hfiled, -, -⟩ := h.book.of_openLoan? s.isOpen
  have hloans := h.obligations_replace store.ledger hfiled
    (show s.passed.loans = store.loans.loans.insert s.loan.id { s.loan with debtor := buyer }
      from rfl) rfl asset
  have hsame : Loan.lockedBid asset { s.loan with debtor := buyer } = s.loan.lockedBid asset := rfl
  rw [hsame] at hloans
  have hboard :
      { store with loans := s.passed, board := store.board.finish listing .sold }.obligations
          asset + listing.lockedBid s.passed asset =
        { store with loans := s.passed }.obligations asset +
          Listing.lockedBid s.passed asset { listing with status := .sold } := by
    have hset := obligations_setListing { store with loans := s.passed }
      (show (store.board.finish listing .sold).listings =
        store.board.listings.insert listing.id { listing with status := .sold } from rfl) asset
    rw [hlisting, SortedMap.part_some] at hset
    exact hset
  have hsold : Listing.lockedBid s.passed asset { listing with status := .sold } = 0 := by
    simp [Listing.lockedBid]
  obtain ⟨loan, hloan⟩ := h.backed _ _ hlisting
  obtain ⟨loan', hloan', hasset⟩ := s.loansKept h _ _ hloan
  have hlocked : listing.lockedBid s.passed asset = listing.lockedBid store.loans asset := by
    simp only [Listing.lockedBid, hloan, hloan', Option.map_some, hasset]
  have hloans' : { store with loans := s.passed }.obligations asset = store.obligations asset := by
    show { store with ledger := store.ledger, loans := s.passed }.obligations asset = _
    omega
  omega

/-- A purchase takes nothing from the pool account. -/
lemma buyDebt_lasts (h : store.Orderly) (hcaller : caller ≠ store.poolAccount)
    (s : BuyDebtSteps store caller item) (hb : store.obligations asset ≤ balance) :
    Lasts asset store.poolAccount (s.store'.obligations asset)
      (Transfer.payment s.asset caller s.listing.seller s.listing.price ++ s.handover) balance := by
  obtain ⟨hlisting, -, -⟩ := h.board.of_activeListing? s.listed
  obtain ⟨t, -, hhandover, hstore⟩ := passDebt_eq_ok s.passes
  have hchange := passDebt_obligations h hlisting t asset
  rw [hstore, hhandover, ← List.append_nil (Transfer.handover _ _ _)]
  exact .payAside hcaller (.handover (show _ ≤ _ by omega))

/-- What is locked on an active listing is its bid, in the asset of its loan. -/
lemma lockedBid_of_found {listing : Listing} {loan : Loan} (hactive : listing.status = .active)
    (hfound : store.loans.loan? listing.loan = some loan) (asset : Asset) :
    listing.lockedBid store.loans asset = if loan.asset = asset then listing.bid else 0 := by
  simp [Listing.lockedBid, hactive, hfound]

/-- A bid for a debt brings what it locks and gives back what the bid before had locked. -/
lemma bidDebt_lasts (h : store.Orderly) (hcaller : caller ≠ store.poolAccount)
    (s : BidDebtSteps store caller item amount now) (hb : store.obligations asset ≤ balance) :
    Lasts asset store.poolAccount
      ({ store with
        board := store.board.setListing
          { s.listing with bidder := some caller, bid := amount } }.obligations asset)
      ((s.listing.bidder.elim [] fun bidder =>
          Transfer.payment s.loan.asset store.poolAccount bidder s.listing.bid) ++
        Transfer.payment s.loan.asset caller store.poolAccount amount) balance := by
  obtain ⟨hlisting, -, hactive⟩ := h.board.of_activeListing? s.listed
  have hchange := store.obligations_setListing
    (show
      (store.board.setListing { s.listing with bidder := some caller, bid := amount }).listings =
        store.board.listings.insert s.listing.id
          { s.listing with bidder := some caller, bid := amount } from rfl) asset
  have hold := lockedBid_of_found hactive s.found asset
  have hnew : Listing.lockedBid store.loans asset
      { s.listing with bidder := some caller, bid := amount } =
        if s.loan.asset = asset then amount else 0 := by
    simp [Listing.lockedBid, hactive, s.found]
  have hle := lockedBid_le_of_listing hlisting asset
  rw [hlisting, SortedMap.part_some, hold, hnew] at hchange
  rw [hold] at hle
  rw [← List.append_nil (Transfer.payment s.loan.asset caller _ _)]
  by_cases hasset : s.loan.asset = asset
  · rw [if_pos hasset] at hle
    rw [if_pos hasset, if_pos hasset] at hchange
    rw [hasset]
    cases s.listing.bidder with
    | none => exact .payIn hcaller (show _ ≤ _ by omega)
    | some bidder => exact .payOut (by omega) (.payIn hcaller (show _ ≤ _ by omega))
  · rw [if_neg hasset, if_neg hasset] at hchange
    cases s.listing.bidder with
    | none => exact .payElse hasset (show _ ≤ _ by omega)
    | some bidder => exact .payElse hasset (.payElse hasset (show _ ≤ _ by omega))

/-- The open loan on the token of a current listing is the listed one. -/
lemma current_loan (h : store.Orderly) {listing : Listing} {loan : Loan}
    (hcurrent : store.isStale listing = false)
    (hopen : store.loans.openLoan? listing.item = some loan) :
    store.loans.loan? listing.loan = some loan := by
  obtain ⟨found, hfound, hid, -, -⟩ := isStale_eq_false.mp hcurrent
  rw [hopen] at hfound
  obtain rfl := Option.some.inj hfound
  rw [← hid]
  exact (h.book.of_openLoan? hopen).1

/-- A claim pays out the bid that was locked on the listing. -/
lemma claimDebt_lasts (h : store.Orderly) (s : ClaimDebtSteps store item now)
    (hb : store.obligations asset ≤ balance) :
    Lasts asset store.poolAccount (s.store'.obligations asset)
      (Transfer.payment s.asset store.poolAccount s.listing.seller s.listing.bid ++ s.handover)
      balance := by
  obtain ⟨hlisting, -, hactive⟩ := h.board.of_activeListing? s.listed
  obtain ⟨t, hasset, hhandover, hstore⟩ := passDebt_eq_ok s.passes
  have hchange := passDebt_obligations h hlisting t asset
  have hold := lockedBid_of_found hactive (current_loan h s.current t.isOpen) asset
  have hle := lockedBid_le_of_listing hlisting asset
  rw [hold] at hchange hle
  rw [hstore, hhandover, hasset, ← List.append_nil (Transfer.handover _ _ _)]
  by_cases heq : t.loan.asset = asset
  · rw [if_pos heq] at hchange hle
    rw [heq]
    exact .payOut (by omega) (.handover (show _ ≤ _ by omega))
  · rw [if_neg heq] at hchange
    exact .payElse heq (.handover (show _ ≤ _ by omega))

/-- A cancellation gives back the bid that was locked on the listing. -/
lemma cancelListing_lasts (h : store.Orderly) (s : CancelSteps store caller item)
    (hb : store.obligations asset ≤ balance) :
    Lasts asset store.poolAccount
      ({ store with board := store.board.finish s.listing .cancelled }.obligations asset)
      s.refund balance := by
  obtain ⟨hlisting, -, hactive⟩ := h.board.of_activeListing? s.listed
  have hchange := store.obligations_setListing
    (show (store.board.finish s.listing .cancelled).listings =
      store.board.listings.insert s.listing.id { s.listing with status := .cancelled } from rfl)
    asset
  have hnew : Listing.lockedBid store.loans asset { s.listing with status := .cancelled } = 0 := by
    simp [Listing.lockedBid]
  have hle := lockedBid_le_of_listing hlisting asset
  rw [hlisting, SortedMap.part_some, hnew] at hchange
  rcases s.refunds with ⟨-, -, hrefund⟩ | ⟨bidder, loan, -, hfound, -, hrefund⟩
  · rw [hrefund]
    exact show _ ≤ _ by omega
  · have hold := lockedBid_of_found hactive hfound asset
    rw [hold] at hchange hle
    rw [hrefund, ← List.append_nil (Transfer.payment _ _ _ _)]
    by_cases hasset : loan.asset = asset
    · rw [if_pos hasset] at hchange hle
      rw [hasset]
      exact .payOut (by omega) (show _ ≤ _ by omega)
    · rw [if_neg hasset] at hchange
      exact .payElse hasset (show _ ≤ _ by omega)

/-! ## Actions -/

/-- A user's action of another account than the pool's keeps a store orderly and asks for
transfers that leave the pool account with its obligations, provided that a new listing gets a
new name. -/
lemma Orderly.user (h : store.Orderly) (honest : Vault.Honest V)
    (hcaller : caller ≠ store.poolAccount) {action : UserAction} {venue : N}
    {facility : Facility V N} {transfers : List Transfer}
    (hvenue : Venue.account facility.venue ≠ store.poolAccount) (hfree : action.NameFree store)
    (hs : action.Serves prices store vault venue caller now facility transfers) :
    facility.store.Orderly ∧ ∀ asset balance, store.obligations asset ≤ balance →
      Lasts asset store.poolAccount (facility.store.obligations asset) transfers balance := by
  refine ⟨h.served hfree hs, fun asset balance hb => ?_⟩
  cases hs with
  | deposit hd => exact deposit_lasts hcaller hd hb
  | withdraw hw => exact withdraw_lasts honest hw hb
  | borrow s => exact borrow_lasts honest h s hb
  | repay s => exact repay_lasts h hcaller s hb
  | setMandate => exact hb
  | bid s => exact bid_lasts h hcaller s hb
  | redeem s => exact redeem_lasts h hcaller s hb
  | liquidate s => exact liquidate_lasts h s hb
  | sell s => exact sell_lasts h hvenue s hb
  | list s => exact list_lasts s (hfree _ _ _ _ s.loan rfl s.isOpen) hb
  | buyDebt s => exact buyDebt_lasts h hcaller s hb
  | bidDebt s => exact bidDebt_lasts h hcaller s hb
  | claimDebt s =>
    rw [s.poolAccount_eq]
    exact claimDebt_lasts h s hb
  | cancelListing s => exact cancelListing_lasts h s hb

end Store

/-! ## Pools -/

variable {O V N : Type} [PriceSource O] [Vault V] [Venue N]

/-- A user's action leaves the account of a steady venue as it is. -/
lemma UserAction.Serves.venue_account (steady : Venue.Steady N) {action : UserAction} {prices : O}
    {store : Store} {vault : V} {venue : N} {facility : Facility V N} {caller : Account} {now : Nat}
    {transfers : List Transfer}
    (h : action.Serves prices store vault venue caller now facility transfers) :
    Venue.account facility.venue = Venue.account venue := by
  cases h with
  | sell s => exact steady _ _ _ _ _ _ s.sells
  | _ => rfl

namespace Pool

/-- A call that lists a debt finds the name of its listing free. Names are hashes that hold the
number of the listing, so that only a collision of the hash could take one
(`Reachable.taken_name`). -/
def NameFree (pool : Pool O V N) (call : Call) : Prop :=
  ∀ item kind price endsAt loan, call.action = .user (.list item kind price endsAt) →
    pool.state.store.loans.openLoan? item = some loan →
    pool.state.store.board.listing?
      (Listing.nameFor item loan.id pool.state.store.board.nonce) = none

omit [PriceSource O] [Vault V] [Venue N] in
/-- A user's call that finds its name free is an action that does. -/
lemma NameFree.action {pool : Pool O V N} {call : Call} (h : pool.NameFree call)
    {action : UserAction} (haction : call.action = .user action) :
    action.NameFree pool.state.store :=
  fun item kind price endsAt loan hlist =>
    h item kind price endsAt loan (haction.trans (congrArg Action.user hlist))

/-- The moves that leave the pool account able to pay: no action is called by the pool account
itself, the account of the venue stays the same, and no new listing has the hash of an older
one. -/
def Regular (pool : Pool O V N) : Move O V N → Prop
  | .call call => call.caller ≠ pool.state.store.poolAccount ∧ pool.NameFree call
  | .turn _ _ venue => Venue.account venue = Venue.account pool.venue
  | .fund .. => True
  | .mint .. => True

/-- The store is orderly and the balance of the pool account covers its obligations. -/
structure Covered (state : PoolState) : Prop where
  orderly : state.store.Orderly
  covers : ∀ asset, state.store.obligations asset ≤
    state.custody.balanceOf asset state.store.poolAccount

/-- The account of a steady venue stays another than the pool's. -/
lemma Reachable.venue_apart (steady : Venue.Steady N) {pool : Pool O V N}
    (h : pool.Reachable Regular) :
    Venue.account pool.venue ≠ pool.state.store.poolAccount := by
  induction h with
  | created h =>
    obtain ⟨store, -, hne, rfl, -⟩ := create_eq_ok h
    exact hne
  | @moved pool move h admitted ih =>
    cases move with
    | call call =>
      show Venue.account (pool.execute call).2.venue ≠
        (pool.execute call).2.state.store.settings.poolAccount
      rcases pool.execute_cases call with ⟨-, hs, -, hvenue⟩ |
        ⟨action, _, facility, _, custody, -, -, ha, -, hs, -, hvenue⟩ |
        ⟨action, _, state, _, _, -, ha, hs, -, hvenue⟩
      · rw [hs, hvenue]
        exact ih
      · have hserves := UserAction.run_serves ha
        rw [hs, hvenue, hserves.venue_account steady]
        show _ ≠ facility.store.settings.poolAccount
        rw [hserves.settings]
        exact ih
      · rw [hs, hvenue, (OperatorAction.run_eq_ok ha).1]
        exact ih
    | fund asset account amount =>
      simp only [Pool.after]
      cases hf : pool.fund asset account amount with
      | ok funded =>
        simp only [Pool.fund, bind_eq_ok, pure_eq_ok] at hf
        obtain ⟨_, -, rfl⟩ := hf
        exact ih
      | error e => exact ih
    | mint item owner => exact ih
    | turn prices vault venue =>
      show Venue.account venue ≠ pool.state.store.poolAccount
      rw [show Venue.account venue = Venue.account pool.venue from admitted]
      exact ih

/-- Regular moves keep the pool account covered. -/
lemma preserves_covered (honest : Vault.Honest V) (steady : Venue.Steady N) :
    Preserves (Regular : Pool O V N → Move O V N → Prop) Covered where
  user {pool action caller now reply facility effects custody} hr admitted hi _ h hc := by
    obtain ⟨hcaller, hfree⟩ := admitted
    have hserves := UserAction.run_serves h
    have hvenue : Venue.account facility.venue ≠ pool.state.store.poolAccount := by
      rw [hserves.venue_account steady]
      exact hr.venue_apart steady
    obtain ⟨horderly, hlasts⟩ := hi.orderly.user honest hcaller hvenue (hfree.action rfl) hserves
    refine ⟨horderly, fun asset => ?_⟩
    have hpool : facility.store.poolAccount = pool.state.store.poolAccount :=
      congrArg Settings.poolAccount hserves.settings
    have hrest := (hlasts asset _ (hi.covers asset)).applyAll hc
    rw [← hpool] at hrest
    exact hrest
  operator {pool action caller now reply state vault events} hi h := by
    obtain ⟨hsettings, hloans, hboard, hcustody, hledger⟩ := OperatorAction.run_eq_ok h
    refine ⟨hi.orderly.frame hloans hboard, fun asset => ?_⟩
    have hle := hledger.fundsOf_le honest asset
    have hcovers := hi.covers asset
    simp only [Store.obligations, Store.poolAccount, hsettings, hloans, hboard, hcustody]
      at hcovers ⊢
    omega
  fund {state asset account amount custody} hi h := by
    refine ⟨hi.orderly, fun other => (hi.covers other).trans ?_⟩
    simp only [Custody.fund, bind_eq_ok, addAmount_eq_ok, pure_eq_ok] at h
    obtain ⟨_, ⟨-, rfl⟩, rfl⟩ := h
    show _ ≤ (Custody.setBalance _ _ _ _).balanceOf _ _
    rw [Custody.balanceOf_setBalance]
    split
    · next heq =>
      rw [heq.1]
      show state.custody.balanceOf asset state.store.poolAccount ≤ _
      rw [show state.store.poolAccount = account from heq.2]
      exact Nat.le_add_right _ _
    · exact Nat.le_refl _
  mint _ hi := ⟨hi.orderly, hi.covers⟩

/-- What is covered holds in every pool that regular moves lead to. -/
lemma Reachable.covered (honest : Vault.Honest V) (steady : Venue.Steady N)
    {pool : Pool O V N} (h : pool.Reachable Regular) : Covered pool.state := by
  refine h.invariant (preserves_covered honest steady) fun settings store state hs hstore _ => ?_
  obtain rfl := Store.create_eq_ok hs
  refine ⟨?_, fun asset => ?_⟩
  · rw [hstore]
    exact {
      book := LoanBook.consistent_empty
      board := ListingBoard.consistent_empty
      backed := fun _ _ hl => nomatch hl }
  · rw [hstore]
    exact Nat.zero_le _

/-- Only a collision takes the name of a new listing: the listing that has it already was posted
with a smaller number. -/
theorem Reachable.taken_name (honest : Vault.Honest V) (steady : Venue.Steady N)
    {pool : Pool O V N} (h : pool.Reachable Regular) {item : Item} {loan : LoanId}
    {listing : Listing}
    (htaken : pool.state.store.board.listing?
      (Listing.nameFor item loan pool.state.store.board.nonce) = some listing) :
    ∃ nonce < pool.state.store.board.nonce, Listing.nameFor listing.item listing.loan nonce =
      Listing.nameFor item loan pool.state.store.board.nonce :=
  (h.covered honest steady).orderly.board.collision htaken

/-- In every pool that regular moves lead to, with an honest vault and a steady venue, the
balance of the pool account covers the funds of the reserve and every locked bid in each asset;
and whatever call is regular there, each payment that its action asks for out of the pool account
is covered at the moment it is carried out. -/
theorem Reachable.pool_account_covers (honest : Vault.Honest V) (steady : Venue.Steady N)
    {pool : Pool O V N} (h : pool.Reachable Regular) :
    (∀ asset, pool.state.store.ledger.fundsOf asset +
        pool.state.store.loans.loans.total (Loan.lockedBid asset) +
        pool.state.store.board.listings.total
          (Listing.lockedBid pool.state.store.loans asset) ≤
      pool.state.custody.balanceOf asset pool.state.store.poolAccount) ∧
    ∀ call commit asset target amount before after middle, pool.Regular (.call call) →
      pool.run call = .ok commit →
      commit.effects.transfers =
        before ++ .pay asset pool.state.store.poolAccount target amount :: after →
      pool.state.custody.applyAll before = .ok middle →
      amount ≤ middle.balanceOf asset pool.state.store.poolAccount := by
  have hcovered := h.covered honest steady
  refine ⟨hcovered.covers, ?_⟩
  intro call commit asset target amount before after middle hregular hrun hsplit hbefore
  unfold run at hrun
  split at hrun
  · next action haction =>
    simp only [bind_eq_ok, pure_eq_ok, Prod.exists] at hrun
    obtain ⟨_, -, reply, facility, effects, ha, rfl⟩ := hrun
    have hserves := UserAction.run_serves ha
    have hvenue : Venue.account facility.venue ≠ pool.state.store.poolAccount := by
      rw [hserves.venue_account steady]
      exact h.venue_apart steady
    obtain ⟨-, hlasts⟩ := hcovered.orderly.user honest hregular.1 hvenue
      (hregular.2.action haction) hserves
    have hlasts := hlasts asset _ (hcovered.covers asset)
    rw [show effects.transfers = _ from hsplit] at hlasts
    exact hlasts.covers hbefore
  · -- an operator's action asks for no transfer
    simp only [bind_eq_ok, pure_eq_ok, Prod.exists] at hrun
    obtain ⟨_, _, _, _, -, rfl⟩ := hrun
    exact absurd hsplit (by simp)

end Pool

namespace SmallMarket

/-- The borrower puts its debt up for auction, and the supplier bids 400 for it. -/
def resale : List (Move PriceFeeds NoVault FlatVenue) :=
  [.call ⟨borrower, 0, .user (.list ⟨art, 1⟩ .auction 350 1000)⟩,
    .fund coin supplier 400,
    .call ⟨supplier, 0, .user (.bidDebt ⟨art, 1⟩ 400)⟩]

/-- With a debt under auction the pool account holds the 700 that are not lent and the bid. -/
theorem resale_covered :
    founded.Obeys Pool.Regular (setUp ++ lending ++ resale) ∧
      (founded.follow (setUp ++ lending ++ resale)).state.store.obligations coin = 1100 ∧
      1100 ≤ (founded.follow (setUp ++ lending ++ resale)).state.custody.balanceOf coin
        (founded.follow (setUp ++ lending ++ resale)).state.store.poolAccount := by
  have honest : Vault.Honest NoVault := by
    intro vault vault' asset request withdrawal h
    cases h
    exact Nat.zero_le _
  have steady : Venue.Steady FlatVenue := by
    intro venue venue' item asset floor proceeds h
    cases h
    rfl
  have hobeys : founded.Obeys Pool.Regular (setUp ++ lending ++ resale) := by
    refine ⟨⟨?_, nofun⟩, ⟨?_, nofun⟩, ⟨?_, nofun⟩, ⟨?_, nofun⟩, trivial, trivial, ⟨?_, nofun⟩,
      ⟨?_, nofun⟩, ⟨?_, fun item kind price endsAt loan haction hopen => ?_⟩, trivial,
      ⟨?_, nofun⟩, trivial⟩
    case refine_8 =>
      have hempty : lent.state.store.board = {} := by decide +kernel
      show lent.state.store.board.listing? (Listing.nameFor item loan.id _) = none
      rw [hempty]
      rfl
    all_goals decide +kernel
  have hreachable := (Pool.Reachable.created founded_created).follow hobeys
  have hobligations :
      (founded.follow (setUp ++ lending ++ resale)).state.store.obligations coin = 1100 := by
    decide +kernel
  refine ⟨hobeys, hobligations, ?_⟩
  have hcovers := (Pool.Reachable.pool_account_covers honest steady hreachable).1 coin
  rw [← hobligations]
  exact hcovers

end SmallMarket

end PooledCredit
