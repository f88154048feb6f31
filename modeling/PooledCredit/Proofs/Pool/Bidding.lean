import PooledCredit.Proofs.Loans.Windows
import PooledCredit.Proofs.Pool.Permissions
import PooledCredit.Proofs.Resale.Consent

/-!
# The bids of an auction

A loan under auction only holds its last bid, and a listing only the last bid for its debt. So the
bids that were accepted are kept beside the run: for a loan those since it was last not under
auction, for a listing those since its name was last given. The first bid on a loan covers the
least first bid and the debt, starts the windows and sets the fine; every later one covers the debt
of its own time and raises the bid before it by the least step, and carries the start and the fine
of the first one on. The first bid for a debt covers the price of the listing, and every later one
raises the bid before it by the least step. A listing that takes the name of another starts without
bids, so nothing is assumed of names.
-/

namespace PooledCredit

open Store

/-! ## Histories -/

namespace Pool

variable {O V N : Type} [PriceSource O] [Vault V] [Venue N]

/-- What is written down along a list of moves, the latest first and in front of what was written
before, if each move writes down what it is told to. -/
def chronicle {T : Type} (write : Pool O V N → Move O V N → List T → List T) (pool : Pool O V N)
    (past : List T) : List (Move O V N) → List T
  | [] => past
  | move :: moves => (pool.after move).chronicle write (write pool move past) moves

/-- What every move preserves, of the pool together with what is written down, holds at the end of
every run. -/
lemma chronicle_invariant {T : Type} {write : Pool O V N → Move O V N → List T → List T}
    {I : Pool O V N → List T → Prop}
    (step : ∀ pool past move, I pool past → I (pool.after move) (write pool move past))
    {pool : Pool O V N} {past : List T} (h : I pool past) (moves : List (Move O V N)) :
    I (pool.follow moves) (pool.chronicle write past moves) := by
  induction moves generalizing pool past with
  | nil => exact h
  | cons move moves ih => exact ih (step pool past move h)

/-- The call by which a move carries out a user's action, if it carries one out. -/
def served? (pool : Pool O V N) (move : Move O V N) : Option (Call × UserAction) :=
  match pool.record [] move with
  | deed :: _ =>
    match deed.call.action with
    | .user action => some (deed.call, action)
    | .operator _ => none
  | [] => none

/-- A move carries out a user's action, or it leaves the loans and the board alone. -/
lemma served_cases (pool : Pool O V N) (move : Move O V N) :
    (∃ call action facility transfers, pool.served? move = some (call, action) ∧
      action.Serves pool.prices pool.state.store pool.vault pool.venue call.caller call.now facility
        transfers ∧
      (pool.after move).state.store = facility.store) ∨
    pool.served? move = none ∧
      (pool.after move).state.store.loans = pool.state.store.loans ∧
      (pool.after move).state.store.board = pool.state.store.board := by
  rcases pool.record_cases [] move with
    ⟨call, action, facility, transfers, -, haction, hrecord, hserves, hstore⟩ |
    ⟨hloans, hboard, hrecord⟩
  · refine .inl ⟨call, action, facility, transfers, ?_, hserves, hstore⟩
    simp only [served?, hrecord, haction]
  · refine .inr ⟨?_, hloans, hboard⟩
    rcases hrecord with hrecord | ⟨deed, action, hrecord, haction⟩
    · simp only [served?, hrecord]
    · simp only [served?, hrecord, haction]

end Pool

/-- A bid that was accepted, with the store and the prices that it found. -/
structure Tender (O : Type) where
  store : Store
  prices : O
  payer : Account
  /-- The account that gets what is bid for. -/
  bidder : Account
  price : Nat
  now : Nat

/-- The least price that raises a bid, given the increment in basis points: more by the increment,
rounded up, and by one at least. -/
def raised (price increment : Nat) : Nat :=
  price + max 1 (Rounding.up.divide (price * increment) fullShare)

/-- A bid and the least step from it make the least price that raises it. -/
lemma raised_of_bidStep {price increment step : Nat} (h : bidStep price increment = .ok step) :
    price + step = raised price increment := by
  simp only [bidStep, bind_eq_ok, pure_eq_ok] at h
  obtain ⟨share, hshare, rfl⟩ := h
  obtain ⟨-, -, rfl⟩ := mulDiv_eq_ok.mp hshare
  rw [raised, Nat.max_comm]

/-! ## Auctions of collateral -/

/-- What the first bid of an auction found and reached. The loan was active. The price covers the
debt of that time and the collateral at its threshold less the bonus, each rounded down; the fine is
that of the terms and prices of that time. -/
def Tender.Opens {O : Type} [PriceSource O] (tender : Tender O) (id : LoanId) (fine : Nat) : Prop :=
  ∃ loan config valuation reserve,
    tender.store.loans.loan? id = some loan ∧ loan.status = .active ∧
    tender.store.ledger.reserves.get? loan.asset = some reserve ∧
    tender.store.valuation tender.prices loan.item loan.asset loan.scaled tender.now =
      .ok (config, valuation) ∧
    tender.store.owedAt loan tender.now = .ok valuation.debt ∧
    config.terms.bonus ≤ fullShare ∧
    max valuation.debt
        (valuation.collateralAmount * config.terms.threshold / fullShare *
          (fullShare - config.terms.bonus) / fullShare) ≤ tender.price ∧
    config.terms.redeemFine valuation.debt valuation.price reserve.decimals = .ok fine

/-- What a later bid of an auction found and reached: the price raises the bid before it by the
least step and covers the debt of its own time. -/
def Tender.Outbids {O : Type} (tender : Tender O) (increment : Nat) (id : LoanId)
    (earlier : Tender O) : Prop :=
  raised earlier.price increment ≤ tender.price ∧
    ∃ loan debt, tender.store.loans.loan? id = some loan ∧
      tender.store.owedAt loan tender.now = .ok debt ∧ debt ≤ tender.price

/-- The rules of an auction on a loan, given the increment in basis points, the bids that were
accepted in it, the latest first, and the bid that the loan holds. -/
structure AuctionRules {O : Type} [PriceSource O] (increment : Nat) (id : LoanId)
    (tenders : List (Tender O)) (bid : Bid) : Prop where
  /-- The loan holds the last bid. -/
  last : ∃ tender, tenders.head? = some tender ∧ bid.payer = tender.payer ∧
    bid.bidder = tender.bidder ∧ bid.price = tender.price
  /-- The start and the fine are those of the first bid. -/
  first : ∃ tender, tenders.getLast? = some tender ∧ tender.Opens id bid.fine ∧
    bid.startedAt = tender.now
  later : tenders.IsChain fun tender earlier => tender.Outbids increment id earlier

namespace Store.BidSteps

variable {O : Type} [PriceSource O] {store : Store} {prices : O} {caller bidder : Account}
variable {item : Item} {price now : Nat}

/-- A first bid opens an auction. -/
lemma opens (s : BidSteps store prices caller item price bidder now) (hb : store.loans.Consistent)
    (first : FirstBid s.loan s.config.terms s.valuation s.reserve.decimals price now s.startedAt
      s.fine s.refund) :
    Tender.Opens ⟨store, prices, caller, bidder, price, now⟩ s.loan.id s.fine := by
  obtain ⟨hfiled, -, -⟩ := hb.of_openLoan? s.isOpen
  have howed := (owedAt_of_accrued s.accrues s.found).trans
    (debtOf_of_valued s.accrues s.found s.valued)
  have hvalued := valuation_of_valued s.accrues s.configured s.found s.valued
  -- the accrual keeps the decimals of the reserve
  obtain ⟨before, _, htouch, haccrue⟩ := Ledger.accrue_eq_ok s.accrues
  obtain rfl := htouch.found s.found
  obtain ⟨-, -, -, hdecimals⟩ := Reserve.accrue_debtIndexAt haccrue
  have hrequires := first.requires
  simp only [CollateralTerms.firstBid, shareOf, bareSub_eq_ok, mulDiv_eq_ok, bind_eq_ok,
    pure_eq_ok] at hrequires
  obtain ⟨_, ⟨-, -, rfl⟩, _, ⟨hbonus, rfl⟩, _, ⟨-, -, rfl⟩, hrequired⟩ := hrequires
  refine ⟨s.loan, s.config, s.valuation, before, hfiled, first.active, htouch.old, hvalued, howed,
    hbonus, ?_, ?_⟩
  · rw [Nat.max_comm]
    exact hrequired ▸ first.covers
  · rw [← hdecimals]
    exact first.fines

/-- A later bid outbids the one before it. -/
lemma outbids (s : BidSteps store prices caller item price bidder now)
    (hb : store.loans.Consistent)
    (later : LaterBid store.settings s.loan s.config.terms s.valuation price now s.startedAt s.fine
      s.refund) {earlier : Tender O} (hprevious : later.previous.price = earlier.price) :
    Tender.Outbids ⟨store, prices, caller, bidder, price, now⟩ store.settings.bidIncrement s.loan.id
      earlier := by
  obtain ⟨hfiled, -, -⟩ := hb.of_openLoan? s.isOpen
  have howed := (owedAt_of_accrued s.accrues s.found).trans
    (debtOf_of_valued s.accrues s.found s.valued)
  refine ⟨?_, s.loan, s.valuation.debt, hfiled, howed, later.covers⟩
  rw [← hprevious, ← raised_of_bidStep later.steps]
  exact later.raises

/-- A bid that is accepted keeps to the rules of the auction, which starts with it if the loan was
not under auction. -/
lemma keepsRules (s : BidSteps store prices caller item price bidder now)
    (hb : store.loans.Consistent) {tenders : List (Tender O)}
    (hover : s.loan.status ≠ .auction → tenders = [])
    (hrules : s.loan.status = .auction →
      ∃ bid, s.loan.bid = some bid ∧
        AuctionRules store.settings.bidIncrement s.loan.id tenders bid) :
    AuctionRules store.settings.bidIncrement s.loan.id
      (⟨store, prices, caller, bidder, price, now⟩ :: tenders)
      ⟨bidder, caller, price, s.valuation.debt, s.fine, s.startedAt⟩ := by
  rcases s.admitted with ⟨⟨first⟩⟩ | ⟨⟨later⟩⟩
  · have hactive : s.loan.status ≠ .auction := by
      rw [first.active]
      nofun
    rw [hover hactive]
    exact ⟨⟨_, rfl, rfl, rfl, rfl⟩, ⟨_, rfl, s.opens hb first, first.starts⟩, .singleton _⟩
  · obtain ⟨bid, hbid, ⟨earlier, hearlier, -, -, hprice⟩, ⟨opening, hopening, hopens, hstart⟩,
      hchain⟩ := hrules later.auction
    obtain rfl := Option.some.inj (hbid.symm.trans later.locked)
    obtain ⟨older, rfl⟩ := List.head?_eq_some_iff.mp hearlier
    refine ⟨⟨_, rfl, rfl, rfl, rfl⟩, ⟨opening, ?_, ?_, ?_⟩, ?_⟩
    · rw [List.getLast?_cons_cons]
      exact hopening
    · rw [later.fines]
      exact hopens
    · exact later.starts.trans hstart
    · exact .cons_cons (s.outbids hb later hprice) hchain

end Store.BidSteps

/-- A step that leaves a loan under auction and is no bid leaves the loan as it is. -/
lemma UserAction.Alters.auction_kept {O : Type} [PriceSource O] {prices : O} {store : Store}
    {caller : Account} {now : Nat} {id : LoanId} {action : UserAction} {transfers : List Transfer}
    {old : Option Loan} {loan : Loan}
    (h : action.Alters prices store caller now id transfers old (some loan))
    (hauction : loan.status = .auction)
    (hother : ∀ item price bidder, action ≠ .bid item price bidder) : old = some loan := by
  cases h with
  | kept => rfl
  | opened => cases hauction
  | advanced advances =>
    cases advances with
    | auctioned | outbid => exact absurd rfl (hother _ _ _)
    | paidDown active | bought active | claimed active =>
      exact absurd (active.symm.trans hauction) nofun
    | repaid | redeemed | reclaimed => cases hauction
    | liquidated _ _ _ _ _ final | sold _ _ _ _ final | soldOver _ _ _ _ _ final =>
      rcases final with rfl | rfl <;> cases hauction

namespace Pool

variable {O V N : Type} [PriceSource O] [Vault V] [Venue N]

/-- Whether a loan is under auction can be computed. -/
instance instDecidableUnderAuction (id : LoanId) (pool : Pool O V N) :
    Decidable (pool.UnderAuction id) :=
  inferInstanceAs (Decidable (_ = _))

/-- The bids accepted on a loan in the auction that a move leaves it under, the latest first: a bid
on the loan is added to those before, and there are none when the loan is not under auction. -/
def writeTender (id : LoanId) (pool : Pool O V N) (move : Move O V N) (past : List (Tender O)) :
    List (Tender O) :=
  if (pool.after move).UnderAuction id then
    match pool.served? move with
    | some (call, .bid item price bidder) =>
      if (pool.state.store.loans.openLoan? item).map Loan.id = some id then
        ⟨pool.state.store, pool.prices, call.caller, bidder, price, call.now⟩ :: past
      else
        past
    | _ => past
  else
    []

/-- The bids accepted on a loan along a list of moves in the auction that it is under in the end,
the latest first, given those accepted before. -/
def tenders (pool : Pool O V N) (id : LoanId) (past : List (Tender O)) :
    List (Move O V N) → List (Tender O) :=
  pool.chronicle (writeTender id) past

variable {pool : Pool O V N} {move : Move O V N} {past : List (Tender O)}
variable {call : Call} {action : UserAction} {settings : Settings} {id : LoanId}

/-- A bid on a token is written down for the loan on the token. -/
lemma writeTender_of_bid (hunder : (pool.after move).UnderAuction id) {item : Item} {price : Nat}
    {bidder : Account} {loan : Loan}
    (hserved : pool.served? move = some (call, .bid item price bidder))
    (hopen : pool.state.store.loans.openLoan? item = some loan) :
    writeTender id pool move past =
      if loan.id = id then
        ⟨pool.state.store, pool.prices, call.caller, bidder, price, call.now⟩ :: past
      else
        past := by
  simp only [writeTender, if_pos hunder, hserved, hopen, Option.map_some, Option.some.injEq]

/-- Other actions leave what is written down for a loan under auction. -/
lemma writeTender_of_other (hunder : (pool.after move).UnderAuction id)
    (hserved : pool.served? move = some (call, action))
    (hother : ∀ item price bidder, action ≠ .bid item price bidder) :
    writeTender id pool move past = past := by
  rw [writeTender, if_pos hunder, hserved]
  split
  · next heq =>
    cases heq
    exact absurd rfl (hother _ _ _)
  · rfl

/-- The bids written down for a loan are those of the auction that it is under, which kept to the
rules; there are none if it is under none. -/
structure Auctions (settings : Settings) (id : LoanId) (pool : Pool O V N)
    (tenders : List (Tender O)) : Prop where
  store : pool.state.store.Reachable
  ruledBy : pool.state.store.settings = settings
  unbid : ¬ pool.UnderAuction id → tenders = []
  rules : ∀ loan, pool.state.store.loans.loan? id = some loan → loan.status = .auction →
    ∃ bid, loan.bid = some bid ∧ AuctionRules settings.bidIncrement id tenders bid

omit [Vault V] [Venue N] in
/-- A bid that is accepted keeps to the rules of the auction on its loan and leaves the others
alone. -/
lemma Auctions.bid (h : Auctions settings id pool past) {caller bidder : Account} {item : Item}
    {price now : Nat} (s : BidSteps pool.state.store pool.prices caller item price bidder now)
    {loan : Loan} (hloan : (pool.state.store.loans.setLoan s.bidden).loan? id = some loan)
    (hauction : loan.status = .auction) :
    ∃ bid, loan.bid = some bid ∧
      AuctionRules settings.bidIncrement id
        (if s.loan.id = id then
          ⟨pool.state.store, pool.prices, caller, bidder, price, now⟩ :: past
        else
          past) bid := by
  have hb := h.store.debtsAddUp.book
  obtain rfl := h.ruledBy
  rw [LoanBook.loan?_setLoan] at hloan
  by_cases hid : s.loan.id = id
  · subst hid
    rw [if_pos (show s.loan.id = s.bidden.id from rfl)] at hloan
    obtain rfl := Option.some.inj hloan
    obtain ⟨hfiled, -, -⟩ := hb.of_openLoan? s.isOpen
    have hover (hno : s.loan.status ≠ .auction) : past = [] := by
      refine h.unbid fun hunder => hno ?_
      rw [UnderAuction, hfiled] at hunder
      exact Option.some.inj hunder
    rw [if_pos rfl]
    exact ⟨_, rfl, s.keepsRules hb hover (h.rules s.loan hfiled)⟩
  · rw [if_neg (show id ≠ s.bidden.id from Ne.symm hid)] at hloan
    rw [if_neg hid]
    exact h.rules loan hloan hauction

/-- After every move the bids written down for a loan are those of the auction that it is under. -/
lemma Auctions.after (h : Auctions settings id pool past) (move : Move O V N) :
    Auctions settings id (pool.after move) (writeTender id pool move past) := by
  have hb := h.store.debtsAddUp.book
  refine ⟨pool.reachable_after h.store move, (pool.after_settings move).trans h.ruledBy,
    fun hover => if_neg hover, ?_⟩
  intro loan hloan hauction
  have hunder : (pool.after move).UnderAuction id := by
    rw [UnderAuction, hloan, Option.map_some, hauction]
  rcases pool.served_cases move with
    ⟨call, action, facility, transfers, hserved, hserves, hstore⟩ | ⟨hserved, hloans, -⟩
  · rw [hstore] at hloan
    by_cases hbid : ∃ item price bidder, action = .bid item price bidder
    · obtain ⟨item, price, bidder, rfl⟩ := hbid
      cases hserves with
      | bid s =>
        rw [writeTender_of_bid hunder hserved s.isOpen]
        exact h.bid s hloan hauction
    · have hother (item : Item) (price : Nat) (bidder : Account) :
          action ≠ .bid item price bidder :=
        fun heq => hbid ⟨item, price, bidder, heq⟩
      have halters := (hserves.records hb).alters hb id
      rw [hloan] at halters
      rw [writeTender_of_other hunder hserved hother]
      exact h.rules loan (halters.auction_kept hauction hother) hauction
  · rw [hloans] at hloan
    rw [writeTender, if_pos hunder, hserved]
    exact h.rules loan hloan hauction

end Pool

/-! ## Auctions of debts -/

/-- The rules of the auction of a debt, given the increment in basis points, the bids that were
accepted in it, the latest first, and the listing. -/
structure ListingRules {O : Type} (increment : Nat) (tenders : List (Tender O))
    (listing : Listing) : Prop where
  /-- The listing holds the last bid. -/
  last : listing.bidder = tenders.head?.map Tender.bidder ∧
    ∀ tender, tenders.head? = some tender → listing.bid = tender.price
  /-- The first bid found the listing without a bid and covered its price. -/
  first : ∀ tender, tenders.getLast? = some tender →
    ∃ found, tender.store.board.listing? listing.id = some found ∧ found.bidder = none ∧
      found.price = listing.price ∧ listing.price ≤ tender.price
  later : tenders.IsChain fun tender earlier => raised earlier.price increment ≤ tender.price

namespace ListingRules

variable {O : Type} {increment : Nat} {tenders : List (Tender O)}

/-- A listing without bids keeps to the rules. -/
lemma unbid {listing : Listing} (h : listing.bidder = none) :
    ListingRules increment ([] : List (Tender O)) listing :=
  ⟨⟨h, nofun⟩, nofun, .nil⟩

/-- How a listing ends changes nothing on its bids. -/
lemma finish {listing : Listing} (h : ListingRules increment tenders listing)
    (status : ListingStatus) : ListingRules increment tenders { listing with status } :=
  ⟨h.last, h.first, h.later⟩

/-- A bid that is accepted keeps to the rules. -/
lemma bid {store : Store} {caller : Account} {item : Item} {amount now : Nat}
    (s : BidDebtSteps store caller item amount now)
    (hfiled : store.board.listing? s.listing.id = some s.listing)
    (h : ListingRules store.settings.debtBidIncrement tenders s.listing) (prices : O) :
    ListingRules store.settings.debtBidIncrement
      (⟨store, prices, caller, caller, amount, now⟩ :: tenders)
      { s.listing with bidder := some caller, bid := amount } := by
  have hlast : some caller = some caller ∧ ∀ tender : Tender O,
      some ⟨store, prices, caller, caller, amount, now⟩ = some tender → amount = tender.price := by
    refine ⟨rfl, ?_⟩
    rintro _ ⟨⟩
    rfl
  have hrequires := s.requires
  have hcovers := s.covers
  obtain ⟨⟨hbidder, hbid⟩, hfirst, hlater⟩ := h
  cases tenders with
  | nil =>
    replace hbidder : s.listing.bidder = none := hbidder
    simp only [nextDebtBid, hbidder] at hrequires
    refine ⟨hlast, ?_, .singleton _⟩
    rintro _ ⟨⟩
    exact ⟨s.listing, hfiled, hbidder, rfl, (Except.ok.inj hrequires).trans_le hcovers⟩
  | cons earlier older =>
    replace hbidder : s.listing.bidder = some earlier.bidder := hbidder
    simp only [nextDebtBid, hbidder, bind_eq_ok, addAmount_eq_ok] at hrequires
    obtain ⟨step, hstep, -, hrequired⟩ := hrequires
    refine ⟨hlast, ?_, .cons_cons ?_ hlater⟩
    · rw [List.getLast?_cons_cons]
      exact hfirst
    · rw [← hbid earlier rfl, ← raised_of_bidStep hstep, hrequired]
      exact hcovers

end ListingRules

namespace Pool

variable {O V N : Type} [PriceSource O] [Vault V] [Venue N]

/-- The bids accepted on a listing after a move, the latest first: a bid on the listing is added to
those before, and a listing that is posted under the name starts without bids. -/
def writeDebtTender (id : ListingId) (pool : Pool O V N) (move : Move O V N)
    (past : List (Tender O)) : List (Tender O) :=
  match pool.served? move with
  | some (_, .list item ..) =>
    if (pool.state.store.loans.openLoan? item).map (fun loan =>
        Listing.nameFor item loan.id pool.state.store.board.nonce) = some id then
      []
    else
      past
  | some (call, .bidDebt item amount) =>
    if (pool.state.store.board.activeListing? item).map Listing.id = some id then
      ⟨pool.state.store, pool.prices, call.caller, call.caller, amount, call.now⟩ :: past
    else
      past
  | _ => past

/-- The bids accepted along a list of moves on the listing that has a name in the end, the latest
first, given those accepted before. -/
def debtTenders (pool : Pool O V N) (id : ListingId) (past : List (Tender O)) :
    List (Move O V N) → List (Tender O) :=
  pool.chronicle (writeDebtTender id) past

/-- The bids written down for a listing kept to the rules. -/
structure Resales (settings : Settings) (id : ListingId) (pool : Pool O V N)
    (tenders : List (Tender O)) : Prop where
  authored : ∃ past, pool.state.store.Authored past
  ruledBy : pool.state.store.settings = settings
  rules : ∀ listing, pool.state.store.board.listing? id = some listing →
    ListingRules settings.debtBidIncrement tenders listing

variable {pool : Pool O V N} {past : List (Tender O)} {settings : Settings} {id : ListingId}

omit [PriceSource O] [Vault V] [Venue N] in
/-- Ending a listing changes nothing on the bids written down. -/
lemma Resales.finish (h : Resales settings id pool past) {item : Item} {listing : Listing}
    (hlisted : pool.state.store.board.activeListing? item = some listing) (status : ListingStatus)
    {listing' : Listing}
    (hlisting' : (pool.state.store.board.finish listing status).listing? id = some listing') :
    ListingRules settings.debtBidIncrement past listing' := by
  obtain ⟨_, hauthored⟩ := h.authored
  rw [ListingBoard.listing?_finish] at hlisting'
  split at hlisting'
  · next hid =>
    obtain rfl := Option.some.inj hlisting'
    refine (h.rules listing ?_).finish status
    rw [hid]
    exact hauthored.board.of_activeListing? hlisted
  · exact h.rules listing' hlisting'

omit [PriceSource O] [Vault V] [Venue N] in
/-- A listing that is posted under a name starts without bids. -/
lemma Resales.list (h : Resales settings id pool past) {caller : Account} {item : Item}
    {kind : SaleKind} {price endsAt now : Nat}
    (s : ListSteps pool.state.store caller item kind price endsAt now)
    {listing : Listing} (hlisting : s.board.listing? id = some listing) :
    ListingRules settings.debtBidIncrement
      (if Listing.nameFor item s.loan.id pool.state.store.board.nonce = id then [] else past)
      listing := by
  have hposts := congrArg ListingBoard.listings (ListingBoard.post_eq_ok s.posts)
  rw [ListingBoard.listing?_insert hposts] at hlisting
  split at hlisting
  · next hid =>
    obtain rfl := Option.some.inj hlisting
    rw [if_pos hid.symm]
    exact .unbid rfl
  · next hid =>
    rw [if_neg (Ne.symm hid)]
    exact h.rules listing hlisting

omit [PriceSource O] [Vault V] [Venue N] in
/-- A bid that is accepted keeps to the rules of the listing that it is on and leaves the others
alone. -/
lemma Resales.bidDebt (h : Resales settings id pool past) {caller : Account} {item : Item}
    {amount now : Nat} (s : BidDebtSteps pool.state.store caller item amount now)
    {listing : Listing}
    (hlisting : (pool.state.store.board.setListing
      { s.listing with bidder := some caller, bid := amount }).listing? id = some listing) :
    ListingRules settings.debtBidIncrement
      (if s.listing.id = id then
        ⟨pool.state.store, pool.prices, caller, caller, amount, now⟩ :: past
      else
        past) listing := by
  obtain ⟨_, hauthored⟩ := h.authored
  obtain rfl := h.ruledBy
  rw [ListingBoard.listing?_setListing] at hlisting
  split at hlisting
  · next hid =>
    obtain rfl := Option.some.inj hlisting
    replace hid : id = s.listing.id := hid
    subst hid
    rw [if_pos rfl]
    have hfiled := hauthored.board.of_activeListing? s.listed
    exact .bid s hfiled (h.rules s.listing hfiled) _
  · next hid =>
    rw [if_neg (Ne.symm hid)]
    exact h.rules listing hlisting

/-- After every move the bids written down for a listing kept to the rules. -/
lemma Resales.after (h : Resales settings id pool past) (move : Move O V N) :
    Resales settings id (pool.after move) (writeDebtTender id pool move past) := by
  obtain ⟨deeds, hauthored⟩ := h.authored
  refine ⟨⟨_, authored_after hauthored move⟩, (pool.after_settings move).trans h.ruledBy, ?_⟩
  intro listing hlisting
  rcases pool.served_cases move with
    ⟨call, action, facility, transfers, hserved, hserves, hstore⟩ | ⟨hserved, -, hboard⟩
  · rw [hstore] at hlisting
    simp only [writeDebtTender, hserved]
    cases hserves with
    | deposit | withdraw | borrow | repay | setMandate | bid | redeem =>
      exact h.rules listing hlisting
    | liquidate s | sell s =>
      obtain ⟨_, -, hstore, -⟩ := Store.settle_eq_ok s.settles
      replace hlisting : s.store'.board.listing? id = some listing := hlisting
      rw [hstore] at hlisting
      exact h.rules listing hlisting
    | list s =>
      simp only [s.isOpen, Option.map_some, Option.some.injEq]
      exact h.list s hlisting
    | bidDebt s =>
      simp only [s.listed, Option.map_some, Option.some.injEq]
      exact h.bidDebt s hlisting
    | buyDebt s | claimDebt s =>
      obtain ⟨_, -, -, hstore⟩ := Store.passDebt_eq_ok s.passes
      replace hlisting : s.store'.board.listing? id = some listing := hlisting
      rw [hstore] at hlisting
      exact h.finish s.listed .sold hlisting
    | cancelListing s => exact h.finish s.listed .cancelled hlisting
  · rw [hboard] at hlisting
    simp only [writeDebtTender, hserved]
    exact h.rules listing hlisting

/-! ## Runs -/

/-- The bids of every run. The bid that a loan under auction holds is the last of those accepted
since it was last not under auction, of which there is one at least. The first of them covered the
debt and the least first bid of its time, and the start and the fine are those that it set; every
later one raised the one before it by the increment, rounded up, and by one at least, and covered
the debt of its own time. The bid that a listing holds is the last of those accepted since it was
posted. The first of them covered the price of the listing, and every later one raised the one
before it in the same way. -/
theorem bids_keep_to_rules {prices : O} {vault : V} {venue : N} {founder : Account} {now : Nat}
    {start : Pool O V N} (h : create prices vault venue founder settings now = .ok start)
    (moves : List (Move O V N)) :
    (∀ id loan, (start.follow moves).state.store.loans.loan? id = some loan →
      loan.status = .auction →
      ∃ bid, loan.bid = some bid ∧
        AuctionRules settings.bidIncrement id (start.tenders id [] moves) bid) ∧
    ∀ id listing, (start.follow moves).state.store.board.listing? id = some listing →
      ListingRules settings.debtBidIncrement (start.debtTenders id [] moves) listing := by
  obtain ⟨store, hcreated, -, hstore, -⟩ := create_eq_ok h
  have hempty := Store.create_eq_ok hcreated
  constructor
  · intro id
    have hstart : Auctions settings id start [] := by
      refine ⟨?_, ?_, fun _ => rfl, ?_⟩
      · rw [hstore]
        exact ⟨[], .created hcreated⟩
      · rw [hstore, hempty]
      · rw [hstore, hempty]
        exact fun _ hloan => nomatch hloan
    have hend : Auctions settings id (start.follow moves) (start.tenders id [] moves) :=
      chronicle_invariant (I := Auctions settings id) (fun _ _ move hi => hi.after move) hstart
        moves
    exact hend.rules
  · intro id
    have hstart : Resales settings id start [] := by
      refine ⟨⟨[], ?_⟩, ?_, ?_⟩
      · rw [hstore]
        exact authored_created hcreated
      · rw [hstore, hempty]
      · rw [hstore, hempty]
        exact fun _ hlisting => nomatch hlisting
    have hend : Resales settings id (start.follow moves) (start.debtTenders id [] moves) :=
      chronicle_invariant (I := Resales settings id) (fun _ _ move hi => hi.after move) hstart
        moves
    exact hend.rules

end Pool

namespace SmallMarket

/-- The founder bids 404 for the debt that the supplier had bid 400 for. Then the price of the token
falls, and half an hour later the supplier bids 301 for the token; of the founder's bids of 303 and
of 305 after an hour the first is too low. -/
def contest : List (Move PriceFeeds NoVault FlatVenue) :=
  [.fund coin founder 1000,
    .call ⟨founder, 0, .user (.bidDebt ⟨art, 1⟩ 404)⟩,
    .turn { feeds with floors := feeds.floors.insert art ⟨300 * wad, 0⟩ } {} venue,
    .call ⟨supplier, 1800, .user (.bid ⟨art, 1⟩ 301 supplier)⟩,
    .call ⟨founder, 3600, .user (.bid ⟨art, 1⟩ 303 founder)⟩,
    .call ⟨founder, 3600, .user (.bid ⟨art, 1⟩ 305 founder)⟩]

/-- The bids that were accepted, on the token and for its debt, kept to the rules. The bid of 305
carries the start and the fine of the bid of 301. -/
theorem contest_rules :
    ∃ loan bid listing,
      (founded.follow (setUp ++ lending ++ reoffering ++ contest)).state.store.loans.loan? 1 =
        some loan ∧
      loan.status = .auction ∧ loan.bid = some bid ∧ bid.price = 305 ∧ bid.startedAt = 1800 ∧
      bid.fine = 15 ∧
      (founded.tenders 1 [] (setUp ++ lending ++ reoffering ++ contest)).map Tender.price =
        [305, 301] ∧
      AuctionRules 100 1 (founded.tenders 1 [] (setUp ++ lending ++ reoffering ++ contest)) bid ∧
      (founded.follow (setUp ++ lending ++ reoffering ++ contest)).state.store.board.activeListing?
        ⟨art, 1⟩ = some listing ∧
      (founded.debtTenders listing.id [] (setUp ++ lending ++ reoffering ++ contest)).map
        Tender.price = [404, 400] ∧
      ListingRules 100
        (founded.debtTenders listing.id [] (setUp ++ lending ++ reoffering ++ contest))
        listing := by
  have hauction : ∃ loan ∈ (founded.follow
      (setUp ++ lending ++ reoffering ++ contest)).state.store.loans.loan? 1,
      loan.status = .auction ∧ loan.bid.map (fun bid => [bid.price, bid.startedAt, bid.fine]) =
        some [305, 1800, 15] := by
    decide +kernel
  have hprices :
      (founded.tenders 1 [] (setUp ++ lending ++ reoffering ++ contest)).map Tender.price =
        [305, 301] := by
    decide +kernel
  have hlisted : ∃ listing ∈ (founded.follow
      (setUp ++ lending ++ reoffering ++ contest)).state.store.board.activeListing? ⟨art, 1⟩,
      (founded.follow (setUp ++ lending ++ reoffering ++ contest)).state.store.board.listing?
        listing.id = some listing ∧
      (founded.debtTenders listing.id [] (setUp ++ lending ++ reoffering ++ contest)).map
        Tender.price = [404, 400] := by
    decide +kernel
  obtain ⟨loan, hloan, hstatus, hbid⟩ := hauction
  obtain ⟨listing, hlisting, hfiled, hamounts⟩ := hlisted
  obtain ⟨hauctions, hlistings⟩ := Pool.bids_keep_to_rules founded_created
    (setUp ++ lending ++ reoffering ++ contest)
  obtain ⟨bid, hheld, hrules⟩ := hauctions 1 loan hloan hstatus
  simp only [hheld, Option.map_some, Option.some.injEq, List.cons.injEq, and_true] at hbid
  obtain ⟨hprice, hstart, hfine⟩ := hbid
  exact ⟨loan, bid, listing, hloan, hstatus, hheld, hprice, hstart, hfine, hprices, hrules,
    hlisting, hamounts, hlistings listing.id listing hfiled⟩

end SmallMarket

end PooledCredit
