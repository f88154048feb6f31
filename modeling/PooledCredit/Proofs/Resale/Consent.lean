import PooledCredit.Proofs.Resale.Listings

/-!
# Nobody owes without having agreed

Who becomes the debtor of a loan has agreed to it by an action of its own, and nobody loses a debt
that it did not offer. The state alone cannot say so: a mandate, a bid or an offer is only an entry
there. So the calls that a run carries out are kept beside it, each with the store it found, and
`Store.Authored` says that every mandate that stands is what the delegator last decided, that every
bid on a listing is of the account that last bid there, and that every listing was posted by its
seller, who owned the listed debt. No assumption on the names of listings is needed: a listing that
takes the name of another starts without a bid and has its own offer behind it.
-/

namespace PooledCredit

/-! ## The calls of a run -/

/-- A call that was carried out, with the store that it found. -/
structure Deed where
  store : Store
  call : Call

namespace Deed

/-- What a call decides on the leave of an account to borrow in the name of another. -/
def mandate? (deed : Deed) (delegator delegatee : Account) : Option Bool :=
  match deed.call.action with
  | .user (.setMandate other approved) =>
    if deed.call.caller = delegator ∧ other = delegatee then some approved else none
  | _ => none

/-- The account that bids by a call in the auction of a listing. -/
def bidder? (deed : Deed) (id : ListingId) : Option Account :=
  match deed.call.action with
  | .user (.bidDebt item _) =>
    if (deed.store.board.activeListing? item).map Listing.id = some id then some deed.call.caller
    else none
  | _ => none

/-- A call put a listing on the board: the seller offered the debt of the open loan on the token,
of which it was the debtor. -/
structure Posts (deed : Deed) (listing : Listing) : Prop where
  offer : ∃ price endsAt,
    deed.call.action = .user (.list listing.item listing.kind price endsAt)
  caller : deed.call.caller = listing.seller
  owned : ∃ loan, deed.store.loans.openLoan? listing.item = some loan ∧ loan.id = listing.loan ∧
    loan.debtor = listing.seller
  named : Listing.nameFor listing.item listing.loan deed.store.board.nonce = listing.id

/-- What an account last decided on the leave of another to borrow in its name, if it ever did. The
latest call comes first. -/
def lastMandate (past : List Deed) (delegator delegatee : Account) : Option Bool :=
  past.findSome? (·.mandate? delegator delegatee)

/-- The account that last bid in the auction of a listing, if one did. -/
def lastBidder (past : List Deed) (id : ListingId) : Option Account :=
  past.findSome? (·.bidder? id)

variable {deed : Deed} {past : List Deed}

/-- A call that decides nothing on a mandate leaves the last decision. -/
lemma lastMandate_cons_of_none {delegator delegatee : Account}
    (h : deed.mandate? delegator delegatee = none) :
    lastMandate (deed :: past) delegator delegatee = lastMandate past delegator delegatee := by
  rw [lastMandate, List.findSome?_cons, h]
  rfl

/-- A call that bids nothing on a listing leaves the last bidder. -/
lemma lastBidder_cons_of_none {id : ListingId} (h : deed.bidder? id = none) :
    lastBidder (deed :: past) id = lastBidder past id := by
  rw [lastBidder, List.findSome?_cons, h]
  rfl

/-- A call that bids on a listing makes its caller the last bidder. -/
lemma lastBidder_cons_of_some {id : ListingId} {account : Account}
    (h : deed.bidder? id = some account) : lastBidder (deed :: past) id = some account := by
  rw [lastBidder, List.findSome?_cons, h]

end Deed

open Deed

/-! ## What lies behind mandates and listings -/

/-- Listings are filed under their names; a bid on a listing is of the account that last bid there,
and every listing was posted by its seller. -/
structure ListingBoard.Authored (board : ListingBoard) (past : List Deed) : Prop where
  key : ∀ id listing, board.listing? id = some listing → listing.id = id
  bids : ∀ id listing bidder, board.listing? id = some listing → listing.bidder = some bidder →
    lastBidder past id = some bidder
  posts : ∀ id listing, board.listing? id = some listing → ∃ deed ∈ past, deed.Posts listing

namespace ListingBoard.Authored

variable {board board' : ListingBoard} {past : List Deed} {deed : Deed}
variable {item : Item} {listing : Listing}

/-- The active listing on a token is filed under its name. -/
lemma of_activeListing? (h : board.Authored past)
    (hlisted : board.activeListing? item = some listing) :
    board.listing? listing.id = some listing := by
  obtain ⟨id, -, hlisting⟩ := Option.bind_eq_some_iff.mp hlisted
  rw [h.key id listing hlisting]
  exact hlisting

/-- A call that bids on no listing leaves the board authored. -/
lemma extend (h : board.Authored past) (hquiet : ∀ id, deed.bidder? id = none) :
    board.Authored (deed :: past) where
  key := h.key
  bids id found bidder hf hbidder := by
    rw [lastBidder_cons_of_none (hquiet id)]
    exact h.bids id found bidder hf hbidder
  posts id found hf := by
    obtain ⟨origin, hmem, hposts⟩ := h.posts id found hf
    exact ⟨origin, List.mem_cons_of_mem _ hmem, hposts⟩

/-- Writing a listing that has its own authors leaves the board authored. -/
lemma write (h : board.Authored past)
    (hboard : board'.listings = board.listings.insert listing.id listing)
    (hbids : ∀ bidder, listing.bidder = some bidder → lastBidder past listing.id = some bidder)
    (hposts : ∃ deed ∈ past, deed.Posts listing) : board'.Authored past where
  key id found hf := by
    rw [listing?_insert hboard] at hf
    split at hf
    · next hid => rw [hid, ← Option.some.inj hf]
    · exact h.key id found hf
  bids id found bidder hf hbidder := by
    rw [listing?_insert hboard] at hf
    split at hf
    · next hid =>
      obtain rfl := Option.some.inj hf
      rw [hid]
      exact hbids bidder hbidder
    · exact h.bids id found bidder hf hbidder
  posts id found hf := by
    rw [listing?_insert hboard] at hf
    split at hf
    · obtain rfl := Option.some.inj hf
      exact hposts
    · exact h.posts id found hf

/-- Ending a listing leaves the board authored. -/
lemma finish (h : board.Authored past) (hlisted : board.activeListing? item = some listing)
    (status : ListingStatus) : (board.finish listing status).Authored past := by
  have hfiled := h.of_activeListing? hlisted
  obtain ⟨deed, hmem, hposts⟩ := h.posts listing.id listing hfiled
  refine h.write rfl (fun bidder hbidder => h.bids listing.id listing bidder hfiled hbidder) ?_
  exact ⟨deed, hmem, hposts.offer, hposts.caller, hposts.owned, hposts.named⟩

/-- A call that bids on the active listing of a token, and on no other, leaves the board authored:
its caller is the last bidder there, and the last bidders on the other listings are those of
before. -/
lemma bid (h : board.Authored past) (hlisted : board.activeListing? item = some listing)
    {caller : Account} (amount : Nat)
    (hbids : ∀ id, deed.bidder? id = if listing.id = id then some caller else none) :
    (board.setListing { listing with bidder := some caller, bid := amount }).Authored
      (deed :: past) where
  key id found hf := by
    rw [listing?_setListing] at hf
    split at hf
    · next hid => rw [hid, ← Option.some.inj hf]
    · exact h.key id found hf
  bids id found bidder hf hbidder := by
    rw [listing?_setListing] at hf
    split at hf
    · next hid =>
      obtain rfl := Option.some.inj hf
      refine lastBidder_cons_of_some ?_
      rw [hbids, if_pos hid.symm]
      exact hbidder
    · next hid =>
      rw [lastBidder_cons_of_none ((hbids id).trans (if_neg (Ne.symm hid)))]
      exact h.bids id found bidder hf hbidder
  posts id found hf := by
    have hfiled := h.of_activeListing? hlisted
    rw [listing?_setListing] at hf
    split at hf
    · obtain rfl := Option.some.inj hf
      obtain ⟨origin, hmem, hposts⟩ := h.posts listing.id listing hfiled
      exact ⟨origin, List.mem_cons_of_mem _ hmem, hposts.offer, hposts.caller, hposts.owned,
        hposts.named⟩
    · obtain ⟨origin, hmem, hposts⟩ := h.posts id found hf
      exact ⟨origin, List.mem_cons_of_mem _ hmem, hposts⟩

end ListingBoard.Authored

/-- Every mandate that stands is what its delegator last decided, and the listings have their
authors. -/
structure Store.Authored (store : Store) (past : List Deed) : Prop where
  mandates : ∀ delegator delegatee,
    store.loans.isMandated delegator delegatee = true ↔
      lastMandate past delegator delegatee = some true
  board : store.board.Authored past

namespace LoanBook

variable {book book' : LoanBook}

/-- Opening a loan leaves the mandates alone. -/
lemma openNew_mandates {debtor initiator : Account} {item wrapped : Item} {asset : Asset}
    {scaled now : Nat} {id : LoanId}
    (h : book.openNew debtor initiator item wrapped asset scaled now = .ok (id, book')) :
    book'.mandates = book.mandates := by
  obtain ⟨-, -, rfl⟩ := openNew_eq_ok h
  rfl

/-- Closing a loan leaves the mandates alone. -/
lemma close_mandates {id : LoanId} {status : LoanStatus} {now : Nat}
    (h : book.close id status now = .ok book') : book'.mandates = book.mandates := by
  obtain ⟨_, -, -, -, rfl⟩ := close_eq_ok h
  rfl

/-- Paying a loan down leaves the mandates alone. -/
lemma payDown_mandates {loan : Loan} {remaining now : Nat}
    (h : book.payDown loan remaining now = .ok book') : book'.mandates = book.mandates := by
  rcases payDown_eq_ok h with ⟨-, hclose⟩ | ⟨-, rfl⟩
  · exact close_mandates hclose
  · rfl

/-- A mandate is what was decided on it, and other mandates stay. -/
lemma isMandated_setMandate (delegator delegatee : Account) (approved : Bool)
    (other other' : Account) :
    (book.setMandate delegator delegatee approved).isMandated other other' =
      if delegator = other ∧ delegatee = other' then approved
      else book.isMandated other other' := by
  simp only [isMandated, SortedMap.contains, setMandate]
  by_cases hsame : delegator = other ∧ delegatee = other'
  · rw [if_pos hsame]
    obtain ⟨rfl, rfl⟩ := hsame
    cases approved
    · simp only [Bool.false_eq_true, if_false, SortedMap.get?_erase_self, Option.isSome_none]
    · simp only [if_true, SortedMap.get?_insert_self, Option.isSome_some]
  · have hne : (⟨other, other'⟩ : Mandate) ≠ ⟨delegator, delegatee⟩ := by
      intro heq
      obtain ⟨rfl, rfl⟩ := Mandate.mk.inj heq
      exact hsame ⟨rfl, rfl⟩
    rw [if_neg hsame]
    cases approved
    · simp only [Bool.false_eq_true, if_false, SortedMap.get?_erase_of_ne _ hne]
    · simp only [if_true, SortedMap.get?_insert_of_ne _ hne]

end LoanBook

/-! ## What a user's action does to them -/

variable {O V N : Type} [PriceSource O] [Vault V] [Venue N]

/-- Passing the debt of a current listing changes the debtor of the listed loan alone, from the
seller to the buyer. -/
lemma Store.passDebt_debtor {store store' : Store} (hb : store.loans.Consistent) {listing : Listing}
    {buyer : Account} {asset : Asset} {transfers : List Transfer}
    (hcurrent : store.isStale listing = false)
    (hp : store.passDebt listing buyer = .ok (asset, transfers, store')) {id : LoanId}
    {loan loan' : Loan} (hloan : store.loans.loan? id = some loan)
    (hloan' : store'.loans.loan? id = some loan') (hpassed : loan'.debtor ≠ loan.debtor) :
    listing.loan = id ∧ listing.seller = loan.debtor ∧ loan'.debtor = buyer := by
  obtain ⟨listed, hfiled, hof, -, hseller, -, -, rfl⟩ := passDebt_current hb hcurrent hp
  rw [LoanBook.loan?_setLoan] at hloan'
  split at hloan'
  · next hid =>
    replace hid : id = listed.id := hid
    obtain rfl := Option.some.inj (hfiled.symm.trans (hid ▸ hloan))
    obtain rfl := Option.some.inj hloan'
    exact ⟨hof.symm.trans hid.symm, hseller.symm, rfl⟩
  · rw [hloan] at hloan'
    obtain rfl := Option.some.inj hloan'
    exact absurd rfl hpassed

namespace UserAction.Serves

variable {action : UserAction} {prices : O} {store : Store} {vault : V} {venue : N}
variable {facility : Facility V N} {caller : Account} {now : Nat} {transfers : List Transfer}

/-- No action but the setting of a mandate touches the mandates. -/
lemma mandates_eq (hs : action.Serves prices store vault venue caller now facility transfers)
    (hother : ∀ delegatee approved, action ≠ .setMandate delegatee approved) :
    facility.store.loans.mandates = store.loans.mandates := by
  cases hs with
  | borrow s => exact LoanBook.openNew_mandates s.opens
  | repay s | redeem s => exact LoanBook.payDown_mandates s.paysDown
  | liquidate s | sell s =>
    obtain ⟨settled, -, hstore, -⟩ := Store.settle_eq_ok s.settles
    show s.store'.loans.mandates = store.loans.mandates
    rw [hstore]
    exact LoanBook.close_mandates settled.closes
  | buyDebt s | claimDebt s =>
    obtain ⟨_, -, -, hstore⟩ := Store.passDebt_eq_ok s.passes
    show s.store'.loans.mandates = store.loans.mandates
    rw [hstore]
    rfl
  | @setMandate delegatee approved => exact absurd rfl (hother delegatee approved)
  | deposit | withdraw | bid | list | bidDebt | cancelListing => rfl

/-- An action that succeeds leaves a store whose mandates are what was last decided. -/
lemma authored_mandates
    (hs : action.Serves prices store vault venue caller now facility transfers) {past : List Deed}
    (h : ∀ delegator delegatee, store.loans.isMandated delegator delegatee = true ↔
      lastMandate past delegator delegatee = some true) (delegator delegatee : Account) :
    facility.store.loans.isMandated delegator delegatee = true ↔
      lastMandate (⟨store, caller, now, .user action⟩ :: past) delegator delegatee = some true := by
  by_cases hsets : ∃ other approved, action = .setMandate other approved
  · obtain ⟨other, approved, rfl⟩ := hsets
    cases hs
    rw [LoanBook.isMandated_setMandate]
    by_cases hsame : caller = delegator ∧ other = delegatee
    · simp [lastMandate, mandate?, hsame]
    · have hquiet : mandate? ⟨store, caller, now, .user (.setMandate other approved)⟩ delegator
          delegatee = none := if_neg hsame
      rw [if_neg hsame, lastMandate_cons_of_none hquiet]
      exact h delegator delegatee
  · have hkept := hs.mandates_eq fun other approved heq => hsets ⟨other, approved, heq⟩
    have hquiet : mandate? ⟨store, caller, now, .user action⟩ delegator delegatee = none := by
      cases action with
      | setMandate other approved => exact absurd ⟨other, approved, rfl⟩ hsets
      | _ => rfl
    rw [lastMandate_cons_of_none hquiet, LoanBook.isMandated, hkept]
    exact h delegator delegatee

/-- An action that succeeds leaves a board whose listings have their authors. -/
lemma authored_board (hs : action.Serves prices store vault venue caller now facility transfers)
    {past : List Deed} (h : store.board.Authored past) :
    facility.store.board.Authored (⟨store, caller, now, .user action⟩ :: past) := by
  cases hs with
  | deposit | withdraw | borrow | repay | setMandate | bid | redeem => exact h.extend fun _ => rfl
  | liquidate s | sell s =>
    obtain ⟨_, -, hstore, -⟩ := Store.settle_eq_ok s.settles
    show s.store'.board.Authored _
    rw [hstore]
    exact h.extend fun _ => rfl
  | list s =>
    have hposts := congrArg ListingBoard.listings (ListingBoard.post_eq_ok s.posts)
    refine (h.extend fun _ => rfl).write hposts nofun ?_
    exact ⟨_, List.mem_cons_self, ⟨_, _, rfl⟩, rfl, ⟨s.loan, s.isOpen, rfl, s.owned⟩, rfl⟩
  | buyDebt s | claimDebt s =>
    obtain ⟨_, -, -, hstore⟩ := Store.passDebt_eq_ok s.passes
    show s.store'.board.Authored _
    rw [hstore]
    exact (h.extend fun _ => rfl).finish s.listed .sold
  | @bidDebt item amount s =>
    refine h.bid s.listed amount fun id => ?_
    simp only [bidder?, s.listed, Option.map_some, Option.some.injEq]
  | cancelListing s => exact (h.extend fun _ => rfl).finish s.listed .cancelled

/-- An action that succeeds leaves a store with authors. -/
lemma authored (hs : action.Serves prices store vault venue caller now facility transfers)
    {past : List Deed} (h : store.Authored past) :
    facility.store.Authored (⟨store, caller, now, .user action⟩ :: past) where
  mandates := hs.authored_mandates h.mandates
  board := hs.authored_board h.board

/-- A loan is opened by a borrow, in the caller's own name or by a mandate. -/
lemma debtor_of_opened (hs : action.Serves prices store vault venue caller now facility transfers)
    (hb : store.loans.Consistent) {id : LoanId} {loan' : Loan}
    (hnone : store.loans.loan? id = none) (hloan' : facility.store.loans.loan? id = some loan') :
    ∃ asset amount item referral, action = .borrow asset amount item loan'.debtor referral ∧
      (loan'.debtor = caller ∨ store.loans.isMandated loan'.debtor caller = true) := by
  have halters := (hs.records hb).alters hb id
  rw [hnone, hloan'] at halters
  cases halters with
  | @opened asset amount referral _ item _ debtor _ _ =>
    refine ⟨asset, amount, item, referral, rfl, ?_⟩
    cases hs with
    | borrow s => exact s.mandated

/-- The debtor of a loan on record changes by the sale of its debt only: the active listing on a
token is of that loan and of its debtor, and the caller buys it or it is claimed for its bidder. -/
lemma debtor_of_passed (hs : action.Serves prices store vault venue caller now facility transfers)
    (hb : store.loans.Consistent) {id : LoanId} {loan loan' : Loan}
    (hloan : store.loans.loan? id = some loan) (hloan' : facility.store.loans.loan? id = some loan')
    (hpassed : loan'.debtor ≠ loan.debtor) :
    ∃ item listing, store.board.activeListing? item = some listing ∧ listing.loan = id ∧
      listing.seller = loan.debtor ∧
      (action = .buyDebt item ∧ loan'.debtor = caller ∨
        action = .claimDebt item ∧ listing.bidder = some loan'.debtor) := by
  have hother (hbuy : ∀ item, action ≠ .buyDebt item)
      (hclaim : ∀ item, action ≠ .claimDebt item) : loan'.debtor = loan.debtor := by
    have halters := (hs.records hb).alters hb id
    rw [hloan, hloan'] at halters
    cases halters with
    | kept => rfl
    | advanced advances => exact advances.debtor hbuy hclaim
  cases hs with
  | @buyDebt item s =>
    obtain ⟨hof, hseller, hbuyer⟩ :=
      Store.passDebt_debtor hb s.current s.passes hloan hloan' hpassed
    exact ⟨item, s.listing, s.listed, hof, hseller, .inl ⟨rfl, hbuyer⟩⟩
  | @claimDebt item s =>
    obtain ⟨hof, hseller, hbuyer⟩ :=
      Store.passDebt_debtor hb s.current s.passes hloan hloan' hpassed
    exact ⟨item, s.listing, s.listed, hof, hseller, .inr ⟨rfl, hbuyer ▸ s.sold⟩⟩
  | deposit | withdraw | borrow | repay | setMandate | bid | redeem | liquidate | sell | list
    | bidDebt | cancelListing => exact absurd (hother nofun nofun) hpassed

end UserAction.Serves

/-! ## Runs -/

namespace Pool

/-- The calls carried out up to a move, the latest first, given those before it. -/
def record (pool : Pool O V N) (past : List Deed) : Move O V N → List Deed
  | .call call =>
    match (pool.execute call).1 with
    | .ok _ => ⟨pool.state.store, call⟩ :: past
    | .error _ => past
  | .fund .. | .mint .. | .turn .. => past

/-- The calls that a list of moves carries out, the latest first, in front of those before. -/
def deeds (pool : Pool O V N) (past : List Deed) : List (Move O V N) → List Deed
  | [] => past
  | move :: moves => (pool.after move).deeds (pool.record past move) moves

variable {pool : Pool O V N} {past : List Deed}

/-- A move carries out a user's call, which is recorded, or it leaves the loans and the board alone
and at most an operator's call is recorded. -/
lemma record_cases (pool : Pool O V N) (past : List Deed) (move : Move O V N) :
    (∃ call action facility transfers, move = .call call ∧ call.action = .user action ∧
      pool.record past move = ⟨pool.state.store, call⟩ :: past ∧
      action.Serves pool.prices pool.state.store pool.vault pool.venue call.caller call.now facility
        transfers ∧
      (pool.after move).state.store = facility.store) ∨
    (pool.after move).state.store.loans = pool.state.store.loans ∧
      (pool.after move).state.store.board = pool.state.store.board ∧
      (pool.record past move = past ∨ ∃ deed action, pool.record past move = deed :: past ∧
        deed.call.action = .operator action) := by
  cases move with
  | call call =>
    have hrecord (reply : Reply) (h : (pool.execute call).1 = .ok reply) :
        pool.record past (.call call) = ⟨pool.state.store, call⟩ :: past := by
      simp only [record, h]
    rcases pool.execute_cases call with ⟨hfailed, hstate, -, -⟩ |
      ⟨action, reply, facility, effects, custody, haction, hdone, ha, -, hstate, -, -⟩ |
      ⟨action, reply, state, vault, events, haction, ha, hstate, -, -⟩
    · refine .inr ⟨congrArg (·.store.loans) hstate, congrArg (·.store.board) hstate, .inl ?_⟩
      cases hresult : (pool.execute call).1 with
      | ok reply => exact absurd hresult (hfailed reply)
      | error cause => simp only [record, hresult]
    · exact .inl ⟨call, action, facility, effects.transfers, rfl, haction, hrecord reply hdone,
        UserAction.run_serves ha, congrArg (·.store) hstate⟩
    · obtain ⟨-, hloans, hboard, -, -⟩ := OperatorAction.run_eq_ok ha
      refine .inr ⟨(congrArg (·.store.loans) hstate).trans hloans,
        (congrArg (·.store.board) hstate).trans hboard, ?_⟩
      simp only [record]
      split
      · exact .inr ⟨_, action, rfl, haction⟩
      · exact .inl rfl
  | fund asset account amount =>
    refine .inr ?_
    simp only [after]
    cases hf : pool.fund asset account amount with
    | ok funded =>
      simp only [fund, bind_eq_ok, pure_eq_ok] at hf
      obtain ⟨_, -, rfl⟩ := hf
      exact ⟨rfl, rfl, .inl rfl⟩
    | error cause => exact ⟨rfl, rfl, .inl rfl⟩
  | mint item owner => exact .inr ⟨rfl, rfl, .inl rfl⟩
  | turn prices vault venue => exact .inr ⟨rfl, rfl, .inl rfl⟩

/-- A move leaves a store with authors among the calls that are recorded with it. -/
lemma authored_after (h : pool.state.store.Authored past) (move : Move O V N) :
    (pool.after move).state.store.Authored (pool.record past move) := by
  rcases pool.record_cases past move with
    ⟨⟨caller, now, _⟩, action, facility, transfers, -, rfl, hrecord, hserves, hstore⟩ |
    ⟨hloans, hboard, hrecord⟩
  · rw [hrecord, hstore]
    exact hserves.authored h
  · have hsame : (pool.after move).state.store.Authored past := by
      refine ⟨?_, ?_⟩
      · rw [hloans]
        exact h.mandates
      · rw [hboard]
        exact h.board
    rcases hrecord with hrecord | ⟨deed, action, hrecord, haction⟩
    · rw [hrecord]
      exact hsame
    · rw [hrecord]
      refine ⟨fun delegator delegatee => ?_, hsame.board.extend fun id => ?_⟩
      · have hquiet : deed.mandate? delegator delegatee = none := by
          simp only [mandate?, haction]
        rw [lastMandate_cons_of_none hquiet]
        exact hsame.mandates delegator delegatee
      · simp only [bidder?, haction]

/-- Along a run the store keeps having its authors among the calls carried out. -/
lemma authored_follow (h : pool.state.store.Authored past) (moves : List (Move O V N)) :
    (pool.follow moves).state.store.Authored (pool.deeds past moves) := by
  induction moves generalizing pool past with
  | nil => exact h
  | cons move moves ih => exact ih (authored_after h move)

/-- An empty store needs no authors. -/
lemma authored_created {settings : Settings} {store : Store}
    (h : Store.create settings = .ok store) : store.Authored [] := by
  obtain rfl := Store.create_eq_ok h
  refine ⟨fun delegator delegatee => ?_, ⟨?_, ?_, ?_⟩⟩
  · constructor
    · intro hmandated
      nomatch hmandated
    · intro hlast
      nomatch hlast
  · exact fun _ _ hl => nomatch hl
  · exact fun _ _ _ hl => nomatch hl
  · exact fun _ _ hl => nomatch hl

end Pool

/-! ## Consent -/

/-- How an account agrees to being made the debtor of a loan by a call, given the calls carried out
before and the store that the call finds. -/
inductive Consented (past : List Deed) (store : Store) (call : Call) (id : LoanId)
    (account : Account) : Prop where
  /-- It borrows in its own name. -/
  | borrows {asset : Asset} {amount referral : Nat} {item : Item}
      (asks : call.action = .user (.borrow asset amount item account referral))
      (own : account = call.caller) : Consented past store call id account
  /-- Its last word on the caller was that this one may borrow in its name. -/
  | mandates {asset : Asset} {amount referral : Nat} {item : Item}
      (asks : call.action = .user (.borrow asset amount item account referral))
      (given : lastMandate past account call.caller = some true) :
      Consented past store call id account
  /-- It buys the debt. -/
  | buys {item : Item} {listing : Listing} (asks : call.action = .user (.buyDebt item))
      (listed : store.board.activeListing? item = some listing) (of : listing.loan = id)
      (own : account = call.caller) : Consented past store call id account
  /-- It bid last in the auction of the debt. -/
  | bids {item : Item} {listing : Listing} (asks : call.action = .user (.claimDebt item))
      (listed : store.board.activeListing? item = some listing) (of : listing.loan = id)
      (last : lastBidder past listing.id = some account) : Consented past store call id account

/-- A call sells the debt of a loan that an account has put on the board. -/
def Offered (past : List Deed) (store : Store) (call : Call) (id : LoanId) (account : Account) :
    Prop :=
  ∃ item listing,
    (call.action = .user (.buyDebt item) ∨ call.action = .user (.claimDebt item)) ∧
      store.board.activeListing? item = some listing ∧ listing.loan = id ∧
      ∃ deed ∈ past, deed.Posts listing ∧ deed.call.caller = account

namespace Pool

variable {pool : Pool O V N} {past : List Deed}

/-- The debtor of a loan after a move is the one of before, or the move is a call to which the new
debtor agreed and, if there was a debtor before, that sells a debt which this one offered. -/
lemma debtor_after (hb : pool.state.store.loans.Consistent) (h : pool.state.store.Authored past)
    (move : Move O V N) {id : LoanId} {loan' : Loan}
    (hloan' : (pool.after move).state.store.loans.loan? id = some loan')
    (hnew : ∀ loan, pool.state.store.loans.loan? id = some loan → loan'.debtor ≠ loan.debtor) :
    ∃ call, move = .call call ∧ Consented past pool.state.store call id loan'.debtor ∧
      ∀ loan, pool.state.store.loans.loan? id = some loan →
        Offered past pool.state.store call id loan.debtor := by
  rcases pool.record_cases past move with
    ⟨call, action, facility, transfers, hmove, haction, -, hserves, hstore⟩ | ⟨hloans, -, -⟩
  · rw [hstore] at hloan'
    refine ⟨call, hmove, ?_⟩
    cases hloan : pool.state.store.loans.loan? id with
    | none =>
      refine ⟨?_, nofun⟩
      obtain ⟨asset, amount, item, referral, rfl, hown | hmandated⟩ :=
        hserves.debtor_of_opened hb hloan hloan'
      · exact .borrows haction hown
      · exact .mandates haction ((h.mandates _ _).mp hmandated)
    | some loan =>
      obtain ⟨item, listing, hlisted, hof, hseller, hsale⟩ :=
        hserves.debtor_of_passed hb hloan hloan' (hnew loan hloan)
      have hfiled := h.board.of_activeListing? hlisted
      constructor
      · rcases hsale with ⟨rfl, hown⟩ | ⟨rfl, hbidder⟩
        · exact .buys haction hlisted hof hown
        · exact .bids haction hlisted hof (h.board.bids _ _ _ hfiled hbidder)
      · rintro _ ⟨⟩
        obtain ⟨deed, hmem, hposts⟩ := h.board.posts listing.id listing hfiled
        refine ⟨item, listing, ?_, hlisted, hof, deed, hmem, hposts, hposts.caller.trans hseller⟩
        rcases hsale with ⟨rfl, -⟩ | ⟨rfl, -⟩
        · exact .inl haction
        · exact .inr haction
  · rw [hloans] at hloan'
    exact absurd rfl (hnew loan' hloan')

/-- Whoever becomes the debtor of a loan in a run agreed to it: it borrows in its own name or its
last word to the borrower was to let it, or it buys the debt or bid last in the auction of it. And
the debtor of a loan on record stays its debtor but for the sale, bought or claimed, of a listing
that this debtor itself posted for the loan. -/
theorem debtors_consent {prices : O} {vault : V} {venue : N} {founder : Account}
    {settings : Settings} {now : Nat} {start : Pool O V N}
    (h : create prices vault venue founder settings now = .ok start) (moves : List (Move O V N))
    (move : Move O V N) (id : LoanId) :
    (∀ loan', ((start.follow moves).after move).state.store.loans.loan? id = some loan' →
      (∀ loan, (start.follow moves).state.store.loans.loan? id = some loan →
        loan'.debtor ≠ loan.debtor) →
      ∃ call, move = .call call ∧
        Consented (start.deeds [] moves) (start.follow moves).state.store call id loan'.debtor) ∧
    ∀ loan, (start.follow moves).state.store.loans.loan? id = some loan →
      ∃ loan', ((start.follow moves).after move).state.store.loans.loan? id = some loan' ∧
        (loan'.debtor = loan.debtor ∨
          ∃ call, move = .call call ∧
            Offered (start.deeds [] moves) (start.follow moves).state.store call id
              loan.debtor) := by
  have hreach := (Reachable.created h).follow (obeys_true start moves)
  have hb := hreach.store.debtsAddUp.book
  have hauthored : (start.follow moves).state.store.Authored (start.deeds [] moves) := by
    obtain ⟨store, hs, -, hstore, -⟩ := create_eq_ok h
    refine authored_follow ?_ moves
    rw [hstore]
    exact authored_created hs
  constructor
  · intro loan' hloan' hnew
    obtain ⟨call, hmove, hconsented, -⟩ := debtor_after hb hauthored move hloan' hnew
    exact ⟨call, hmove, hconsented⟩
  · intro loan hloan
    obtain ⟨loan', hloan', -, -⟩ := Pool.loan_kept hb move hloan
    refine ⟨loan', hloan', ?_⟩
    by_cases hsame : loan'.debtor = loan.debtor
    · exact .inl hsame
    · obtain ⟨call, hmove, -, hoffered⟩ := debtor_after hb hauthored move hloan' (by
        intro before hbefore
        obtain rfl := Option.some.inj (hloan.symm.trans hbefore)
        exact hsame)
      exact .inr ⟨call, hmove, hoffered loan hloan⟩

end Pool

namespace SmallMarket

/-- The debt that the borrower put up for auction is claimed once the auction has ended. -/
def claiming : Move PriceFeeds NoVault FlatVenue :=
  .call ⟨founder, 1000, .user (.claimDebt ⟨art, 1⟩)⟩

/-- The supplier becomes the debtor of the small market's loan when the auction of the debt is
claimed: it is the one that last bid there, and the borrower had posted the listing. -/
theorem claimed_by_consent :
    ∃ listing deed,
      (founded.follow (setUp ++ lending ++ reoffering)).state.store.board.activeListing? ⟨art, 1⟩ =
        some listing ∧
      lastBidder (founded.deeds [] (setUp ++ lending ++ reoffering)) listing.id = some supplier ∧
      deed ∈ founded.deeds [] (setUp ++ lending ++ reoffering) ∧ deed.Posts listing ∧
      deed.call.caller = borrower ∧
      ∃ loan ∈ ((founded.follow (setUp ++ lending ++ reoffering)).after
        claiming).state.store.loans.loan? 1, loan.debtor = supplier := by
  have hbefore : ∃ loan ∈ (founded.follow
      (setUp ++ lending ++ reoffering)).state.store.loans.loan? 1, loan.debtor = borrower := by
    decide +kernel
  have hafter : ∃ loan ∈ ((founded.follow (setUp ++ lending ++ reoffering)).after
      claiming).state.store.loans.loan? 1, loan.debtor = supplier := by
    decide +kernel
  have hother : supplier ≠ borrower := by decide +kernel
  obtain ⟨loan, hloan, hborrower⟩ := hbefore
  obtain ⟨loan', hloan', hsupplier⟩ := hafter
  obtain ⟨hconsent, hoffer⟩ := Pool.debtors_consent founded_created
    (setUp ++ lending ++ reoffering) claiming 1
  have hpassed : loan'.debtor ≠ loan.debtor := by
    rw [hsupplier, hborrower]
    exact hother
  obtain ⟨call, hmove, hconsented⟩ := hconsent loan' hloan' fun before hbefore => by
    obtain rfl := Option.some.inj (hloan.symm.trans hbefore)
    exact hpassed
  obtain ⟨after, hafter, hsame | ⟨call', hmove', item, listing, hasks, hlisted, -, hposted⟩⟩ :=
    hoffer loan hloan
  · obtain rfl := Option.some.inj (hloan'.symm.trans hafter)
    exact absurd hsame hpassed
  · obtain rfl := Move.call.inj hmove
    obtain rfl := Move.call.inj hmove'
    obtain ⟨deed, hmem, hposts, hcaller⟩ := hposted
    cases hconsented with
    | borrows asks | mandates asks | buys asks => cases asks
    | bids asks listed of last =>
      cases asks
      rcases hasks with hasks | hasks
      · cases hasks
      · cases hasks
        obtain rfl := Option.some.inj (listed.symm.trans hlisted)
        exact ⟨_, deed, hlisted, hsupplier ▸ last, hmem, hposts, hcaller.trans hborrower, loan',
          hloan', hsupplier⟩

end SmallMarket

end PooledCredit
