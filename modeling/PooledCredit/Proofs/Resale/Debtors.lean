import Mathlib.Data.List.Forall2
import PooledCredit.Proofs.Pool.Isolation
import PooledCredit.View

/-!
# What the debtor of a loan decides

Two stores are *alike* when they differ in nothing but the board and the debtors of loans. No rule
of lending asks who owes a debt: on alike stores every action outside of the debt market is refused
for the same reason or gives the same answer and leads to alike stores. What it asks for is the same
too, up to the account that gets the collateral or the surplus of the loan on its token.

This is a statement about two runs of one request, which are read next to each other step by step.
Steps that ask neither the board nor the debtor are the same step on both sides.
-/

namespace PooledCredit

/-! ## Alike stores -/

/-- Two loans differ in nothing but the debtor. -/
def Loan.Alike (loan loan' : Loan) : Prop := loan' = { loan with debtor := loan'.debtor }

/-- Two loan books differ in nothing but the debtors of loans. -/
structure LoanBook.Alike (book book' : LoanBook) : Prop where
  nextId : book'.nextId = book.nextId
  openByItem : book'.openByItem = book.openByItem
  openByCollection : book'.openByCollection = book.openByCollection
  mandates : book'.mandates = book.mandates
  loans : ∀ id, Option.Rel Loan.Alike (book.loan? id) (book'.loan? id)

/-- Two stores differ in nothing but the board and the debtors of loans. -/
structure Store.Alike (store store' : Store) : Prop where
  settings : store'.settings = store.settings
  ledger : store'.ledger = store.ledger
  collateral : store'.collateral = store.collateral
  wrappers : store'.wrappers = store.wrappers
  loans : store.loans.Alike store'.loans

namespace Loan.Alike

variable {loan loan' loan'' : Loan}

/-- A loan is alike to itself. -/
lemma refl (loan : Loan) : loan.Alike loan := rfl

/-- With another debtor a loan is alike to itself. -/
lemma withDebtor (loan : Loan) (debtor : Account) : loan.Alike { loan with debtor } := rfl

lemma symm (h : loan.Alike loan') : loan'.Alike loan := by
  rw [Alike, h]

lemma trans (h : loan.Alike loan') (h' : loan'.Alike loan'') : loan.Alike loan'' := by
  rw [Alike, h', h]

end Loan.Alike

namespace LoanBook.Alike

variable {book book' book'' : LoanBook}

/-- A book is alike to itself. -/
lemma refl (book : LoanBook) : book.Alike book where
  nextId := rfl
  openByItem := rfl
  openByCollection := rfl
  mandates := rfl
  loans id := by
    cases book.loan? id with
    | none => exact .none
    | some loan => exact .some (.refl loan)

lemma symm (h : book.Alike book') : book'.Alike book where
  nextId := h.nextId.symm
  openByItem := h.openByItem.symm
  openByCollection := h.openByCollection.symm
  mandates := h.mandates.symm
  loans id := by
    have hrel := h.loans id
    generalize book.loan? id = a, book'.loan? id = b at hrel ⊢
    cases hrel with
    | none => exact .none
    | some hloan => exact .some hloan.symm

lemma trans (h : book.Alike book') (h' : book'.Alike book'') : book.Alike book'' where
  nextId := h'.nextId.trans h.nextId
  openByItem := h'.openByItem.trans h.openByItem
  openByCollection := h'.openByCollection.trans h.openByCollection
  mandates := h'.mandates.trans h.mandates
  loans id := by
    have hbefore := h.loans id
    have hafter := h'.loans id
    generalize book.loan? id = a, book'.loan? id = b, book''.loan? id = c at hbefore hafter
    cases hbefore with
    | none => exact hafter
    | some hloan =>
      cases hafter with
      | some hloan' => exact .some (hloan.trans hloan')

/-- The loans that alike books have open on a token are alike. -/
lemma openLoan? (h : book.Alike book') (item : Item) :
    Option.Rel Loan.Alike (book.openLoan? item) (book'.openLoan? item) := by
  unfold LoanBook.openLoan?
  rw [h.openByItem]
  cases book.openByItem.get? item with
  | none => exact .none
  | some id => exact h.loans id

/-- Asking for the open loan on a token gives alike loans, or the same refusal. -/
lemma openLoan (h : book.Alike book') (item : Item) :
    Tally Loan.Alike (book.openLoan item) (book'.openLoan item) :=
  tally_orRefuse (h.openLoan? item) _

/-- When alike loans are stored under one number, what alike books have on file stays alike. -/
lemma loan?_insert (h : book.Alike book') {loan loan' : Loan} (hloan : loan.Alike loan')
    {stored stored' : LoanBook} {id : LoanId} (hs : stored.loans = book.loans.insert id loan)
    (hs' : stored'.loans = book'.loans.insert id loan') (other : LoanId) :
    Option.Rel Loan.Alike (stored.loan? other) (stored'.loan? other) := by
  rw [LoanBook.loan?_insert hs, LoanBook.loan?_insert hs']
  split
  · exact .some hloan
  · exact h.loans other

/-- Storing alike loans leaves books alike. -/
lemma setLoan (h : book.Alike book') {loan loan' : Loan} (hloan : loan.Alike loan') :
    (book.setLoan loan).Alike (book'.setLoan loan') where
  nextId := h.nextId
  openByItem := h.openByItem
  openByCollection := h.openByCollection
  mandates := h.mandates
  loans := h.loan?_insert hloan rfl (by rw [hloan]; rfl)

/-- Opening the same loan leaves books alike. -/
lemma openNew (h : book.Alike book') (debtor initiator : Account) (item wrapped : Item)
    (asset : Asset) (scaled now : Nat) :
    Tally (fun opened opened' => opened'.1 = opened.1 ∧ opened.2.Alike opened'.2)
      (book.openNew debtor initiator item wrapped asset scaled now)
      (book'.openNew debtor initiator item wrapped asset scaled now) := by
  simp only [LoanBook.openNew, LoanBook.openCount, h.openByItem, h.openByCollection, h.nextId]
  split
  · exact tally_refuse _
  · refine tally_bind_same fun nextId => tally_bind_same fun count => ?_
    refine tally_pure ⟨rfl, ?_⟩
    exact {
      nextId := rfl
      openByItem := rfl
      openByCollection := rfl
      mandates := h.mandates
      loans := h.loan?_insert (.refl _) rfl rfl }

/-- Closing the same loan leaves books alike. -/
lemma close (h : book.Alike book') (id : LoanId) (status : LoanStatus) (now : Nat) :
    Tally Alike (book.close id status now) (book'.close id status now) := by
  refine (tally_orRefuse (h.loans id) _).bind fun loan loan' hloan => ?_
  obtain ⟨debtor, rfl⟩ : ∃ debtor, loan' = { loan with debtor } := ⟨_, hloan⟩
  refine tally_bind_same fun _ => tally_pure ?_
  exact {
    nextId := h.nextId
    openByItem := congrArg (SortedMap.erase · loan.item) h.openByItem
    openByCollection :=
      congrArg (LoanBook.countDown · loan.item.collection) h.openByCollection
    mandates := h.mandates
    loans := h.loan?_insert (.withDebtor _ debtor) rfl rfl }

/-- Paying alike loans down leaves books alike. -/
lemma payDown (h : book.Alike book') {loan loan' : Loan} (hloan : loan.Alike loan')
    (remaining now : Nat) :
    Tally Alike (book.payDown loan remaining now) (book'.payDown loan' remaining now) := by
  obtain ⟨debtor, rfl⟩ : ∃ debtor, loan' = { loan with debtor } := ⟨_, hloan⟩
  unfold LoanBook.payDown
  split
  · exact h.close loan.id .repaid now
  · exact .ok (h.setLoan (.withDebtor _ debtor))

/-- The same mandate leaves books alike. -/
lemma setMandate (h : book.Alike book') (delegator delegatee : Account) (approved : Bool) :
    (book.setMandate delegator delegatee approved).Alike
      (book'.setMandate delegator delegatee approved) where
  nextId := h.nextId
  openByItem := h.openByItem
  openByCollection := h.openByCollection
  mandates := by rw [LoanBook.setMandate, LoanBook.setMandate, h.mandates]
  loans := h.loans

end LoanBook.Alike

namespace Store.Alike

variable {store store' store'' : Store}

/-- A store is alike to itself. -/
lemma refl (store : Store) : store.Alike store := ⟨rfl, rfl, rfl, rfl, .refl _⟩

lemma symm (h : store.Alike store') : store'.Alike store :=
  ⟨h.settings.symm, h.ledger.symm, h.collateral.symm, h.wrappers.symm, h.loans.symm⟩

lemma trans (h : store.Alike store') (h' : store'.Alike store'') : store.Alike store'' where
  settings := h'.settings.trans h.settings
  ledger := h'.ledger.trans h.ledger
  collateral := h'.collateral.trans h.collateral
  wrappers := h'.wrappers.trans h.wrappers
  loans := h.loans.trans h'.loans

/-- A store that is alike to another is the other with an alike loan book and some board. -/
lemma exists_eq (h : store.Alike store') :
    ∃ loans board, store.loans.Alike loans ∧ store' = { store with loans, board } := by
  obtain ⟨settings, ledger, collateral, loans, board, wrappers⟩ := store'
  obtain ⟨rfl, rfl, rfl, rfl, hloans⟩ := h
  exact ⟨loans, board, hloans, rfl⟩

/-- Accruing interest leaves stores alike, and the account of the pool as it was. -/
lemma accrue (h : store.Alike store') (asset : Asset) (now : Nat) :
    Tally (fun accrued accrued' =>
        accrued.Alike accrued' ∧ accrued.poolAccount = store.poolAccount)
      (store.accrue asset now) (store'.accrue asset now) := by
  obtain ⟨loans, board, hloans, rfl⟩ := h.exists_eq
  exact tally_bind_same fun _ => tally_pure ⟨⟨rfl, rfl, rfl, rfl, hloans⟩, rfl⟩

end Store.Alike

/-! ## Effects up to the debtor -/

/-- Two lists of transfers differ in nothing but the account of one of them: the one by which the
pool pays the surplus or hands over the collateral of a loan to its debtor, if there is one. -/
inductive Transfer.Redirected (pool : Account) :
    Option Account → Option Account → List Transfer → List Transfer → Prop where
  | same {owed owed' : Option Account} (transfers : List Transfer) :
      Redirected pool owed owed' transfers transfers
  | surplus (debtor debtor' : Account) (first rest : List Transfer) (asset : Asset) (amount : Nat) :
      Redirected pool (some debtor) (some debtor')
        (first ++ payment asset pool debtor amount ++ rest)
        (first ++ payment asset pool debtor' amount ++ rest)
  | collateral (debtor debtor' : Account) (first rest : List Transfer) (item : Item) :
      Redirected pool (some debtor) (some debtor') (first ++ handover item pool debtor ++ rest)
        (first ++ handover item pool debtor' ++ rest)

/-- The same transfers in front make no difference. -/
lemma Transfer.Redirected.prepend {pool : Account} {owed owed' : Option Account}
    {transfers transfers' : List Transfer} (h : Redirected pool owed owed' transfers transfers')
    (before : List Transfer) :
    Redirected pool owed owed' (before ++ transfers) (before ++ transfers') := by
  cases h with
  | same => exact .same _
  | surplus debtor debtor' first rest asset amount =>
    simpa only [List.append_assoc] using
      surplus debtor debtor' (before ++ first) rest asset amount
  | collateral debtor debtor' first rest item =>
    simpa only [List.append_assoc] using collateral debtor debtor' (before ++ first) rest item

/-- The event that names another debtor of the loan that was repaid, bid on, redeemed or settled. -/
def Event.owedBy (debtor : Account) : Event → Event
  | repaid asset user _ amount item loan closed time =>
    repaid asset user debtor amount item loan closed time
  | bidPlaced asset user price bidder item _ loan time =>
    bidPlaced asset user price bidder item debtor loan time
  | redeemed asset user paid fine item _ loan time =>
    redeemed asset user paid fine item debtor loan time
  | liquidated asset user paid surplus loss item _ loan time =>
    liquidated asset user paid surplus loss item debtor loan time
  | sold asset user proceeds paid surplus loss item _ loan time =>
    sold asset user proceeds paid surplus loss item debtor loan time
  | event => event

/-- Two events differ in nothing but the debtor that they name, if there is one. -/
inductive Event.Redirected : Option Account → Option Account → Event → Event → Prop where
  | same {owed owed' : Option Account} (event : Event) : Redirected owed owed' event event
  | named (debtor debtor' : Account) (event : Event) :
      Redirected (some debtor) (some debtor') (event.owedBy debtor) (event.owedBy debtor')

/-- The event of a request, and the update that follows it, differ in nothing but the debtor. -/
lemma Event.Redirected.noted (debtor debtor' : Account) (event update : Event) :
    List.Forall₂ (Redirected (some debtor) (some debtor')) [event.owedBy debtor, update]
      [event.owedBy debtor', update] :=
  .cons (.named debtor debtor' event) (.cons (.same update) .nil)

/-- Two requests have the same effects up to the debtor of a loan. -/
structure Effects.Redirected (pool : Account) (owed owed' : Option Account)
    (effects effects' : Effects) : Prop where
  transfers : Transfer.Redirected pool owed owed' effects.transfers effects'.transfers
  events : List.Forall₂ (Event.Redirected owed owed') effects.events effects'.events

/-- Effects are the same up to any debtor. -/
lemma Effects.Redirected.same {pool : Account} {owed owed' : Option Account} (effects : Effects) :
    effects.Redirected pool owed owed' effects where
  transfers := .same _
  events := List.forall₂_same.mpr fun event _ => .same event

/-- Two requests have the same answer, lead to alike stores and have the same effects up to the
debtor of a loan. -/
structure Outcome.Alike {ρ : Type} (pool : Account) (owed owed' : Option Account)
    (outcome outcome' : Outcome ρ) : Prop where
  reply : outcome'.reply = outcome.reply
  store : outcome.store.Alike outcome'.store
  effects : outcome.effects.Redirected pool owed owed' outcome'.effects

/-! ## Requests -/

namespace Store

/-- The debtor of the open loan on a token. -/
def debtorOn (store : Store) (item : Item) : Option Account :=
  (store.loans.openLoan? item).map Loan.debtor

namespace Alike

variable {O V N : Type} [PriceSource O] [Vault V] [Venue N]
variable {store store' : Store} {caller : Account} {item : Item} {now : Nat}

/-! ### Requests that no loan is needed for -/

/-- A deposit has the same outcome on alike stores. -/
lemma deposit (h : store.Alike store') (asset : Asset) (amount : Nat) (beneficiary : Account)
    (referral : Nat) :
    Tally (Outcome.Alike store.poolAccount none none)
      (store.deposit caller asset amount beneficiary referral now)
      (store'.deposit caller asset amount beneficiary referral now) := by
  obtain ⟨loans, board, hloans, rfl⟩ := h.exists_eq
  refine tally_bind_same fun _ => tally_bind_same fun _ => tally_pure ?_
  exact ⟨rfl, ⟨rfl, rfl, rfl, rfl, hloans⟩, .same _⟩

/-- A withdrawal has the same outcome on alike stores. -/
lemma withdraw (h : store.Alike store') (vault : V) (asset : Asset) (amount : Nat)
    (recipient : Account) :
    Tally (fun a b => a.1.Alike store.poolAccount none none b.1 ∧ b.2 = a.2)
      (store.withdraw vault caller asset amount recipient now)
      (store'.withdraw vault caller asset amount recipient now) := by
  obtain ⟨loans, board, hloans, rfl⟩ := h.exists_eq
  refine tally_bind_same fun _ => tally_bind_same fun _ => tally_pure ?_
  exact ⟨⟨rfl, ⟨rfl, rfl, rfl, rfl, hloans⟩, .same _⟩, rfl⟩

/-- Giving or taking back a mandate has the same outcome on alike stores. -/
lemma setMandate (h : store.Alike store') (delegatee : Account) (approved : Bool) :
    Tally (Outcome.Alike store.poolAccount none none)
      (store.setMandate caller delegatee approved now)
      (store'.setMandate caller delegatee approved now) := by
  obtain ⟨loans, board, hloans, rfl⟩ := h.exists_eq
  refine tally_bind_same fun _ => tally_pure ?_
  exact ⟨rfl, ⟨rfl, rfl, rfl, rfl, hloans.setMandate _ _ _⟩, .same _⟩

/-- Borrowing has the same outcome on alike stores: the token must have no open loan. -/
lemma borrow (h : store.Alike store') (prices : O) (vault : V) (asset : Asset) (amount : Nat)
    (debtor : Account) (referral : Nat) :
    Tally (fun a b =>
        a.1.Alike store.poolAccount (store.debtorOn item) (store'.debtorOn item) b.1 ∧ b.2 = a.2)
      (store.borrow prices vault caller asset amount item debtor referral now)
      (store'.borrow prices vault caller asset amount item debtor referral now) := by
  obtain ⟨loans, board, hloans, rfl⟩ := h.exists_eq
  simp only [Store.borrow, LoanBook.isMandated, LoanBook.openCount, hloans.mandates,
    hloans.openByCollection]
  -- the guards, the terms of the collateral and its wrapped token
  iterate 4 refine tally_bind_same fun _ => ?_
  have hopen := hloans.openLoan? item
  generalize store.loans.openLoan? item = a, loans.openLoan? item = b at hopen ⊢
  cases hopen with
  | some hloan =>
    rw [hloan]
    exact tally_refuse _
  | none =>
    -- the reserve, the accrual, both valuations with their guards and the lending
    iterate 10 refine tally_bind_same fun _ => ?_
    refine (hloans.openNew ..).bind fun opened opened' hopened => ?_
    obtain ⟨loan, book⟩ := opened
    obtain ⟨loan', book'⟩ := opened'
    obtain ⟨rfl, hbook⟩ := hopened
    refine tally_bind_same fun _ => tally_bind_same fun _ => tally_pure ?_
    exact ⟨⟨rfl, ⟨rfl, rfl, rfl, rfl, hbook⟩, .same _⟩, rfl⟩

/-! ### Requests on an open loan -/

/-- Requests that start from the open loan on a token tally when they do from loans that differ in
nothing but their debtors, the debtors on the token. -/
lemma openLoan_bind {γ δ : Type} {R : Option Account → Option Account → γ → δ → Prop}
    (h : store.Alike store') {f : Loan → Result γ} {g : Loan → Result δ}
    (hrest : ∀ loan debtor,
      Tally (R (some loan.debtor) (some debtor)) (f loan) (g { loan with debtor })) :
    Tally (R (store.debtorOn item) (store'.debtorOn item))
      (store.loans.openLoan item >>= f) (store'.loans.openLoan item >>= g) := by
  have hopen := h.loans.openLoan? item
  unfold LoanBook.openLoan debtorOn
  generalize store.loans.openLoan? item = a, store'.loans.openLoan? item = b at hopen ⊢
  cases hopen with
  | none => exact .error _
  | @some loan loan' hloan =>
    rw [hloan]
    exact hrest loan loan'.debtor

/-- The tokens of a repaid loan go back to its debtor. -/
lemma release (h : store.Alike store') (loan : Loan) (debtor : Account) (closed : Bool) :
    Transfer.Redirected store.poolAccount (some loan.debtor) (some debtor)
      (store.release loan closed) (store'.release { loan with debtor } closed) := by
  obtain ⟨loans, board, -, rfl⟩ := h.exists_eq
  cases closed with
  | true => exact .collateral loan.debtor debtor [] [.burn loan.wrapped] loan.item
  | false => exact .same _

/-- A repayment has the same outcome on alike stores, up to the account that gets the token back. -/
lemma repay (h : store.Alike store') (amount : Nat) :
    Tally (Outcome.Alike store.poolAccount (store.debtorOn item) (store'.debtorOn item))
      (store.repay caller item amount now) (store'.repay caller item amount now) := by
  refine tally_bind_same fun _ => h.openLoan_bind fun loan debtor => ?_
  have hrelease := h.release loan debtor
  obtain ⟨loans, board, hloans, rfl⟩ := h.exists_eq
  -- the status, the reserve, the accrual, the debt and its repayment
  iterate 7 refine tally_bind_same fun _ => ?_
  refine (hloans.payDown (.withDebtor loan debtor) _ _).bind fun book book' hbook => ?_
  refine tally_bind_same fun update => tally_pure ⟨rfl, ⟨rfl, rfl, rfl, rfl, hbook⟩, ?_, ?_⟩
  · exact (hrelease _).prepend _
  · exact Event.Redirected.noted loan.debtor debtor (.repaid _ _ debtor _ _ _ _ _) update

/-- Putting the same bid on a loan leaves stores alike, and only the event tells its debtor. -/
lemma lockBid (h : store.Alike store') (caller : Account) (loan : Loan) (debtor : Account)
    (now : Nat) (bid : Bid) (transfers : List Transfer) (pool : Account) :
    Tally (Outcome.Alike pool (some loan.debtor) (some debtor))
      (do
        let store := { store with
          loans := store.loans.setLoan
            { loan with status := .auction, bid := some bid, updatedAt := now } }
        let update ← store.reserveUpdate loan.asset now
        return {
          reply := ()
          store
          effects := {
            transfers
            events :=
              [.bidPlaced loan.asset caller bid.price bid.bidder loan.item loan.debtor loan.id now,
                update] } })
      (do
        let store := { store' with
          loans := store'.loans.setLoan
            { loan with debtor, status := .auction, bid := some bid, updatedAt := now } }
        let update ← store.reserveUpdate loan.asset now
        return {
          reply := ()
          store
          effects := {
            transfers
            events :=
              [.bidPlaced loan.asset caller bid.price bid.bidder loan.item debtor loan.id now,
                update] } }) := by
  obtain ⟨loans, board, hloans, rfl⟩ := h.exists_eq
  refine tally_bind_same fun update => tally_pure ⟨rfl, ⟨rfl, rfl, rfl, rfl, ?_⟩, .same _, ?_⟩
  · exact hloans.setLoan rfl
  · exact Event.Redirected.noted loan.debtor debtor (.bidPlaced _ _ _ _ _ debtor _ _) update

/-- A bid has the same outcome on alike stores. -/
lemma bid (h : store.Alike store') (prices : O) (price : Nat) (bidder : Account) :
    Tally (Outcome.Alike store.poolAccount (store.debtorOn item) (store'.debtorOn item))
      (store.bid prices caller item price bidder now)
      (store'.bid prices caller item price bidder now) := by
  refine tally_bind_same fun _ => h.openLoan_bind fun loan debtor => ?_
  refine (h.accrue loan.asset now).bind fun accrued accrued' ⟨haccrued, _⟩ => ?_
  have hlock := haccrued.lockBid caller loan debtor now
  obtain ⟨loans, board, -, rfl⟩ := haccrued.exists_eq
  refine tally_bind_same fun _ => tally_bind_same fun _ => ?_
  simp only [Loan.requireBid]
  cases loan.status with
  | active =>
    -- the loan is unhealthy and the price covers the least first bid, which sets the fine
    iterate 5 refine tally_bind_same fun _ => ?_
    exact hlock ⟨_, _, _, _, _, _⟩ _ _
  | auction =>
    -- the bid window is open and the price covers the least next bid
    iterate 7 refine tally_bind_same fun _ => ?_
    exact hlock ⟨_, _, _, _, _, _⟩ _ _
  | repaid | defaulted => exact .error _

/-- A redeem has the same outcome on alike stores, up to the account that gets the token back. -/
lemma redeem (h : store.Alike store') (prices : O) (amount maxFine : Nat) :
    Tally (Outcome.Alike store.poolAccount (store.debtorOn item) (store'.debtorOn item))
      (store.redeem prices caller item amount maxFine now)
      (store'.redeem prices caller item amount maxFine now) := by
  refine tally_bind_same fun _ => h.openLoan_bind fun loan debtor => ?_
  refine tally_bind_same fun _ => tally_bind_same fun _ => ?_
  rw [h.collateral]
  refine tally_bind_same fun _ => tally_bind_same fun _ => tally_bind_same fun _ => ?_
  refine (h.accrue loan.asset now).bind fun accrued accrued' ⟨haccrued, hpool⟩ => ?_
  rw [← hpool]
  have hrelease := haccrued.release loan debtor
  obtain ⟨loans, board, hloans, rfl⟩ := haccrued.exists_eq
  -- the valuation, the checks and the repayment
  iterate 6 refine tally_bind_same fun _ => ?_
  have hpaid := hloans.payDown
    (.withDebtor { loan with status := .active, bid := none } debtor)
  refine (hpaid _ _).bind fun book book' hbook => ?_
  refine tally_bind_same fun update => tally_pure ⟨rfl, ⟨rfl, rfl, rfl, rfl, hbook⟩, ?_, ?_⟩
  · exact (hrelease _).prepend _
  · exact Event.Redirected.noted loan.debtor debtor (.redeemed _ _ _ _ _ debtor _ _) update

/-- Settling a loan leaves stores alike, and only the surplus goes to its debtor. -/
lemma settle (h : store.Alike store') (loan : Loan) (debtor : Account) (proceeds : Nat)
    (winner : Option Account) (now : Nat) :
    Tally (fun a b => b.1 = a.1 ∧ a.2.1.Alike b.2.1 ∧
        Transfer.Redirected store.poolAccount (some loan.debtor) (some debtor) a.2.2 b.2.2)
      (store.settle loan proceeds winner now)
      (store'.settle { loan with debtor } proceeds winner now) := by
  obtain ⟨loans, board, hloans, rfl⟩ := h.exists_eq
  simp only [Store.settle, bind_pure_bind, ite_bind]
  -- the debt, the part that the proceeds pay, the write-off and the surplus
  iterate 5 refine tally_bind_same fun _ => ?_
  refine (hloans.close loan.id _ now).bind fun book book' hbook => ?_
  refine tally_pure ⟨rfl, ⟨rfl, rfl, rfl, rfl, hbook⟩, ?_⟩
  simp only [List.append_assoc]
  exact .surplus loan.debtor debtor [] _ loan.asset _

/-- A liquidation has the same outcome on alike stores, up to the account that gets the surplus. -/
lemma liquidate (h : store.Alike store') (minPrice : Nat) :
    Tally (Outcome.Alike store.poolAccount (store.debtorOn item) (store'.debtorOn item))
      (store.liquidate caller item minPrice now) (store'.liquidate caller item minPrice now) := by
  refine h.openLoan_bind fun loan debtor => ?_
  refine tally_bind_same fun _ => tally_bind_same fun bid => ?_
  rw [h.collateral]
  -- the terms, the deadline that has passed and the least price
  iterate 4 refine tally_bind_same fun _ => ?_
  refine (h.accrue loan.asset now).bind fun accrued accrued' ⟨haccrued, hpool⟩ => ?_
  rw [← hpool]
  have hsettle := haccrued.settle loan debtor bid.price (some bid.bidder) now
  refine hsettle.bind fun a b hsettled => ?_
  obtain ⟨settlement, settled, transfers⟩ := a
  obtain ⟨settlement', settled', transfers'⟩ := b
  dsimp only at hsettled
  obtain ⟨rfl, hstore, htransfers⟩ := hsettled
  obtain ⟨loans, board, -, rfl⟩ := hstore.exists_eq
  refine tally_bind_same fun update => tally_pure ⟨rfl, hstore, htransfers, ?_⟩
  exact Event.Redirected.noted loan.debtor debtor (.liquidated _ _ _ _ _ _ debtor _ _) update

/-- A sale to a venue has the same outcome on alike stores, up to the account that gets the
surplus. -/
lemma sell (h : store.Alike store') (prices : O) (venue : N) :
    Tally (fun a b =>
        a.1.Alike store.poolAccount (store.debtorOn item) (store'.debtorOn item) b.1 ∧ b.2 = a.2)
      (store.sell prices venue caller item now) (store'.sell prices venue caller item now) := by
  refine h.openLoan_bind (R := fun owed owed' (a b : Outcome Settlement × N) =>
    a.1.Alike store.poolAccount owed owed' b.1 ∧ b.2 = a.2) fun loan debtor => ?_
  refine (h.accrue loan.asset now).bind fun accrued accrued' ⟨haccrued, hpool⟩ => ?_
  rw [← hpool]
  have hsettle := haccrued.settle loan debtor
  obtain ⟨loans, board, hloans, rfl⟩ := haccrued.exists_eq
  refine tally_bind_same fun _ => tally_bind_same fun _ => tally_bind_same fun refund =>
    tally_bind_same fun ⟨proceeds, venue'⟩ => tally_bind_same fun _ => ?_
  refine (hsettle proceeds none now).bind fun a b hsettled => ?_
  obtain ⟨settlement, settled, transfers⟩ := a
  obtain ⟨settlement', settled', transfers'⟩ := b
  dsimp only at hsettled
  obtain ⟨rfl, hstore, htransfers⟩ := hsettled
  obtain ⟨loans', board', -, rfl⟩ := hstore.exists_eq
  refine tally_bind_same fun update => tally_pure ⟨⟨rfl, hstore, ?_, ?_⟩, rfl⟩
  · exact htransfers.prepend _
  · exact Event.Redirected.noted loan.debtor debtor (.sold _ _ _ _ _ _ _ debtor _ _) update

/-! ### Views -/

variable {prices : O}

/-- The debt and the health of the open loan on a token do not depend on its debtor. -/
lemma debtView (h : store.Alike store') (prices : O) (item : Item) (now : Nat) :
    Tally (fun view view' => view' = { view with debtor := view'.debtor })
      (store.debtView prices item now) (store'.debtView prices item now) := by
  refine (h.loans.openLoan item).bind fun loan loan' hloan => ?_
  rw [hloan]
  obtain ⟨loans, board, -, rfl⟩ := h.exists_eq
  exact tally_bind_same fun _ => tally_pure rfl

/-- The health of a token does not depend on the debtors of loans. -/
lemma health_eq (h : store.Alike store') (prices : O) (item : Item) (now : Nat) :
    store'.health prices item now = store.health prices item now := by
  have hopen := h.loans.openLoan? item
  have hview := h.debtView prices item now
  unfold Store.health
  generalize store.loans.openLoan? item = a, store'.loans.openLoan? item = b at hopen ⊢
  cases hopen with
  | none => rfl
  | some =>
    refine Tally.eq (hview.bind fun view view' hview => tally_pure ?_) |>.symm
    rw [hview]

/-- The bid, the fine and the least next bid of a loan do not depend on its debtor. -/
lemma auctionView_eq (h : store.Alike store') (prices : O) (item : Item) (now : Nat) :
    store'.auctionView prices item now = store.auctionView prices item now := by
  have hopen := h.loans.openLoan? item
  obtain ⟨loans, board, -, rfl⟩ := h.exists_eq
  unfold Store.auctionView LoanBook.openLoan
  generalize store.loans.openLoan? item = a, loans.openLoan? item = b at hopen ⊢
  cases hopen with
  | none => rfl
  | some hloan =>
    rw [hloan]
    rfl

/-- What may be borrowed against a token does not depend on the debtors of loans. -/
lemma collateralView_eq (h : store.Alike store') (prices : O) (item : Item) (asset : Asset)
    (now : Nat) :
    store'.collateralView prices item asset now = store.collateralView prices item asset now := by
  have hopen := h.loans.openLoan? item
  obtain ⟨loans, board, -, rfl⟩ := h.exists_eq
  unfold Store.collateralView
  generalize store.loans.openLoan? item = a, loans.openLoan? item = b at hopen ⊢
  cases hopen with
  | none => rfl
  | some hloan =>
    rw [hloan]
    rfl

end Alike

end Store

/-! ## Actions -/

variable {O V N : Type}

/-- Two facilities have alike stores, the same vault and the same venue. -/
structure Facility.Alike (facility facility' : Facility V N) : Prop where
  store : facility.store.Alike facility'.store
  vault : facility'.vault = facility.vault
  venue : facility'.venue = facility.venue

namespace UserAction

/-- The debtor of the open loan on the token of an action. -/
def debtor? (action : UserAction) (store : Store) : Option Account :=
  action.item?.bind store.debtorOn

/-- Two runs of an action have the same reply and alike facilities, and the effects are the same up
to the debtor of a loan. -/
structure AlikeRuns (pool : Account) (owed owed' : Option Account)
    (run run' : Reply × Facility V N × Effects) : Prop where
  reply : run'.1 = run.1
  facility : run.2.1.Alike run'.2.1
  effects : run.2.2.Redirected pool owed owed' run'.2.2

/-- Concluding alike outcomes gives alike runs. -/
lemma conclude_alike {ρ : Type} {pool : Account} {owed owed' : Option Account}
    {store store' : Store} {vault vault' : V} {venue venue' : N} {outcome outcome' : Outcome ρ}
    (h : outcome.Alike pool owed owed' outcome') (hvault : vault' = vault)
    (hvenue : venue' = venue) (reply : ρ → Reply) :
    AlikeRuns pool owed owed' (conclude ⟨store, vault, venue⟩ outcome reply)
      (conclude ⟨store', vault', venue'⟩ outcome' reply) where
  reply := congrArg reply h.reply
  facility := ⟨h.store, hvault, hvenue⟩
  effects := h.effects

variable [PriceSource O] [Vault V] [Venue N]

/-- On alike stores every action outside of the debt market is refused for the same reason or has
the same answer, alike stores and the same effects, up to the debtor of the loan on its token. -/
theorem run_tally {store store' : Store} (h : store.Alike store') {action : UserAction}
    (htrades : action.trades = false) (prices : O) (vault : V) (venue : N) (caller : Account)
    (now : Nat) :
    Tally (AlikeRuns store.poolAccount (action.debtor? store) (action.debtor? store'))
      (action.run prices ⟨store, vault, venue⟩ caller now)
      (action.run prices ⟨store', vault, venue⟩ caller now) := by
  cases action with
  | deposit asset amount beneficiary referral =>
    exact (h.deposit ..).bind fun _ _ ho => tally_pure (conclude_alike ho rfl rfl _)
  | withdraw asset amount recipient =>
    refine (h.withdraw ..).bind fun _ _ ⟨houtcome, hvault⟩ => tally_pure ?_
    exact conclude_alike houtcome hvault rfl _
  | borrow asset amount item debtor referral =>
    refine (h.borrow ..).bind fun _ _ ⟨houtcome, hvault⟩ => tally_pure ?_
    exact conclude_alike houtcome hvault rfl _
  | setMandate delegatee approved =>
    exact (h.setMandate ..).bind fun _ _ ho => tally_pure (conclude_alike ho rfl rfl _)
  | repay item amount =>
    exact (h.repay ..).bind fun _ _ ho => tally_pure (conclude_alike ho rfl rfl _)
  | bid item price bidder =>
    exact (h.bid ..).bind fun _ _ ho => tally_pure (conclude_alike ho rfl rfl _)
  | redeem item amount maxFine =>
    exact (h.redeem ..).bind fun _ _ ho => tally_pure (conclude_alike ho rfl rfl _)
  | liquidate item minPrice =>
    exact (h.liquidate ..).bind fun _ _ ho => tally_pure (conclude_alike ho rfl rfl _)
  | sell item =>
    refine (h.sell ..).bind fun _ _ ⟨houtcome, hvenue⟩ => tally_pure ?_
    exact conclude_alike houtcome rfl hvenue _
  | list | buyDebt | bidDebt | claimDebt | cancelListing => cases htrades

end UserAction

end PooledCredit
