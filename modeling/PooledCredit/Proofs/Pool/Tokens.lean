import PooledCredit.Proofs.Custody
import PooledCredit.Proofs.Resale.Board
import PooledCredit.Proofs.Runs

/-!
# The tokens of open loans

While a loan is open, the pool is to hold its token and its debtor the wrapped token. Wrapped
tokens are tokens like any other, and nothing keeps a wrapped collection from being wrapped and
accepted as collateral in its turn. So a debtor may pledge the wrapped token of an open loan,
which then is with the pool and no longer with the debtor, and is burned with the first loan
while it backs the second. The main result is that this is the only way in which the tokens of
open loans get lost: a run keeps them all in place exactly when no borrow of it pledges the
wrapped token of an open loan.
-/

namespace PooledCredit

/-! ## Custody that matches a loan book -/

/-- The book has an open loan under a number. -/
def LoanBook.HasOpen (book : LoanBook) (id : LoanId) (loan : Loan) : Prop :=
  book.loan? id = some loan ∧ loan.status.isOpen = true

/-- Custody holds the tokens of a book's open loans for the pool account: the token of each belongs
to the pool account, the wrapped token to the debtor, and different loans have different tokens
and different wrapped tokens. -/
structure Custody.HoldsFor (custody : Custody) (pool : Account) (book : LoanBook) : Prop where
  items : ∀ id loan, book.HasOpen id loan → custody.ownerOf? loan.item = some pool
  wrapped : ∀ id loan, book.HasOpen id loan → custody.ownerOf? loan.wrapped = some loan.debtor
  apart : ∀ id id' loan loan', book.HasOpen id loan → book.HasOpen id' loan' → id ≠ id' →
    loan.item ≠ loan'.item ∧ loan.wrapped ≠ loan'.wrapped

/-- After one loan is rewritten, an open loan is that one or was open before. -/
lemma LoanBook.HasOpen.of_insert {book book' : LoanBook} {id other : LoanId} {new loan : Loan}
    (h : book'.HasOpen other loan) (hloans : book'.loans = book.loans.insert id new) :
    (other = id ∧ loan = new ∧ new.status.isOpen = true) ∨
      (other ≠ id ∧ book.HasOpen other loan) := by
  obtain ⟨hloan, hopen⟩ := h
  rw [LoanBook.loan?_insert hloans] at hloan
  split at hloan
  · next hid =>
    obtain rfl := Option.some.inj hloan
    exact .inl ⟨hid, rfl, hopen⟩
  · next hid => exact .inr ⟨hid, hloan, hopen⟩

namespace Custody.HoldsFor

variable {custody custody' : Custody} {pool : Account} {book book' : LoanBook} {id : LoanId}
variable {old new : Loan}

/-- Only the loans and the owners of their tokens matter. -/
lemma congr (h : custody.HoldsFor pool book) (hloans : book'.loans = book.loans)
    (howners : ∀ token owner, custody.ownerOf? token = some owner →
      custody'.ownerOf? token = some owner) : custody'.HoldsFor pool book' := by
  have hopen {id : LoanId} {loan : Loan} (ho : book'.HasOpen id loan) : book.HasOpen id loan := by
    rw [LoanBook.HasOpen, LoanBook.loan?, hloans] at ho
    exact ho
  exact {
    items := fun id loan ho => howners _ _ (h.items id loan (hopen ho))
    wrapped := fun id loan ho => howners _ _ (h.wrapped id loan (hopen ho))
    apart := fun id id' loan loan' ho ho' => h.apart id id' loan loan' (hopen ho) (hopen ho') }

/-- The tokens of one open loan are none of another's: tokens and wrapped tokens have different
owners when no debtor is the pool account. -/
lemma other_tokens (h : custody.HoldsFor pool book) (hold : book.HasOpen id old)
    (hdebtor : old.debtor ≠ pool) {other : LoanId} {loan : Loan} (ho : book.HasOpen other loan)
    (hother : loan.debtor ≠ pool) (hne : other ≠ id) :
    (loan.item ≠ old.item ∧ loan.item ≠ old.wrapped) ∧
      loan.wrapped ≠ old.item ∧ loan.wrapped ≠ old.wrapped := by
  obtain ⟨hitem, hwrapped⟩ := h.apart other id loan old ho hold hne
  refine ⟨⟨hitem, fun heq => ?_⟩, fun heq => ?_, hwrapped⟩
  · have howner := h.items other loan ho
    rw [heq, h.wrapped id old hold] at howner
    exact hdebtor (Option.some.inj howner)
  · have howner := h.wrapped other loan ho
    rw [heq, h.items id old hold] at howner
    exact hother (Option.some.inj howner).symm

/-- One open loan may be rewritten, and the owners of its tokens may change, as long as the tokens
are where they belong if the loan is still open. -/
lemma rewrite (h : custody.HoldsFor pool book)
    (hdebtors : ∀ id loan, book.loan? id = some loan → loan.debtor ≠ pool)
    (hold : book.HasOpen id old) (hloans : book'.loans = book.loans.insert id new)
    (hframe : ∀ token, token ∉ [old.item, old.wrapped] →
      custody'.ownerOf? token = custody.ownerOf? token)
    (hnew : new.status.isOpen = true → new.item = old.item ∧ new.wrapped = old.wrapped ∧
      custody'.ownerOf? old.item = some pool ∧ custody'.ownerOf? old.wrapped = some new.debtor) :
    custody'.HoldsFor pool book' := by
  have htokens {other : LoanId} {loan : Loan} (hne : other ≠ id) (ho : book.HasOpen other loan) :=
    h.other_tokens hold (hdebtors id old hold.1) ho (hdebtors other loan ho.1) hne
  constructor
  · intro other loan ho
    rcases ho.of_insert hloans with ⟨-, rfl, hopen⟩ | ⟨hne, ho⟩
    · obtain ⟨hitem, -, howner, -⟩ := hnew hopen
      rw [hitem]
      exact howner
    · obtain ⟨⟨hi, hw⟩, -⟩ := htokens hne ho
      rw [hframe _ (by simp [hi, hw])]
      exact h.items other loan ho
  · intro other loan ho
    rcases ho.of_insert hloans with ⟨-, rfl, hopen⟩ | ⟨hne, ho⟩
    · obtain ⟨-, hwrapped, -, howner⟩ := hnew hopen
      rw [hwrapped]
      exact howner
    · obtain ⟨-, hi, hw⟩ := htokens hne ho
      rw [hframe _ (by simp [hi, hw])]
      exact h.wrapped other loan ho
  · intro one other loan loan' ho ho' hne
    rcases ho.of_insert hloans with ⟨rfl, rfl, hopen⟩ | ⟨hone, ho⟩ <;>
      rcases ho'.of_insert hloans with ⟨rfl, rfl, hopen'⟩ | ⟨hother, ho'⟩
    · exact absurd rfl hne
    · obtain ⟨hitem, hwrapped, -, -⟩ := hnew hopen
      rw [hitem, hwrapped]
      exact h.apart one other old loan' hold ho' hne
    · obtain ⟨hitem, hwrapped, -, -⟩ := hnew hopen'
      rw [hitem, hwrapped]
      exact h.apart one other loan old ho hold hne
    · exact h.apart one other loan loan' ho ho' hne

end Custody.HoldsFor

/-! ## Parties apart from the pool -/

namespace Store

/-- The loan book is consistent, and the pool account owes no debt, gave no mandate and bids for no
debt. -/
structure PoolApart (store : Store) : Prop where
  book : store.loans.Consistent
  debtors : ∀ id loan, store.loans.loan? id = some loan → loan.debtor ≠ store.poolAccount
  mandates : ∀ delegatee, store.loans.isMandated store.poolAccount delegatee = false
  bidders : ∀ id listing, store.board.listing? id = some listing →
    listing.bidder ≠ some store.poolAccount

variable {store : Store}

/-- Rewriting one loan of another debtor keeps the pool account apart. -/
lemma PoolApart.rewrite (h : store.PoolApart) {ledger : Ledger} {loans : LoanBook} {id : LoanId}
    {loan : Loan} (hbook : loans.Consistent)
    (hloans : loans.loans = store.loans.loans.insert id loan)
    (hmandates : loans.mandates = store.loans.mandates)
    (hdebtor : loan.debtor ≠ store.poolAccount) : { store with ledger, loans }.PoolApart where
  book := hbook
  debtors other found hf := by
    rw [LoanBook.loan?_insert hloans] at hf
    split at hf
    · obtain rfl := Option.some.inj hf
      exact hdebtor
    · exact h.debtors other found hf
  mandates delegatee := by
    simp only [LoanBook.isMandated, hmandates]
    exact h.mandates delegatee
  bidders := h.bidders

/-- Storing one listing without a bid of the pool account keeps the pool account apart. -/
lemma PoolApart.setListing (h : store.PoolApart) {board : ListingBoard} {id : ListingId}
    {listing : Listing} (hlistings : board.listings = store.board.listings.insert id listing)
    (hbidder : listing.bidder ≠ some store.poolAccount) : { store with board }.PoolApart where
  book := h.book
  debtors := h.debtors
  mandates := h.mandates
  bidders other found hf := by
    rw [ListingBoard.listing?_insert hlistings] at hf
    split at hf
    · obtain rfl := Option.some.inj hf
      exact hbidder
    · exact h.bidders other found hf

/-- An active listing is on the board. -/
lemma PoolApart.active_bidder (h : store.PoolApart) {item : Item} {listing : Listing}
    (hlisted : store.board.activeListing? item = some listing) :
    listing.bidder ≠ some store.poolAccount := by
  obtain ⟨id, -, hlisting⟩ := Option.bind_eq_some_iff.mp hlisted
  exact h.bidders id listing hlisting

/-! ## Requests -/

/-- Carrying out the transfers turns custody that holds the tokens of a store's loans into custody
that holds those of a new book. -/
def TokensKept (store : Store) (loans : LoanBook) (transfers : List Transfer) : Prop :=
  ∀ custody custody' : Custody, custody.HoldsFor store.poolAccount store.loans →
    custody.applyAll transfers = .ok custody' → custody'.HoldsFor store.poolAccount loans

/-- Payments keep the tokens of unchanged loans. -/
lemma tokensKept_of_payments {loans : LoanBook} {transfers : List Transfer}
    (hloans : loans.loans = store.loans.loans) (hw : Within [] transfers) :
    store.TokensKept loans transfers := by
  intro custody custody' h hc
  refine h.congr hloans fun token owner howner => ?_
  rw [Custody.ownerOf?_applyAll hw hc List.not_mem_nil]
  exact howner

/-- Payments keep the tokens of an open loan that is rewritten with the same tokens and debtor. -/
lemma PoolApart.tokensKept_of_same (h : store.PoolApart) {id : LoanId} {old new : Loan}
    {loans : LoanBook} {transfers : List Transfer} (hold : store.loans.HasOpen id old)
    (hloans : loans.loans = store.loans.loans.insert id new)
    (hitem : new.item = old.item) (hwrapped : new.wrapped = old.wrapped)
    (hdebtor : new.debtor = old.debtor) (hw : Within [] transfers) :
    store.TokensKept loans transfers := by
  intro custody custody' hc happly
  have howners (token : Item) : custody'.ownerOf? token = custody.ownerOf? token :=
    Custody.ownerOf?_applyAll hw happly List.not_mem_nil
  refine hc.rewrite h.debtors hold hloans (fun token _ => howners token) fun _ => ?_
  refine ⟨hitem, hwrapped, ?_, ?_⟩
  · rw [howners]
    exact hc.items id old hold
  · rw [howners, hdebtor]
    exact hc.wrapped id old hold

/-- Moving the tokens of a loan that is closed keeps the tokens of the others. -/
lemma PoolApart.tokensKept_of_closed (h : store.PoolApart) {id : LoanId} {old new : Loan}
    {loans : LoanBook} {transfers : List Transfer} (hold : store.loans.HasOpen id old)
    (hloans : loans.loans = store.loans.loans.insert id new) (hclosed : new.status.isOpen = false)
    (hw : Within [old.item, old.wrapped] transfers) : store.TokensKept loans transfers := by
  intro custody custody' hc happly
  refine hc.rewrite h.debtors hold hloans
    (fun token hne => Custody.ownerOf?_applyAll hw happly hne) fun hopen => ?_
  rw [hclosed] at hopen
  cases hopen

/-- The tokens of a loan are given back only when nothing of its debt is left. -/
lemma within_release {store : Store} {loan : Loan} {tokens : List Item} {remaining : Nat}
    (h : remaining = 0 → loan.item ∈ tokens ∧ loan.wrapped ∈ tokens) :
    Within tokens (store.release loan (remaining == 0)) := by
  unfold release
  split
  · next hclosed =>
    obtain ⟨hitem, hwrapped⟩ := h (beq_iff_eq.mp hclosed)
    exact (Within.handover hitem).append (Within.burn hwrapped)
  · exact Within.nil

/-- Paying down a loan keeps the pool account apart and the tokens of the loans that stay open. -/
lemma PoolApart.payDown (h : store.PoolApart) {ledger : Ledger} {loans : LoanBook} {item : Item}
    {loan : Loan} (next : Loan) {remaining now : Nat} {payments : List Transfer}
    (hloan : store.loans.openLoan? item = some loan) (hid : next.id = loan.id)
    (hitem : next.item = loan.item) (hwrapped : next.wrapped = loan.wrapped)
    (hdebtor : next.debtor = loan.debtor) (hactive : next.status = .active)
    (hp : store.loans.payDown next remaining now = .ok loans) (hw : Within [] payments) :
    { store with ledger, loans }.PoolApart ∧
      store.TokensKept loans (payments ++ store.release loan (remaining == 0)) := by
  obtain ⟨hfiled, hopen, -⟩ := h.book.of_openLoan? hloan
  have hbook : loans.Consistent := by
    refine h.book.payDown (hid ▸ hfiled) ?_ hitem hp
    rw [hactive, hopen]
    rfl
  have hother := h.debtors loan.id loan hfiled
  rcases LoanBook.payDown_eq_ok hp with ⟨hzero, hclose⟩ | ⟨hrest, hset⟩
  · obtain ⟨found, hfound, -, -, hloans⟩ := LoanBook.close_eq_ok hclose
    rw [hid, hfiled] at hfound
    obtain rfl := Option.some.inj hfound
    rw [hid] at hloans
    refine ⟨h.rewrite hbook (congrArg LoanBook.loans hloans) (by rw [hloans])
      hother, ?_⟩
    refine h.tokensKept_of_closed ⟨hfiled, hopen⟩ (congrArg LoanBook.loans hloans) rfl ?_
    exact hw.of_nil.append (within_release fun _ => by simp)
  · have hloans := congrArg LoanBook.loans hset
    rw [show (store.loans.setLoan { next with scaled := remaining, updatedAt := now }).loans =
      store.loans.loans.insert next.id { next with scaled := remaining, updatedAt := now } from rfl,
      hid] at hloans
    refine ⟨h.rewrite hbook hloans (by rw [hset]; rfl) (hdebtor ▸ hother), ?_⟩
    exact h.tokensKept_of_same ⟨hfiled, hopen⟩ hloans hitem hwrapped hdebtor
      (hw.append (within_release fun hzero => absurd hzero hrest))

/-- A settlement keeps the pool account apart, closes its loan and moves no tokens but those of
the loan. -/
lemma PoolApart.settle (h : store.PoolApart) {loan : Loan} {proceeds now : Nat}
    {winner : Option Account} {settlement : Settlement} {store' : Store}
    {transfers : List Transfer} (hfiled : store.loans.loan? loan.id = some loan)
    (hs : store.settle loan proceeds winner now = .ok (settlement, store', transfers)) :
    store'.PoolApart ∧ Within [loan.item, loan.wrapped] transfers ∧
      ∃ final, store'.loans.loans = store.loans.loans.insert loan.id final ∧
        final.status.isOpen = false := by
  obtain ⟨s, -, rfl, rfl⟩ := settle_eq_ok hs
  obtain ⟨found, hfound, -, hfinal, hloans⟩ := LoanBook.close_eq_ok s.closes
  rw [hfiled] at hfound
  obtain rfl := Option.some.inj hfound
  refine ⟨?_, ?_, _, congrArg LoanBook.loans hloans, hfinal⟩
  · exact h.rewrite (h.book.close s.closes) (congrArg LoanBook.loans hloans)
      (by rw [hloans]) (h.debtors loan.id loan hfiled)
  · refine (Within.payment.append ?_).append (Within.burn (by simp))
    cases winner with
    | none => exact Within.nil
    | some winner => exact Within.handover List.mem_cons_self

/-- Passing the debt of a current listing to another account than the pool's hands the wrapped
token to the new debtor. -/
lemma PoolApart.passDebt (h : store.PoolApart) {item : Item} {listing : Listing} {buyer : Account}
    {asset : Asset} {payments handover : List Transfer} {store' : Store}
    (hlisted : store.board.activeListing? item = some listing)
    (hcurrent : store.isStale listing = false) (hbuyer : buyer ≠ store.poolAccount)
    (hp : store.passDebt listing buyer = .ok (asset, handover, store'))
    (hw : Within [] payments) :
    store'.PoolApart ∧ store.TokensKept store'.loans (payments ++ handover) := by
  obtain ⟨s, -, rfl, rfl⟩ := passDebt_eq_ok hp
  obtain ⟨loan, hloan, hid, hactive, hseller⟩ := isStale_eq_false.mp hcurrent
  rw [s.isOpen] at hloan
  obtain rfl := Option.some.inj hloan
  obtain ⟨hfiled, hopen, -⟩ := h.book.of_openLoan? s.isOpen
  -- the listed loan is the open one, now with the buyer as its debtor
  have hfound := s.found
  rw [LoanBook.loan?_setLoan, if_pos hid.symm] at hfound
  have hwrapped : s.listed.wrapped = s.loan.wrapped := by rw [← Option.some.inj hfound]
  refine ⟨?_, ?_⟩
  · have hbook : s.passed.Consistent := h.book.setLoan hfiled rfl rfl
    have hpassed : { store with loans := s.passed }.PoolApart := h.rewrite hbook rfl rfl hbuyer
    have hbidder := h.active_bidder hlisted
    exact hpassed.setListing rfl hbidder
  · intro custody custody' hc happly
    obtain ⟨middle, hpay, hhand⟩ := Custody.applyAll_append.mp happly
    have hmiddle (token : Item) : middle.ownerOf? token = custody.ownerOf? token :=
      Custody.ownerOf?_applyAll hw hpay List.not_mem_nil
    rw [hwrapped] at hhand
    have hframe (token : Item) (hne : token ≠ s.loan.wrapped) :
        custody'.ownerOf? token = custody.ownerOf? token := by
      have hwithin : Within [s.loan.wrapped]
          (Transfer.handover s.loan.wrapped listing.seller buyer) :=
        Within.handover List.mem_cons_self
      rw [← hmiddle]
      exact Custody.ownerOf?_applyAll hwithin hhand fun hmem => hne (List.mem_singleton.mp hmem)
    have hold : store.loans.HasOpen s.loan.id s.loan := ⟨hfiled, hopen⟩
    have hitem := hc.items _ _ hold
    have howner := hc.wrapped _ _ hold
    refine hc.rewrite h.debtors hold rfl
      (fun token hne => hframe token fun heq => hne (by simp [heq])) fun _ => ?_
    refine ⟨rfl, rfl, ?_, ?_⟩
    · rw [hframe _ ?_]
      · exact hitem
      · intro heq
        rw [heq, howner] at hitem
        exact h.debtors _ _ hfiled (Option.some.inj hitem)
    · refine Custody.ownerOf?_handover ?_ hhand
      rw [hmiddle, howner, hseller]

/-- The transfers of a borrow take a token of the caller and make an unowned wrapped token. -/
lemma borrow_owners {custody custody' : Custody} {caller debtor : Account} {asset : Asset}
    {item wrapped : Item} {amount : Nat} (hcaller : caller ≠ store.poolAccount)
    (h : custody.applyAll (Transfer.handover item caller store.poolAccount ++
      .mint wrapped debtor :: Transfer.payment asset store.poolAccount caller amount) =
        .ok custody') :
    custody.ownerOf? item = some caller ∧ custody.ownerOf? wrapped = none ∧
      custody'.ownerOf? item = some store.poolAccount ∧ custody'.ownerOf? wrapped = some debtor ∧
      ∀ token, token ≠ item → token ≠ wrapped →
        custody'.ownerOf? token = custody.ownerOf? token := by
  rw [Transfer.handover, if_neg hcaller, List.singleton_append] at h
  obtain ⟨handed, hhand, h⟩ := Custody.applyAll_cons.mp h
  obtain ⟨hitem, rfl⟩ := Custody.apply_hand_eq_ok hhand
  obtain ⟨minted, hmint, hpay⟩ := Custody.applyAll_cons.mp h
  obtain ⟨hnone, rfl⟩ := Custody.apply_mint_eq_ok hmint
  have howners (token : Item) :
      custody'.ownerOf? token = if token = wrapped then some debtor
        else if token = item then some store.poolAccount else custody.ownerOf? token := by
    rw [Custody.ownerOf?_applyAll Within.payment hpay List.not_mem_nil,
      Custody.ownerOf?_setOwner, Custody.ownerOf?_setOwner]
  rw [Custody.ownerOf?_setOwner] at hnone
  split at hnone
  · cases hnone
  · next hne =>
    refine ⟨hitem, hnone, ?_, ?_, fun token hi hw => ?_⟩
    · rw [howners, if_neg (Ne.symm hne), if_pos rfl]
    · rw [howners, if_pos rfl]
    · rw [howners, if_neg hw, if_neg hi]

variable {O V : Type} [PriceSource O] [Vault V] {prices : O} {vault vault' : V}
variable {caller debtor : Account} {asset : Asset} {item : Item} {amount now : Nat}

/-- A borrow by another account than the pool's keeps the pool account apart. -/
lemma PoolApart.borrow (h : store.PoolApart) (hcaller : caller ≠ store.poolAccount)
    (s : BorrowSteps store prices vault caller asset amount item debtor now vault') :
    { store with ledger := s.lent, loans := s.loans }.PoolApart := by
  obtain ⟨-, -, hloans⟩ := LoanBook.openNew_eq_ok s.opens
  refine h.rewrite (h.book.openNew s.opens) (congrArg LoanBook.loans hloans) (by rw [hloans]) ?_
  rcases s.mandated with heq | hmandated
  · exact heq ▸ hcaller
  · intro heq
    rw [show debtor = store.poolAccount from heq, h.mandates caller] at hmandated
    cases hmandated

/-- A borrow keeps the tokens of all open loans in place unless it pledges the wrapped token of one
of them, and only then. -/
lemma PoolApart.borrow_holds (h : store.PoolApart) (hcaller : caller ≠ store.poolAccount)
    (s : BorrowSteps store prices vault caller asset amount item debtor now vault')
    {custody custody' : Custody} (hc : custody.HoldsFor store.poolAccount store.loans)
    (happly : custody.applyAll (Transfer.handover item caller store.poolAccount ++
      .mint s.wrapped debtor :: Transfer.payment asset store.poolAccount caller amount) =
        .ok custody') :
    custody'.HoldsFor store.poolAccount s.loans ↔
      ∀ id loan, store.loans.HasOpen id loan → loan.wrapped ≠ item := by
  obtain ⟨hid, -, hbook⟩ := LoanBook.openNew_eq_ok s.opens
  have hloans := congrArg LoanBook.loans hbook
  obtain ⟨hitem, hnone, hpool, hdebtor, hframe⟩ := borrow_owners hcaller happly
  constructor
  · intro hheld id loan ho heq
    have hne : id ≠ s.id := by
      rintro rfl
      rw [hid] at ho
      exact absurd (h.book.next_free.symm.trans ho.1) (by simp)
    have hopen : s.loans.HasOpen id loan := by
      refine ⟨?_, ho.2⟩
      rw [LoanBook.loan?_insert hloans, if_neg hne]
      exact ho.1
    have howner := hheld.wrapped id loan hopen
    rw [heq, hpool] at howner
    exact h.debtors id loan ho.1 (Option.some.inj howner).symm
  · intro hunpledged
    -- the tokens of the loans before are neither the pledged token nor the new wrapped one
    have hitems {id : LoanId} {loan : Loan} (ho : store.loans.HasOpen id loan) :
        loan.item ≠ item ∧ loan.item ≠ s.wrapped := by
      have howner := hc.items id loan ho
      refine ⟨fun heq => ?_, fun heq => ?_⟩
      · rw [heq, hitem] at howner
        exact hcaller (Option.some.inj howner)
      · rw [heq, hnone] at howner
        cases howner
    have hwrappeds {id : LoanId} {loan : Loan} (ho : store.loans.HasOpen id loan) :
        loan.wrapped ≠ item ∧ loan.wrapped ≠ s.wrapped := by
      have howner := hc.wrapped id loan ho
      refine ⟨hunpledged id loan ho, fun heq => ?_⟩
      rw [heq, hnone] at howner
      cases howner
    constructor
    · intro id loan ho
      rcases ho.of_insert hloans with ⟨-, rfl, -⟩ | ⟨-, ho⟩
      · exact hpool
      · rw [hframe _ (hitems ho).1 (hitems ho).2]
        exact hc.items id loan ho
    · intro id loan ho
      rcases ho.of_insert hloans with ⟨-, rfl, -⟩ | ⟨-, ho⟩
      · exact hdebtor
      · rw [hframe _ (hwrappeds ho).1 (hwrappeds ho).2]
        exact hc.wrapped id loan ho
    · intro id id' loan loan' ho ho' hne
      rcases ho.of_insert hloans with ⟨rfl, rfl, -⟩ | ⟨-, ho⟩ <;>
        rcases ho'.of_insert hloans with ⟨rfl, rfl, -⟩ | ⟨-, ho'⟩
      · exact absurd rfl hne
      · exact ⟨Ne.symm (hitems ho').1, Ne.symm (hwrappeds ho').2⟩
      · exact ⟨(hitems ho).1, (hwrappeds ho).2⟩
      · exact hc.apart id id' loan loan' ho ho' hne

/-- A mandate of another account than the pool's keeps the pool account apart. -/
lemma PoolApart.setMandate (h : store.PoolApart) (hcaller : caller ≠ store.poolAccount)
    (delegatee : Account) (approved : Bool) :
    { store with loans := store.loans.setMandate caller delegatee approved }.PoolApart where
  book := h.book.setMandate _ _ _
  debtors := h.debtors
  bidders := h.bidders
  mandates other := by
    have hne : (⟨store.poolAccount, other⟩ : Mandate) ≠ ⟨caller, delegatee⟩ :=
      fun heq => hcaller (congrArg Mandate.delegator heq).symm
    have hother := h.mandates other
    show (store.loans.setMandate caller delegatee approved).isMandated store.poolAccount other =
      false
    simp only [LoanBook.isMandated, SortedMap.contains, LoanBook.setMandate] at hother ⊢
    cases approved
    · simp only [Bool.false_eq_true, if_false]
      rw [SortedMap.get?_erase_of_ne _ hne]
      exact hother
    · simp only [if_true]
      rw [SortedMap.get?_insert_of_ne _ hne]
      exact hother

/-- A bid keeps the pool account apart and the tokens of all open loans. -/
lemma PoolApart.bid (h : store.PoolApart) {price : Nat} {bidder : Account}
    (s : BidSteps store prices caller item price bidder now) :
    { store with ledger := s.accrued, loans := store.loans.setLoan s.bidden }.PoolApart ∧
      store.TokensKept (store.loans.setLoan s.bidden)
        (s.refund ++ Transfer.payment s.loan.asset caller store.poolAccount price) := by
  obtain ⟨hfiled, hopen, -⟩ := h.book.of_openLoan? s.isOpen
  have hrefund : Within [] s.refund := by
    rcases s.admitted with ⟨⟨first⟩⟩ | ⟨⟨later⟩⟩
    · rw [first.refunds]
      exact Within.nil
    · rw [later.refunds]
      exact Within.payment
  have hbook : (store.loans.setLoan s.bidden).Consistent := h.book.setLoan hfiled hopen.symm rfl
  have hdebtor : s.bidden.debtor ≠ store.poolAccount := h.debtors s.loan.id s.loan hfiled
  refine ⟨h.rewrite hbook rfl rfl hdebtor, ?_⟩
  exact h.tokensKept_of_same ⟨hfiled, hopen⟩ rfl rfl rfl rfl (hrefund.append Within.payment)

/-- A new ledger keeps the pool account apart. -/
lemma PoolApart.ledger (h : store.PoolApart) (ledger : Ledger) : { store with ledger }.PoolApart :=
  ⟨h.book, h.debtors, h.mandates, h.bidders⟩

/-- A liquidation keeps the pool account apart and the tokens of the other open loans. -/
lemma PoolApart.liquidate (h : store.PoolApart) {minPrice : Nat}
    (s : LiquidateSteps store item minPrice now) :
    s.store'.PoolApart ∧ store.TokensKept s.store'.loans s.transfers := by
  obtain ⟨hfiled, hopen, -⟩ := h.book.of_openLoan? s.isOpen
  obtain ⟨hapart, hw, final, hloans, hclosed⟩ := (h.ledger s.accrued).settle hfiled s.settles
  exact ⟨hapart, h.tokensKept_of_closed ⟨hfiled, hopen⟩ hloans hclosed hw⟩

variable {N : Type} [Venue N]

/-- A sale keeps the pool account apart and the tokens of the other open loans. -/
lemma PoolApart.sell (h : store.PoolApart) {venue venue' : N}
    (s : SellSteps store prices venue item now venue') :
    s.store'.PoolApart ∧ store.TokensKept s.store'.loans
      (s.refund ++ Transfer.handover s.loan.item store.poolAccount (Venue.account venue') ++
        Transfer.payment s.loan.asset (Venue.account venue') store.poolAccount s.proceeds ++
          s.transfers) := by
  obtain ⟨hfiled, hopen, -⟩ := h.book.of_openLoan? s.isOpen
  obtain ⟨hapart, hw, final, hloans, hclosed⟩ := (h.ledger s.accrued).settle hfiled s.settles
  have hrefund : Within [s.loan.item, s.loan.wrapped] s.refund := by
    rcases checkSale_eq_ok s.checks with ⟨-, -, hrefund⟩ | ⟨_, _, -, -, -, -, -, hrefund⟩
    · rw [hrefund]
      exact Within.nil
    · rw [hrefund]
      exact Within.payment
  refine ⟨hapart, h.tokensKept_of_closed ⟨hfiled, hopen⟩ hloans hclosed ?_⟩
  exact ((hrefund.append (Within.handover List.mem_cons_self)).append Within.payment).append hw

/-- A bid for a debt keeps the pool account apart and moves no token. -/
lemma PoolApart.bidDebt (h : store.PoolApart) (hcaller : caller ≠ store.poolAccount)
    (s : BidDebtSteps store caller item amount now) :
    { store with
      board := store.board.setListing
        { s.listing with bidder := some caller, bid := amount } }.PoolApart ∧
      Within [] ((s.listing.bidder.elim [] fun bidder =>
        Transfer.payment s.loan.asset store.poolAccount bidder s.listing.bid) ++
          Transfer.payment s.loan.asset caller store.poolAccount amount) := by
  refine ⟨h.setListing rfl fun heq => hcaller (Option.some.inj heq), ?_⟩
  refine Within.append ?_ Within.payment
  cases s.listing.bidder with
  | none => exact Within.nil
  | some bidder => exact Within.payment

/-- A cancellation keeps the pool account apart and moves no token. -/
lemma PoolApart.cancelListing (h : store.PoolApart) (s : CancelSteps store caller item) :
    { store with board := store.board.finish s.listing .cancelled }.PoolApart ∧
      Within [] s.refund := by
  have hbidder := h.active_bidder s.listed
  refine ⟨h.setListing rfl hbidder, ?_⟩
  rcases s.refunds with ⟨-, -, hrefund⟩ | ⟨_, _, -, -, -, hrefund⟩
  · rw [hrefund]
    exact Within.nil
  · rw [hrefund]
    exact Within.payment

/-! ## Actions -/

/-- A user's action of another account than the pool's keeps the pool account apart, and keeps the
tokens of the open loans unless it borrows on the wrapped token of one of them. -/
lemma PoolApart.user (h : store.PoolApart) (hcaller : caller ≠ store.poolAccount)
    {action : UserAction} {venue : N} {facility : Facility V N} {transfers : List Transfer}
    (hs : action.Serves prices store vault venue caller now facility transfers) :
    facility.store.PoolApart ∧
      ((∀ asset amount item debtor referral, action = .borrow asset amount item debtor referral →
        ∀ id loan, store.loans.HasOpen id loan → loan.wrapped ≠ item) →
        store.TokensKept facility.store.loans transfers) := by
  cases hs with
  | deposit => exact ⟨h.ledger _, fun _ => tokensKept_of_payments rfl Within.payment⟩
  | withdraw => exact ⟨h.ledger _, fun _ => tokensKept_of_payments rfl Within.payment⟩
  | borrow s =>
    refine ⟨h.borrow hcaller s, fun hunpledged custody custody' hc happly => ?_⟩
    exact (h.borrow_holds hcaller s hc happly).mpr (hunpledged _ _ _ _ _ rfl)
  | repay s =>
    obtain ⟨hapart, hkept⟩ := h.payDown s.loan s.isOpen rfl rfl rfl rfl s.active s.paysDown
      Within.payment
    exact ⟨hapart, fun _ => hkept⟩
  | setMandate =>
    exact ⟨h.setMandate hcaller _ _, fun _ => tokensKept_of_payments rfl Within.nil⟩
  | bid s =>
    obtain ⟨hapart, hkept⟩ := h.bid s
    exact ⟨hapart, fun _ => hkept⟩
  | redeem s =>
    obtain ⟨hapart, hkept⟩ := h.payDown { s.loan with status := .active, bid := none } s.isOpen
      rfl rfl rfl rfl rfl s.paysDown ((Within.payment.append Within.payment).append Within.payment)
    exact ⟨hapart, fun _ => hkept⟩
  | liquidate s =>
    obtain ⟨hapart, hkept⟩ := h.liquidate s
    exact ⟨hapart, fun _ => hkept⟩
  | sell s =>
    obtain ⟨hapart, hkept⟩ := h.sell s
    exact ⟨hapart, fun _ => hkept⟩
  | list s =>
    have hposts := ListingBoard.post_eq_ok s.posts
    exact ⟨h.setListing (congrArg ListingBoard.listings hposts) (fun heq => by cases heq),
      fun _ => tokensKept_of_payments rfl Within.nil⟩
  | buyDebt s =>
    obtain ⟨hapart, hkept⟩ := h.passDebt s.listed s.current hcaller s.passes Within.payment
    exact ⟨hapart, fun _ => hkept⟩
  | bidDebt s =>
    obtain ⟨hapart, hw⟩ := h.bidDebt hcaller s
    exact ⟨hapart, fun _ => tokensKept_of_payments rfl hw⟩
  | claimDebt s =>
    have hbuyer : s.buyer ≠ store.poolAccount := fun heq =>
      h.active_bidder s.listed (heq ▸ s.sold)
    obtain ⟨hapart, hkept⟩ := h.passDebt s.listed s.current hbuyer s.passes Within.payment
    exact ⟨hapart, fun _ => hkept⟩
  | cancelListing s =>
    obtain ⟨hapart, hw⟩ := h.cancelListing s
    exact ⟨hapart, fun _ => tokensKept_of_payments rfl hw⟩

end Store

/-! ## Pools -/

namespace Pool

variable {O V N : Type} [PriceSource O] [Vault V] [Venue N] {pool : Pool O V N}

/-- The moves of others: no action is called by the pool account itself, and only tokens without an
owner are made outside. -/
def Outside (pool : Pool O V N) : Move O V N → Prop
  | .call call => call.caller ≠ pool.state.store.poolAccount
  | .mint item _ => pool.state.custody.ownerOf? item = none
  | .fund .. => True
  | .turn .. => True

instance (pool : Pool O V N) : (move : Move O V N) → Decidable (pool.Outside move)
  | .call _ => inferInstanceAs (Decidable (_ ≠ _))
  | .mint .. => inferInstanceAs (Decidable (_ = _))
  | .fund .. => .isTrue trivial
  | .turn .. => .isTrue trivial

/-- The token of each open loan belongs to the pool account and its wrapped token to its debtor,
and different open loans have different tokens and different wrapped tokens. -/
def TokensHeld (pool : Pool O V N) : Prop :=
  pool.state.custody.HoldsFor pool.state.store.poolAccount pool.state.store.loans

/-- The move is a borrow that succeeds, and the token it pledges is the wrapped token of a loan
that is open. -/
def PledgesWrapped (pool : Pool O V N) (move : Move O V N) : Prop :=
  ∃ caller now asset amount item debtor referral reply,
    move = .call ⟨caller, now, .user (.borrow asset amount item debtor referral)⟩ ∧
    (pool.execute ⟨caller, now, .user (.borrow asset amount item debtor referral)⟩).1 =
      .ok reply ∧
    ∃ id loan, pool.state.store.loans.HasOpen id loan ∧ loan.wrapped = item

/-- The moves of others keep the pool account apart. -/
lemma preserves_poolApart :
    Preserves (Outside : Pool O V N → Move O V N → Prop) fun state => state.store.PoolApart where
  user _ admitted hi _ h _ := (hi.user admitted (UserAction.run_serves h)).1
  operator hi h := by
    obtain ⟨hsettings, hloans, hboard, -, -⟩ := OperatorAction.run_eq_ok h
    refine ⟨hloans ▸ hi.book, ?_, ?_, ?_⟩
    · rw [hloans, Store.poolAccount, hsettings]
      exact hi.debtors
    · rw [hloans, Store.poolAccount, hsettings]
      exact hi.mandates
    · rw [hboard, Store.poolAccount, hsettings]
      exact hi.bidders
  fund hi _ := hi
  mint _ hi := hi

/-- The pool account stays apart in every pool that moves of others lead to. -/
lemma Reachable.poolApart (h : pool.Reachable Outside) : pool.state.store.PoolApart := by
  refine h.invariant preserves_poolApart fun settings store state hs hstore _ => ?_
  obtain rfl := Store.create_eq_ok hs
  rw [hstore]
  exact {
    book := LoanBook.consistent_empty
    debtors := fun _ _ hl => nomatch hl
    mandates := fun _ => rfl
    bidders := fun _ _ hl => nomatch hl }

/-- A move that pledges no wrapped token of an open loan keeps the tokens of all open loans. -/
lemma Reachable.tokensHeld_after (h : pool.Reachable Outside) (held : pool.TokensHeld)
    {move : Move O V N} (admitted : pool.Outside move) (hno : ¬ pool.PledgesWrapped move) :
    (pool.after move).TokensHeld := by
  cases move with
  | call call =>
    show (pool.execute call).2.state.custody.HoldsFor
      (pool.execute call).2.state.store.settings.poolAccount (pool.execute call).2.state.store.loans
    rcases pool.execute_cases call with ⟨-, hs, -, -⟩ |
      ⟨action, reply, facility, effects, custody, haction, hreply, ha, hc, hs, -, -⟩ |
      ⟨action, _, state, _, _, -, ha, hs, -, -⟩
    · rw [hs]
      exact held
    · obtain ⟨caller, now, _⟩ := call
      cases haction
      have hserves := UserAction.run_serves ha
      obtain ⟨-, hkept⟩ := h.poolApart.user admitted hserves
      have hunpledged (asset : Asset) (amount : Nat) (item : Item) (debtor : Account)
          (referral : Nat) (heq : action = .borrow asset amount item debtor referral) (id : LoanId)
          (loan : Loan) (ho : pool.state.store.loans.HasOpen id loan) : loan.wrapped ≠ item := by
        subst heq
        exact fun hwrapped => hno
          ⟨caller, now, asset, amount, item, debtor, referral, reply, rfl, hreply, id, loan, ho,
            hwrapped⟩
      rw [hs]
      show custody.HoldsFor facility.store.settings.poolAccount facility.store.loans
      rw [hserves.settings]
      exact hkept hunpledged _ _ held hc
    · obtain ⟨hsettings, hloans, -, hcustody, -⟩ := OperatorAction.run_eq_ok ha
      rw [hs, hcustody, hsettings, hloans]
      exact held
  | fund asset account amount =>
    simp only [Pool.after]
    cases hf : pool.fund asset account amount with
    | ok funded =>
      simp only [Pool.fund, Custody.fund, bind_eq_ok, addAmount_eq_ok, pure_eq_ok] at hf
      obtain ⟨_, ⟨_, ⟨-, rfl⟩, rfl⟩, rfl⟩ := hf
      exact held.congr rfl fun token owner howner => howner
    | error e => exact held
  | mint item owner =>
    refine held.congr rfl fun token other howner => ?_
    show (pool.state.custody.setOwner item owner).ownerOf? token = some other
    rw [Custody.ownerOf?_setOwner, if_neg ?_]
    · exact howner
    · rintro rfl
      exact absurd (howner.symm.trans admitted) (by simp)
  | turn prices vault venue => exact held

/-- Pledging the wrapped token of an open loan takes it from the debtor of that loan. -/
lemma Reachable.not_tokensHeld_after (h : pool.Reachable Outside) (held : pool.TokensHeld)
    {move : Move O V N} (admitted : pool.Outside move) (hpledge : pool.PledgesWrapped move) :
    ¬ (pool.after move).TokensHeld := by
  obtain ⟨caller, now, asset, amount, item, debtor, referral, reply, rfl, hreply, id, loan, ho,
    hwrapped⟩ := hpledge
  show ¬ (pool.execute _).2.state.custody.HoldsFor
    (pool.execute _).2.state.store.settings.poolAccount (pool.execute _).2.state.store.loans
  rcases pool.execute_cases ⟨caller, now, .user (.borrow asset amount item debtor referral)⟩ with
    ⟨hfails, -⟩ | ⟨action, _, facility, effects, custody, haction, -, ha, hc, hs, -, -⟩ |
    ⟨action, _, _, _, _, haction, -⟩
  · exact absurd hreply (hfails reply)
  · cases haction
    rw [hs]
    show ¬ custody.HoldsFor facility.store.settings.poolAccount facility.store.loans
    have hserves := UserAction.run_serves ha
    rw [hserves.settings]
    intro hheld
    generalize effects.transfers = transfers at hserves hc
    cases hserves with
    | borrow s => exact (h.poolApart.borrow_holds admitted s held hc).mp hheld id loan ho hwrapped
  · cases haction

/-- Once the tokens are in place, they stay so along a run of moves of others exactly when no move
pledges the wrapped token of an open loan. -/
lemma Reachable.tokensHeld_along (h : pool.Reachable Outside) (held : pool.TokensHeld)
    {moves : List (Move O V N)} (hobeys : pool.Obeys Outside moves) :
    pool.Along TokensHeld moves ↔
      pool.Obeys (fun pool move => ¬ pool.PledgesWrapped move) moves := by
  induction moves generalizing pool with
  | nil => exact iff_of_true held trivial
  | cons move moves ih =>
    obtain ⟨admitted, hobeys⟩ := hobeys
    by_cases hpledge : pool.PledgesWrapped move
    · have hlost := h.not_tokensHeld_after held admitted hpledge
      exact iff_of_false (fun halong => hlost halong.2.start) fun hno => hno.1 hpledge
    · have hkept := h.tokensHeld_after held admitted hpledge
      have hrest := ih (h.moved admitted) hkept hobeys
      exact ⟨fun halong => ⟨hpledge, hrest.mp halong.2⟩, fun hno => ⟨held, hrest.mpr hno.2⟩⟩

/-- A run of moves of others from a new pool keeps the tokens of all open loans in place, in every
pool it goes through, exactly when none of its moves pledges the wrapped token of a loan that is
open at that moment. -/
theorem tokensHeld_along_iff {prices : O} {vault : V} {venue : N} {founder : Account}
    {settings : Settings} {now : Nat} (hcreate : create prices vault venue founder settings now =
      .ok pool) {moves : List (Move O V N)} (hobeys : pool.Obeys Outside moves) :
    pool.Along TokensHeld moves ↔
      pool.Obeys (fun pool move => ¬ pool.PledgesWrapped move) moves := by
  refine (Reachable.created hcreate).tokensHeld_along ?_ hobeys
  obtain ⟨store, hs, -, hstore, -⟩ := create_eq_ok hcreate
  obtain rfl := Store.create_eq_ok hs
  have hnone (id : LoanId) (loan : Loan) : ¬ pool.state.store.loans.HasOpen id loan := by
    rw [hstore]
    exact fun ho => nomatch ho.1
  exact {
    items := fun id loan ho => absurd ho (hnone id loan)
    wrapped := fun id loan ho => absurd ho (hnone id loan)
    apart := fun id _ loan _ ho => absurd ho (hnone id loan) }

end Pool

namespace SmallMarket

/-- The wrapped collection of `wrappedArt`. -/
def doubleArt : Collection := Id.fill 0xC2

/-- Wrapped tokens get a price, a wrapped collection of their own and collateral terms; the
borrower then pledges its wrapped token for 100 more and repays the first loan. -/
def rewrapping : List (Move PriceFeeds NoVault FlatVenue) :=
  [.turn { feeds with floors := feeds.floors.insert wrappedArt ⟨1000 * wad, 0⟩ } {} venue,
    .call ⟨founder, 0, .operator (.configureCollateral wrappedArt none {})⟩,
    .call ⟨founder, 0, .operator (.registerWrapper wrappedArt doubleArt)⟩,
    .call ⟨borrower, 0, .user (.borrow coin 100 ⟨wrappedArt, 1⟩ borrower 0)⟩,
    .call ⟨borrower, 0, .user (.repay ⟨art, 1⟩ 300)⟩]

/-- The first loan keeps its tokens, but not through the second one; in the end the token of the
second loan is burned, and the loan is still open. -/
theorem rewrapping_burns_collateral :
    founded.Obeys Pool.Outside (setUp ++ lending ++ rewrapping) ∧
      ¬ founded.Along Pool.TokensHeld (setUp ++ lending ++ rewrapping) ∧
      (founded.follow (setUp ++ lending ++ rewrapping)).state.custody.ownerOf? ⟨wrappedArt, 1⟩ =
        none ∧
      ((founded.follow (setUp ++ lending ++ rewrapping)).state.store.loans.openLoan?
        ⟨wrappedArt, 1⟩).map Loan.status = some .active := by
  have hobeys : founded.Obeys Pool.Outside (setUp ++ lending ++ rewrapping) := by
    decide +kernel
  refine ⟨hobeys, ?_, by decide +kernel, by decide +kernel⟩
  rw [Pool.tokensHeld_along_iff founded_created hobeys]
  rintro ⟨-, -, -, -, -, -, -, -, -, -, -, hno, -⟩
  refine hno ⟨borrower, 0, coin, 100, ⟨wrappedArt, 1⟩, borrower, 0, .loan 2, rfl, ?_, 1,
    ⟨1, borrower, borrower, ⟨art, 1⟩, ⟨wrappedArt, 1⟩, coin, 300, .active, none, 0, 0⟩,
    ⟨?_, rfl⟩, rfl⟩
  all_goals decide +kernel

end SmallMarket

end PooledCredit
