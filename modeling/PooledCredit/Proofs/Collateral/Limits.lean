import PooledCredit.Proofs.Collateral.Terms

/-!
# The limit of open loans on a collection

The terms of a collection may limit how many loans are open on it at a time. A new loan is counted
against the terms that hold for its token, and terms that were laid down for the token alone bring a
limit of their own, or none. Only a borrow adds to the number of open loans, and a full collection
takes no loan on a token without terms of its own; so the collection outgrows its limit exactly when
such terms let a token in.
-/

namespace PooledCredit

/-! ## The registry -/

namespace CollateralRegistry

/-- The limit that the terms of a collection set to its open loans; zero for no limit. -/
def ownLimit (registry : CollateralRegistry) (collection : Collection) : Nat :=
  (registry.collections.get? collection).elim 0 fun config => config.terms.maxLoans

/-- A token has terms of its own under which one more loan can be opened beside a number of open
loans. -/
def Frees (registry : CollateralRegistry) (item : Item) (openLoans : Nat) : Prop :=
  ∃ token, registry.tokens.get? item = some token ∧
    (token.terms.maxLoans = 0 ∨ openLoans < token.terms.maxLoans)

/-- All terms for single tokens of a collection set a limit, and none above that of the
collection. -/
def Confines (registry : CollateralRegistry) (collection : Collection) : Prop :=
  ∀ item token, registry.tokens.get? item = some token → item.collection = collection →
    token.terms.maxLoans ≠ 0 ∧ token.terms.maxLoans ≤ registry.ownLimit collection

variable {registry : CollateralRegistry} {item : Item} {openLoans : Nat}

/-- On a collection that has reached its own limit a new loan is accepted only for a token with
terms of its own. -/
lemma frees_of_borrowable {config : CollateralConfig}
    (h : registry.requireBorrowable item openLoans = .ok config)
    (hlimit : registry.ownLimit item.collection ≠ 0)
    (hfull : registry.ownLimit item.collection ≤ openLoans) : registry.Frees item openLoans := by
  simp only [requireBorrowable, bind_eq_ok, require_eq_ok, exists_const, pure_eq_ok] at h
  obtain ⟨config, hconfig, -, -, -, hroom, -⟩ := h
  obtain ⟨base, hbase, rfl⟩ := config_eq_ok.mp hconfig
  cases htoken : registry.tokens.get? item with
  | some token =>
    rw [htoken] at hroom
    exact ⟨token, htoken, hroom⟩
  | none =>
    -- the collection's own terms hold, and they have no room
    rw [htoken] at hroom
    have hown : registry.ownLimit item.collection = base.terms.maxLoans := by
      rw [ownLimit, hbase]
      rfl
    rw [hown] at hlimit hfull
    rcases hroom with hnone | hbelow
    · exact absurd hnone hlimit
    · exact absurd hbelow (Nat.not_lt.mpr hfull)

/-- A token is not let in above the limit when all terms for single tokens stay within it. -/
lemma Confines.not_frees (h : registry.Confines item.collection)
    (hfull : registry.ownLimit item.collection ≤ openLoans) : ¬ registry.Frees item openLoans := by
  rintro ⟨token, htoken, hnone | hbelow⟩
  · exact (h item token htoken rfl).1 hnone
  · have hle := (h item token htoken rfl).2
    omega

end CollateralRegistry

/-! ## Counting -/

/-- A loan that is not open adds to no number of open loans. -/
lemma Loan.openOn_of_closed {loan : Loan} (h : loan.status.isOpen = false)
    (collection : Collection) : loan.openOn collection = 0 :=
  if_neg fun hopen => Bool.false_ne_true (h.symm.trans hopen.1)

/-- Filing a loan replaces what its number adds to the open loans on a collection. -/
lemma LoanBook.openOn_insert {book book' : LoanBook} {id : LoanId} {loan : Loan}
    (h : book'.loans = book.loans.insert id loan) (collection : Collection) :
    book'.openOn collection + SortedMap.part (Loan.openOn collection) (book.loan? id) =
      book.openOn collection + loan.openOn collection := by
  rw [openOn, h]
  exact SortedMap.total_insert _ _ _ _

/-- Opening a loan adds one to the open loans on the collection of its token, and none to those on
others. -/
lemma LoanBook.openOn_openNew {book book' : LoanBook} (hb : book.Consistent)
    {debtor initiator : Account} {item wrapped : Item} {asset : Asset} {scaled now : Nat}
    {id : LoanId}
    (h : book.openNew debtor initiator item wrapped asset scaled now = .ok (id, book'))
    (collection : Collection) :
    book'.openOn collection =
      book.openOn collection + if item.collection = collection then 1 else 0 := by
  obtain ⟨rfl, -, hbook'⟩ := openNew_eq_ok h
  have hcount := openOn_insert (congrArg loans hbook') collection
  rw [hb.next_free, SortedMap.part_none, Nat.add_zero] at hcount
  rw [hcount, Loan.openOn]
  simp only [LoanStatus.isOpen, true_and]

/-! ## Requests -/

section Requests

variable {O V N : Type} [PriceSource O] [Vault V] [Venue N] {prices : O} {store : Store}
variable {caller : Account} {now : Nat} {transfers : List Transfer}

/-- What an action records adds no open loan to a collection, unless it is a borrow on one of its
tokens. -/
lemma UserAction.Records.openOn_le {action : UserAction} {loans : LoanBook}
    (h : action.Records prices store caller now transfers loans) (hb : store.loans.Consistent)
    (collection : Collection) :
    loans.openOn collection ≤ store.loans.openOn collection ∨
      ∃ asset amount item debtor referral, action = .borrow asset amount item debtor referral ∧
        item.collection = collection := by
  cases h with
  | kept mandates => exact .inl (Nat.le_refl _)
  | @opened _ _ _ _ item _ _ _ _ _ opens =>
    have hcount := LoanBook.openOn_openNew hb opens collection
    by_cases hitem : item.collection = collection
    · exact .inr ⟨_, _, _, _, _, rfl, hitem⟩
    · rw [if_neg hitem] at hcount
      exact .inl hcount.le
  | @advanced _ _ loan loan' filed advances stays =>
    left
    have hdeal := advances.sameDeal
    have hcount : (store.loans.setLoan loan').openOn collection +
        SortedMap.part (Loan.openOn collection) (store.loans.loan? loan'.id) =
          store.loans.openOn collection + loan'.openOn collection :=
      LoanBook.openOn_insert rfl collection
    have hsame : loan'.openOn collection = loan.openOn collection := by
      rw [Loan.openOn, Loan.openOn, stays, advances.isOpen, hdeal.item]
    rw [hdeal.id, filed, SortedMap.part_some, hsame] at hcount
    omega
  | @closed _ _ _ status _ filed advances closes =>
    left
    obtain ⟨loan, -, -, hfinal, hloans⟩ := LoanBook.close_eq_ok closes
    have hgone : (loan.closed status now).openOn collection = 0 :=
      Loan.openOn_of_closed hfinal collection
    have hcount := LoanBook.openOn_insert (congrArg LoanBook.loans hloans) collection
    change _ = store.loans.openOn collection + (loan.closed status now).openOn collection at hcount
    rw [hgone] at hcount
    omega

/-- A borrow is counted on the collection of its token, which was accepted beside the loans that
were open there before. -/
lemma UserAction.Serves.borrow_counted {vault : V} {venue : N} {facility : Facility V N}
    {debtor : Account} {amount referral : Nat} {asset : Asset} {item : Item}
    (h : (UserAction.borrow asset amount item debtor referral).Serves prices store vault venue
      caller now facility transfers) (hb : store.loans.InStep) :
    facility.store.loans.openOn item.collection = store.loans.openOn item.collection + 1 ∧
      ∃ config, store.collateral.requireBorrowable item
        (store.loans.openOn item.collection) = .ok config := by
  cases h with
  | borrow s =>
    have hcount := LoanBook.openOn_openNew hb.toConsistent s.opens item.collection
    have haccepted := s.accepted
    rw [if_pos rfl] at hcount
    rw [hb.counted] at haccepted
    exact ⟨hcount, s.config, haccepted⟩

end Requests

/-! ## Pools -/

namespace Pool

variable {O V N : Type} [PriceSource O] [Vault V] [Venue N]

/-- The number of loans that are open on a collection. -/
def openOn (pool : Pool O V N) (collection : Collection) : Nat :=
  pool.state.store.loans.openOn collection

/-- The limit that a collection itself sets to its open loans. -/
def ownLimit (pool : Pool O V N) (collection : Collection) : Nat :=
  pool.state.store.collateral.ownLimit collection

/-- No more loans are open on a collection than its own limit. -/
def WithinLimit (collection : Collection) (pool : Pool O V N) : Prop :=
  pool.openOn collection ≤ pool.ownLimit collection

/-- The move does not lower the limit that a collection itself sets. -/
def SparesLimit (collection : Collection) (pool : Pool O V N) (move : Move O V N) : Prop :=
  pool.ownLimit collection ≤ (pool.after move).ownLimit collection

/-- The move is a borrow that succeeds, on a token of a collection that has reached its own limit,
and the token has terms of its own that have room for one more loan or no limit. -/
def Overfills (collection : Collection) (pool : Pool O V N) (move : Move O V N) : Prop :=
  ∃ caller now asset amount item debtor referral reply,
    move = .call ⟨caller, now, .user (.borrow asset amount item debtor referral)⟩ ∧
    (pool.execute ⟨caller, now, .user (.borrow asset amount item debtor referral)⟩).1 =
      .ok reply ∧
    item.collection = collection ∧ pool.ownLimit collection ≤ pool.openOn collection ∧
    pool.state.store.collateral.Frees item (pool.openOn collection)

instance (collection : Collection) (pool : Pool O V N) (move : Move O V N) :
    Decidable (pool.SparesLimit collection move) := Nat.decLe _ _

variable {pool : Pool O V N} {collection : Collection} {move : Move O V N}

/-- A borrow that succeeds is counted on the collection of its token, whose own limit it leaves as
it was, and the token was accepted beside the loans that were open there before. -/
lemma borrow_after (hb : pool.state.store.loans.InStep) {caller debtor : Account}
    {now amount referral : Nat} {asset : Asset} {item : Item} {reply : Reply}
    (h : (pool.execute ⟨caller, now, .user (.borrow asset amount item debtor referral)⟩).1 =
      .ok reply) :
    let next := pool.after (.call ⟨caller, now, .user (.borrow asset amount item debtor referral)⟩)
    next.openOn item.collection = pool.openOn item.collection + 1 ∧
      next.ownLimit item.collection = pool.ownLimit item.collection ∧
      ∃ config, pool.state.store.collateral.requireBorrowable item
        (pool.openOn item.collection) = .ok config := by
  rcases pool.execute_cases ⟨caller, now, .user (.borrow asset amount item debtor referral)⟩ with
    ⟨hfails, -⟩ | ⟨action, _, facility, effects, custody, haction, -, hrun, -, hstate, -⟩ |
    ⟨action, _, _, _, _, haction, -⟩
  · exact absurd h (hfails reply)
  · cases haction
    have hserves := UserAction.run_serves hrun
    obtain ⟨hcount, haccepted⟩ := hserves.borrow_counted hb
    intro next
    have hstore : next.state.store = facility.store := congrArg PoolState.store hstate
    refine ⟨?_, ?_, haccepted⟩
    · rw [openOn, hstore]
      exact hcount
    · rw [ownLimit, hstore, hserves.collateral]
      rfl
  · cases haction

/-- A move adds no open loan to a collection, unless it is a borrow that succeeds on one of its
tokens. -/
lemma openOn_after_le (hb : pool.state.store.loans.InStep) (collection : Collection)
    (move : Move O V N) :
    (pool.after move).openOn collection ≤ pool.openOn collection ∨
      ∃ caller now asset amount item debtor referral reply,
        move = .call ⟨caller, now, .user (.borrow asset amount item debtor referral)⟩ ∧
        (pool.execute ⟨caller, now, .user (.borrow asset amount item debtor referral)⟩).1 =
          .ok reply ∧
        item.collection = collection := by
  rcases pool.loans_after hb.toConsistent move with
    hloans | ⟨call, action, commit, rfl, haction, hcommit, hrecords⟩
  · left
    rw [openOn, hloans]
    exact Nat.le_refl _
  · rcases hrecords.openOn_le hb.toConsistent collection with
      hle | ⟨asset, amount, item, debtor, referral, rfl, hitem⟩
    · exact .inl hle
    · obtain ⟨caller, now, _⟩ := call
      obtain rfl := haction
      refine .inr ⟨caller, now, asset, amount, item, debtor, referral, commit.reply, rfl, ?_, hitem⟩
      rw [execute, hcommit]

/-- A move that overfills a collection leads beyond its limit. -/
lemma Overfills.not_withinLimit (h : pool.Overfills collection move)
    (hb : pool.state.store.loans.InStep) : ¬ (pool.after move).WithinLimit collection := by
  obtain ⟨_, _, _, _, item, _, _, _, rfl, hreply, rfl, hfull, -⟩ := h
  obtain ⟨hcount, hlimit, -⟩ := borrow_after hb hreply
  intro hwithin
  unfold WithinLimit at hwithin
  omega

/-- A move that neither overfills a collection nor lowers its limit keeps the collection within its
limit. -/
lemma withinLimit_after (hb : pool.state.store.loans.InStep)
    (hlimit : pool.ownLimit collection ≠ 0) (hwithin : pool.WithinLimit collection)
    (hspares : pool.SparesLimit collection move) (hno : ¬ pool.Overfills collection move) :
    (pool.after move).WithinLimit collection := by
  unfold WithinLimit SparesLimit at *
  rcases openOn_after_le hb collection move with
    hle | ⟨caller, now, asset, amount, item, debtor, referral, reply, rfl, hreply, rfl⟩
  · omega
  · obtain ⟨hcount, hsame, config, haccepted⟩ := borrow_after hb hreply
    by_cases hfull : pool.ownLimit item.collection ≤ pool.openOn item.collection
    · have hfrees := CollateralRegistry.frees_of_borrowable haccepted hlimit hfull
      exact absurd ⟨caller, now, asset, amount, item, debtor, referral, reply, rfl, hreply, rfl,
        hfull, hfrees⟩ hno
    · omega

/-- Terms for single tokens that stay within the limit of their collection let no move overfill
it. -/
lemma Overfills.not_confines (h : pool.Overfills collection move) :
    ¬ pool.state.store.collateral.Confines collection := by
  obtain ⟨_, _, _, _, item, _, _, _, -, -, rfl, hfull, hfrees⟩ := h
  exact fun hconfines => hconfines.not_frees hfull hfrees

/-- Along a run that goes on from a collection within its limit and never lowers the limit, the
collection stays within it exactly when no move overfills it. -/
lemma withinLimit_along (h : pool.state.store.Reachable) (hlimit : pool.ownLimit collection ≠ 0)
    (hwithin : pool.WithinLimit collection) {moves : List (Move O V N)}
    (hspares : pool.Obeys (SparesLimit collection) moves) :
    pool.Along (WithinLimit collection) moves ↔
      pool.Obeys (fun pool move => ¬ pool.Overfills collection move) moves := by
  induction moves generalizing pool with
  | nil => exact iff_of_true hwithin trivial
  | cons move moves ih =>
    obtain ⟨hspared, hspares⟩ := hspares
    by_cases hover : pool.Overfills collection move
    · have hbeyond := hover.not_withinLimit h.inStep
      exact iff_of_false (fun halong => hbeyond halong.2.start) fun hno => hno.1 hover
    · have hkept := withinLimit_after h.inStep hlimit hwithin hspared hover
      have hlimit' : (pool.after move).ownLimit collection ≠ 0 :=
        fun hzero => hlimit (Nat.le_zero.mp (hzero ▸ hspared))
      have hrest := ih (pool.reachable_after h move) hlimit' hkept hspares
      exact ⟨fun halong => ⟨hover, hrest.mp halong.2⟩, fun hno => ⟨hwithin, hrest.mpr hno.2⟩⟩

/-- No move of a run overfills a collection as long as the terms for its single tokens stay within
its limit. -/
lemma obeys_of_confines {moves : List (Move O V N)}
    (h : pool.Along (fun pool => pool.state.store.collateral.Confines collection) moves) :
    pool.Obeys (fun pool move => ¬ pool.Overfills collection move) moves := by
  induction moves generalizing pool with
  | nil => trivial
  | cons move moves ih => exact ⟨fun hover => hover.not_confines h.1, ih h.2⟩

/-- A collection that sets a limit to its open loans, keeps it or raises it, and is within it at the
start of a run stays within it in every pool that the run goes through exactly when no borrow of the
run succeeds on a token that has terms of its own with room, or without a limit, while the
collection has reached its own limit. There is no such borrow as long as all terms for single tokens
of the collection set a limit of at most that of the collection. -/
theorem Reachable.withinLimit_along_iff {rule : Pool O V N → Move O V N → Prop}
    (h : pool.Reachable rule) (hlimit : pool.ownLimit collection ≠ 0)
    (hwithin : pool.WithinLimit collection) {moves : List (Move O V N)}
    (hspares : pool.Obeys (SparesLimit collection) moves) :
    (pool.Along (WithinLimit collection) moves ↔
      pool.Obeys (fun pool move => ¬ pool.Overfills collection move) moves) ∧
    (pool.Along (fun pool => pool.state.store.collateral.Confines collection) moves →
      pool.Along (WithinLimit collection) moves) := by
  have hiff := withinLimit_along h.store hlimit hwithin hspares
  exact ⟨hiff, fun hconfines => hiff.mpr (obeys_of_confines hconfines)⟩

end Pool

namespace SmallMarket

/-- The collection accepts one loan at a time, the borrower has a second token, and there is
liquidity. -/
def limiting : List (Move PriceFeeds NoVault FlatVenue) :=
  [.call ⟨founder, 0, .operator (.configureCollateral art none { maxLoans := 1 })⟩,
    .mint ⟨art, 2⟩ borrower, .call ⟨supplier, 0, .user (.deposit coin 1000 supplier 0)⟩]

/-- The founder lets less be borrowed on the second token, without a word on the number of loans;
the borrower then borrows on both tokens. -/
def overriding : List (Move PriceFeeds NoVault FlatVenue) :=
  [.call ⟨founder, 0, .operator (.configureCollateral art (some 2) { ltv := 3000 })⟩,
    .call ⟨borrower, 0, .user (.borrow coin 100 ⟨art, 1⟩ borrower 0)⟩,
    .call ⟨borrower, 0, .user (.borrow coin 100 ⟨art, 2⟩ borrower 0)⟩]

/-- Two loans are open in the end on a collection whose limit is one all along. -/
theorem override_lifts_limit :
    (founded.follow (setUp ++ limiting)).ownLimit art = 1 ∧
      (founded.follow (setUp ++ limiting)).openOn art = 0 ∧
      (founded.follow (setUp ++ limiting)).Obeys (Pool.SparesLimit art) overriding ∧
      ¬ (founded.follow (setUp ++ limiting)).Along (Pool.WithinLimit art) overriding ∧
      ((founded.follow (setUp ++ limiting)).follow overriding).openOn art = 2 := by
  have hr := founded_reachable (setUp ++ limiting)
  have hlimit : (founded.follow (setUp ++ limiting)).ownLimit art = 1 := by decide +kernel
  have hnone : (founded.follow (setUp ++ limiting)).openOn art = 0 := by decide +kernel
  have hspares : (founded.follow (setUp ++ limiting)).Obeys (Pool.SparesLimit art) overriding := by
    decide +kernel
  have hwithin : (founded.follow (setUp ++ limiting)).WithinLimit art := by
    unfold Pool.WithinLimit
    omega
  refine ⟨hlimit, hnone, hspares, ?_, by decide +kernel⟩
  rw [(Pool.Reachable.withinLimit_along_iff hr (by omega) hwithin hspares).1]
  rintro ⟨-, -, hno, -⟩
  refine hno ⟨borrower, 0, coin, 100, ⟨art, 2⟩, borrower, 0, .loan 2, rfl, ?_, rfl, ?_,
    ⟨{ ltv := 3000 }, 0⟩, ?_, .inl rfl⟩
  all_goals decide +kernel

end SmallMarket

end PooledCredit
