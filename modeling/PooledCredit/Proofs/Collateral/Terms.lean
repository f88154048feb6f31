import PooledCredit.Proofs.Collateral.Easing
import PooledCredit.Proofs.Loans.Counts

/-!
# Terms of collateral are only eased under open loans

Nothing takes the terms of a collection away: operators lay them down anew or switch the
collection, users leave them alone. While loans are open on a collection, new terms for it or for
one of its tokens must be no worse for these loans, and the collection cannot be switched off. So in
every reachable store the collateral of every open loan is accepted, and from one store to the next
its terms are only eased.
-/

namespace PooledCredit

/-! ## The registry -/

namespace CollateralRegistry

/-- All terms that a registry holds have been validated. -/
structure Valid (registry : CollateralRegistry) : Prop where
  collections : ∀ collection config, registry.collections.get? collection = some config →
    config.terms.validate = .ok ()
  tokens : ∀ item token, registry.tokens.get? item = some token → token.terms.validate = .ok ()

/-- A change of a registry that concerns the tokens of one collection, and that eases their terms
and lets them stay active if loans are open on the collection. -/
structure Revises (collection : Collection) (openLoans : Nat)
    (registry registry' : CollateralRegistry) : Prop where
  others : ∀ item, item.collection ≠ collection → registry'.config item = registry.config item
  eases : openLoans ≠ 0 → ∀ item before, item.collection = collection →
    registry.config item = .ok before →
      ∃ after, registry'.config item = .ok after ∧ before.terms.Eases after.terms ∧
        (before.active = true → after.active = true)
  valid : registry.Valid → registry'.Valid

variable {registry registry' : CollateralRegistry} {collection : Collection} {item : Item}
variable {terms : CollateralTerms} {openLoans now : Nat}

/-- What holds for a token comes from its collection and from the terms for the token alone. -/
lemma config_eq_ok {config : CollateralConfig} :
    registry.config item = .ok config ↔
      ∃ base, registry.collections.get? item.collection = some base ∧
        config = match registry.tokens.get? item with
          | some token =>
            { base with terms := token.terms, changedAt := max token.changedAt base.changedAt }
          | none => base := by
  simp only [CollateralRegistry.config, CollateralRegistry.collection, bind_eq_ok, orRefuse_eq_ok]
  constructor
  · rintro ⟨base, hbase, h⟩
    refine ⟨base, hbase, ?_⟩
    cases htoken : registry.tokens.get? item with
    | none =>
      rw [htoken] at h
      exact (pure_eq_ok.mp h).symm
    | some token =>
      rw [htoken] at h
      exact (pure_eq_ok.mp h).symm
  · rintro ⟨base, hbase, rfl⟩
    refine ⟨base, hbase, ?_⟩
    cases registry.tokens.get? item with
    | none => rfl
    | some token => rfl

/-- The terms that hold for a token have been validated. -/
lemma Valid.config (h : registry.Valid) {config : CollateralConfig}
    (hc : registry.config item = .ok config) : config.terms.validate = .ok () := by
  obtain ⟨base, hbase, rfl⟩ := config_eq_ok.mp hc
  split
  · next token htoken => exact h.tokens item token htoken
  · exact h.collections item.collection base hbase

/-- Storing what holds for a collection revises it, provided that it eases what held before. -/
lemma revises_setCollection {config : CollateralConfig}
    (hvalid : registry.Valid → config.terms.validate = .ok ())
    (heases : openLoans ≠ 0 → ∀ base, registry.collections.get? collection = some base →
      base.terms.Eases config.terms ∧ (base.active = true → config.active = true)) :
    registry.Revises collection openLoans (registry.setCollection collection config) where
  others item hother := by
    simp only [CollateralRegistry.config, CollateralRegistry.collection, setCollection,
      SortedMap.get?_insert_of_ne _ hother]
  eases hopen item before hitem hbefore := by
    obtain ⟨base, hbase, rfl⟩ := config_eq_ok.mp hbefore
    subst hitem
    obtain ⟨heased, hactive⟩ := heases hopen base hbase
    have hfound : (registry.setCollection item.collection config).collections.get?
        item.collection = some config :=
      SortedMap.get?_insert_self registry.collections item.collection config
    refine ⟨_, config_eq_ok.mpr ⟨config, hfound, rfl⟩, ?_⟩
    cases htoken : registry.tokens.get? item with
    | none =>
      simp only [setCollection, htoken]
      exact ⟨heased, hactive⟩
    | some token =>
      simp only [setCollection, htoken]
      exact ⟨.refl _, hactive⟩
  valid h := {
    collections := fun other found hfound => by
      simp only [setCollection, SortedMap.get?_insert] at hfound
      split at hfound
      · obtain rfl := Option.some.inj hfound
        exact hvalid h
      · exact h.collections other found hfound
    tokens := h.tokens }

/-- Storing terms for a token revises its collection, provided that they ease what held before. -/
lemma revises_insert_token (item : Item) {token : TokenTerms}
    (hvalid : token.terms.validate = .ok ())
    (heases : openLoans ≠ 0 → ∀ before, registry.config item = .ok before →
      before.terms.Eases token.terms) :
    registry.Revises item.collection openLoans
      { registry with tokens := registry.tokens.insert item token } where
  others other hother := by
    have hne : other ≠ item := fun heq => hother (congrArg Item.collection heq)
    simp only [CollateralRegistry.config, CollateralRegistry.collection,
      SortedMap.get?_insert_of_ne _ hne]
  eases hopen other before hother hbefore := by
    obtain ⟨base, hbase, hterms⟩ := config_eq_ok.mp hbefore
    by_cases hne : other = item
    · subst hne
      refine ⟨_, config_eq_ok.mpr ⟨base, hbase, rfl⟩, ?_⟩
      simp only [SortedMap.get?_insert_self]
      refine ⟨heases hopen before hbefore, fun hactive => ?_⟩
      rw [hterms] at hactive
      split at hactive <;> exact hactive
    · refine ⟨before, ?_, .refl _, id⟩
      rw [← hbefore]
      simp only [CollateralRegistry.config, CollateralRegistry.collection,
        SortedMap.get?_insert_of_ne _ hne]
  valid h := {
    collections := h.collections
    tokens := fun other found hfound => by
      simp only [SortedMap.get?_insert] at hfound
      split at hfound
      · obtain rfl := Option.some.inj hfound
        exact hvalid
      · exact h.tokens other found hfound }

/-- While loans are open new terms must ease those that held. -/
lemma protectLoans_eq_ok {before : CollateralTerms} {u : Unit}
    (h : protectLoans collection openLoans before terms = .ok u) (hopen : openLoans ≠ 0) :
    before.Eases terms :=
  CollateralTerms.eases_of_not_worsens ((require_eq_ok.mp h).resolve_left hopen)

/-- Laying down terms for a collection or one of its tokens revises the collection. -/
lemma configure_revises {token : Option Nat}
    (h : registry.configure collection token terms openLoans now = .ok registry') :
    registry.Revises collection openLoans registry' := by
  cases token with
  | none =>
    simp only [configure, configureCollection, bind_eq_ok] at h
    obtain ⟨_, hvalid, h⟩ := h
    split at h
    · next config hconfig =>
      simp only [bind_eq_ok, pure_eq_ok] at h
      obtain ⟨_, hprotected, rfl⟩ := h
      refine revises_setCollection (fun _ => hvalid) fun hopen base hbase => ?_
      obtain rfl := Option.some.inj (hconfig.symm.trans hbase)
      exact ⟨protectLoans_eq_ok hprotected hopen, id⟩
    · next hnone =>
      obtain rfl := pure_eq_ok.mp h
      refine revises_setCollection (fun _ => hvalid) fun _ base hbase => ?_
      rw [hnone] at hbase
      cases hbase
  | some token =>
    simp only [configure, configureToken, bind_eq_ok, pure_eq_ok] at h
    obtain ⟨_, hvalid, config, hconfig, _, hprotected, rfl⟩ := h
    refine revises_insert_token ⟨collection, token⟩ hvalid fun hopen before hbefore => ?_
    obtain rfl := Except.ok.inj (hconfig.symm.trans hbefore)
    exact protectLoans_eq_ok hprotected hopen

/-- Switching a collection revises it, if it is switched off only while no loan is open. -/
lemma revises_switched {config : CollateralConfig} {active frozen : Bool}
    (hconfig : registry.collections.get? collection = some config)
    (hactive : openLoans ≠ 0 → config.active = true → active = true) :
    registry.Revises collection openLoans (registry.setCollection collection
      { config with active, frozen, changedAt := now }) := by
  refine revises_setCollection (fun h => h.collections collection config hconfig) ?_
  intro hopen base hbase
  obtain rfl := Option.some.inj (hconfig.symm.trans hbase)
  exact ⟨.refl _, hactive hopen⟩

/-- Accepting a collection or ceasing to accept it revises it. -/
lemma setActive_revises {active : Bool}
    (h : registry.setActive collection active openLoans now = .ok registry') :
    registry.Revises collection openLoans registry' := by
  simp only [setActive, CollateralRegistry.collection, bind_eq_ok, require_eq_ok, exists_const,
    orRefuse_eq_ok, pure_eq_ok] at h
  obtain ⟨hallowed, config, hconfig, rfl⟩ := h
  exact revises_switched hconfig fun hopen _ => hallowed.resolve_right hopen

/-- Freezing a collection or lifting the freeze revises it. -/
lemma setFrozen_revises {frozen : Bool}
    (h : registry.setFrozen collection frozen now = .ok registry') :
    registry.Revises collection openLoans registry' := by
  simp only [setFrozen, CollateralRegistry.collection, bind_eq_ok, orRefuse_eq_ok, pure_eq_ok] at h
  obtain ⟨config, hconfig, rfl⟩ := h
  exact revises_switched hconfig fun _ => id

/-- What an operator can have done to the terms or switches of a collection. -/
inductive Administered (collection : Collection) (openLoans : Nat)
    (registry : CollateralRegistry) : CollateralRegistry → Prop where
  | configured {registry' : CollateralRegistry} {token : Option Nat} {terms : CollateralTerms}
      {now : Nat} (h : registry.configure collection token terms openLoans now = .ok registry') :
      Administered collection openLoans registry registry'
  | accepted {registry' : CollateralRegistry} {active : Bool} {now : Nat}
      (h : registry.setActive collection active openLoans now = .ok registry') :
      Administered collection openLoans registry registry'
  | frozen {registry' : CollateralRegistry} {frozen : Bool} {now : Nat}
      (h : registry.setFrozen collection frozen now = .ok registry') :
      Administered collection openLoans registry registry'

/-- Administering a collection revises it. -/
lemma Administered.revises (h : registry.Administered collection openLoans registry') :
    registry.Revises collection openLoans registry' := by
  cases h with
  | configured h => exact configure_revises h
  | accepted h => exact setActive_revises h
  | frozen h => exact setFrozen_revises h

end CollateralRegistry

/-! ## Operators -/

/-- The collection that an operator's action lays down terms for or switches, if the action is one
of these. -/
def OperatorAction.revised : OperatorAction → Option Collection
  | configureCollateral collection .. => some collection
  | setCollateralActive collection _ => some collection
  | setCollateralFrozen collection _ => some collection
  | _ => none

/-- An operator's action leaves the collateral registry alone, or it administers a collection under
the number of loans that are open on it and changes nothing else in the store. -/
lemma OperatorAction.run_collateral {V : Type} [Vault V] {action : OperatorAction}
    {state state' : PoolState} {vault vault' : V} {caller : Account} {now : Nat} {reply : Reply}
    {events : EventLog}
    (h : action.run state vault caller now = .ok (reply, state', vault', events)) :
    (action.revised = none ∧ state'.store.collateral = state.store.collateral) ∨
    ∃ collection, action.revised = some collection ∧
      state.store.collateral.Administered collection (state.store.loans.openCount collection)
        state'.store.collateral ∧
      state'.store = { state.store with collateral := state'.store.collateral } := by
  cases action <;>
    simp only [run, PoolState.setCollateral, PoolState.setLedger, bind_eq_ok, pure_eq_ok,
      Prod.exists, Prod.mk.injEq] at h
  case configureCollateral =>
    obtain ⟨_, -, _, hc, -, rfl, -⟩ := h
    exact .inr ⟨_, rfl, .configured hc, rfl⟩
  case setCollateralActive =>
    obtain ⟨_, -, _, hc, _, -, -, rfl, -⟩ := h
    exact .inr ⟨_, rfl, .accepted hc, rfl⟩
  case setCollateralFrozen =>
    obtain ⟨_, -, _, hc, _, -, -, rfl, -⟩ := h
    exact .inr ⟨_, rfl, .frozen hc, rfl⟩
  case setPause =>
    obtain ⟨_, -, h⟩ := h
    rw [ite_bind] at h
    simp only [bind_eq_ok, pure_eq_ok, Prod.mk.injEq] at h
    obtain ⟨_, -, -, rfl, -⟩ := h
    exact .inl ⟨rfl, rfl⟩
  case grantRole | revokeRole | registerWrapper =>
    obtain ⟨_, -, _, -, -, rfl, -⟩ := h
    exact .inl ⟨rfl, rfl⟩
  case openReserve | setReserveFlags | setRateModel =>
    obtain ⟨_, -, _, -, _, -, -, rfl, -⟩ := h
    exact .inl ⟨rfl, rfl⟩
  case setReserveFactor =>
    obtain ⟨_, -, _, -, _, -, _, -, -, rfl, -⟩ := h
    exact .inl ⟨rfl, rfl⟩
  case setVaultShare =>
    obtain ⟨_, -, _, -, -, rfl, -⟩ := h
    exact .inl ⟨rfl, rfl⟩
  case rebalance =>
    obtain ⟨_, -, _, _, -, _, _, _, -, _, -, -, rfl, -⟩ := h
    exact .inl ⟨rfl, rfl⟩

/-! ## Open loans -/

/-- A collection with an open loan counts at least one. -/
lemma LoanBook.InStep.openCount_ne_zero {book : LoanBook} (h : book.InStep) {id : LoanId}
    {loan : Loan} (hloan : book.loan? id = some loan) (hopen : loan.status.isOpen = true) :
    book.openCount loan.item.collection ≠ 0 := by
  have hpart : loan.openOn loan.item.collection = 1 := if_pos ⟨hopen, rfl⟩
  have hle := SortedMap.le_total (Loan.openOn loan.item.collection) hloan
  have hcount := h.counted loan.item.collection
  unfold LoanBook.openOn at hcount
  omega

/-- The collateral of every open loan has terms. -/
def Store.TermsStand (store : Store) : Prop :=
  ∀ id loan, store.loans.loan? id = some loan → loan.status.isOpen = true →
    ∃ config, store.collateral.config loan.item = .ok config

/-- The collateral of every open loan is accepted. -/
def Store.AcceptsCollateral (store : Store) : Prop :=
  ∀ id loan, store.loans.loan? id = some loan → loan.status.isOpen = true →
    ∃ config, store.collateral.config loan.item = .ok config ∧ config.active = true

namespace UserAction.Serves

variable {O V N : Type} [PriceSource O] [Vault V] [Venue N] {action : UserAction} {prices : O}
variable {store : Store} {vault : V} {venue : N} {facility : Facility V N} {caller : Account}
variable {now : Nat} {transfers : List Transfer}

/-- No user's action changes the terms of collateral. -/
lemma collateral (h : action.Serves prices store vault venue caller now facility transfers) :
    facility.store.collateral = store.collateral := by
  cases h with
  | liquidate s | sell s =>
    obtain ⟨_, -, hstore, -⟩ := Store.settle_eq_ok s.settles
    show s.store'.collateral = store.collateral
    rw [hstore]
  | buyDebt s | claimDebt s =>
    obtain ⟨_, -, -, hstore⟩ := Store.passDebt_eq_ok s.passes
    show s.store'.collateral = store.collateral
    rw [hstore]
  | deposit | withdraw | borrow | repay | setMandate | bid | redeem | list | bidDebt
    | cancelListing => rfl

/-- Every user's action keeps the collateral of open loans accepted: a new loan is only given on
accepted collateral. -/
lemma acceptsCollateral
    (hs : action.Serves prices store vault venue caller now facility transfers)
    (hb : store.loans.Consistent) (h : store.AcceptsCollateral) :
    facility.store.AcceptsCollateral := by
  intro id loan hloan hopen
  have halters := (hs.records hb).alters hb id
  rw [hloan] at halters
  rw [hs.collateral]
  generalize hold : store.loans.loan? id = old at halters
  cases halters with
  | kept => exact h id loan hold hopen
  | opened =>
    cases hs with
    | borrow s =>
      have haccepted := s.accepted
      simp only [CollateralRegistry.requireBorrowable, bind_eq_ok, require_eq_ok,
        exists_const] at haccepted
      obtain ⟨config, hconfig, hactive, -⟩ := haccepted
      exact ⟨config, hconfig, hactive⟩
  | @advanced _ _ old _ advances =>
    rw [advances.sameDeal.item]
    exact h id old hold advances.isOpen

end UserAction.Serves

namespace Store

variable {store store' : Store}

/-- A step of a store eases the terms of every open loan and lets its collateral stay accepted. -/
lemma Step.eases (hs : Step store store') (hb : store.loans.InStep) {id : LoanId} {loan : Loan}
    (hloan : store.loans.loan? id = some loan) (hopen : loan.status.isOpen = true)
    {before : CollateralConfig} (hbefore : store.collateral.config loan.item = .ok before) :
    ∃ after, store'.collateral.config loan.item = .ok after ∧ before.terms.Eases after.terms ∧
      (before.active = true → after.active = true) := by
  have hsame (h : store'.collateral.config loan.item = store.collateral.config loan.item) :
      ∃ after, store'.collateral.config loan.item = .ok after ∧ before.terms.Eases after.terms ∧
        (before.active = true → after.active = true) :=
    ⟨before, h.trans hbefore, .refl _, fun hactive => hactive⟩
  cases hs with
  | user hrun =>
    apply hsame
    rw [(UserAction.run_serves hrun).collateral]
  | operator hrun =>
    rcases OperatorAction.run_collateral hrun with ⟨-, hcollateral⟩ | ⟨collection, -, ha, -⟩
    · apply hsame
      rw [hcollateral]
    · by_cases hitem : loan.item.collection = collection
      · subst hitem
        have hcount := hb.openCount_ne_zero hloan hopen
        exact ha.revises.eases hcount loan.item before rfl hbefore
      · exact hsame (ha.revises.others loan.item hitem)
  | accrual ha =>
    obtain ⟨_, _, -, rfl⟩ := accrue_eq_ok ha
    exact hsame rfl

/-- A step of a store keeps all terms valid. -/
lemma Step.collateral_valid (hs : Step store store') (hv : store.collateral.Valid) :
    store'.collateral.Valid := by
  cases hs with
  | user hrun =>
    rw [(UserAction.run_serves hrun).collateral]
    exact hv
  | operator hrun =>
    rcases OperatorAction.run_collateral hrun with ⟨-, hsame⟩ | ⟨_, -, ha, -⟩
    · rw [hsame]
      exact hv
    · exact ha.revises.valid hv
  | accrual ha =>
    obtain ⟨_, _, -, rfl⟩ := accrue_eq_ok ha
    exact hv

/-- In every reachable store all terms are valid. -/
lemma Reachable.collateral_valid (h : store.Reachable) : store.collateral.Valid := by
  refine h.invariant ?_ fun _ _ _ hi hs => hs.collateral_valid hi
  intro settings store hc
  obtain rfl := create_eq_ok hc
  exact ⟨fun _ _ hfound => (nomatch hfound), fun _ _ hfound => (nomatch hfound)⟩

/-- Every step keeps the collateral of open loans accepted: a collection is switched off only while
no loan is open on it. -/
lemma Step.acceptsCollateral (hs : Step store store') (hb : store.loans.InStep)
    (h : store.AcceptsCollateral) : store'.AcceptsCollateral := by
  cases hs with
  | user hrun => exact (UserAction.run_serves hrun).acceptsCollateral hb.toConsistent h
  | operator hrun =>
    obtain ⟨-, hloans, -⟩ := OperatorAction.run_eq_ok hrun
    intro id loan hloan hopen
    rw [hloans] at hloan
    obtain ⟨before, hbefore, hactive⟩ := h id loan hloan hopen
    obtain ⟨after, hafter, -, hstays⟩ := (Step.operator hrun).eases hb hloan hopen hbefore
    exact ⟨after, hafter, hstays hactive⟩
  | accrual ha =>
    obtain ⟨_, _, -, rfl⟩ := accrue_eq_ok ha
    exact h

/-- In every reachable store the collateral of every open loan is accepted. -/
lemma Reachable.acceptsCollateral (h : store.Reachable) : store.AcceptsCollateral := by
  refine h.invariant ?_ fun _ _ hr hi hs => hs.acceptsCollateral hr.inStep hi
  intro settings store hc
  obtain rfl := create_eq_ok hc
  exact fun _ _ hloan => nomatch hloan

/-- In every reachable store the collateral of every open loan has terms. -/
theorem Reachable.termsStand (h : store.Reachable) : store.TermsStand := by
  intro id loan hloan hopen
  obtain ⟨config, hconfig, -⟩ := h.acceptsCollateral id loan hloan hopen
  exact ⟨config, hconfig⟩

end Store

/-- An operator who lays down new terms for a collection or one of its tokens, or switches the
collection, changes nothing else in the store. The collateral of every loan that is open on the
collection stays accepted, on terms that spare the loan at every time and at all prices at which
both valuations succeed; and nothing changes for the tokens of other collections. -/
theorem Pool.Reachable.revision_spares_loans {O V N : Type} [PriceSource O] [Vault V] [Venue N]
    {rule : Pool O V N → Move O V N → Prop} {pool : Pool O V N} (h : pool.Reachable rule)
    {action : OperatorAction} {collection : Collection} (haction : action.revised = some collection)
    {caller : Account} {now : Nat} {commit : Commit V N}
    (hcall : pool.attempt ⟨caller, now, .operator action⟩ = .ok commit) :
    commit.state.store =
        { pool.state.store with collateral := commit.state.store.collateral } ∧
    (∀ id loan, pool.state.store.loans.loan? id = some loan → loan.status.isOpen = true →
      loan.item.collection = collection →
      ∃ before after, pool.state.store.collateral.config loan.item = .ok before ∧
        commit.state.store.collateral.config loan.item = .ok after ∧
        before.active = true ∧ after.active = true ∧
        ∀ (P : Type) [PriceSource P] (prices : P) (time : Nat) (weighed weighed' : Valuation),
          pool.state.store.valuation prices loan.item loan.asset loan.scaled time =
            .ok (before, weighed) →
          commit.state.store.valuation prices loan.item loan.asset loan.scaled time =
            .ok (after, weighed') →
          before.terms.Spares after.terms weighed weighed') ∧
    ∀ item, item.collection ≠ collection →
      commit.state.store.collateral.config item = pool.state.store.collateral.config item := by
  obtain ⟨hrun, -, -⟩ := attempt_operator rfl hcall
  have hb := h.store.inStep
  rcases OperatorAction.run_collateral hrun with ⟨hnone, -⟩ | ⟨_, hsome, ha, hstore⟩
  · rw [haction] at hnone
    cases hnone
  obtain rfl := Option.some.inj (haction.symm.trans hsome)
  have hvalid := ha.revises.valid h.store.collateral_valid
  refine ⟨hstore, ?_, ha.revises.others⟩
  intro id loan hloan hopen hitem
  subst hitem
  obtain ⟨before, hbefore, hactive⟩ := h.store.acceptsCollateral id loan hloan hopen
  have hcount := hb.openCount_ne_zero hloan hopen
  obtain ⟨after, hafter, heases, hstays⟩ :=
    ha.revises.eases hcount loan.item before rfl hbefore
  refine ⟨before, after, hbefore, hafter, hactive, hstays hactive, ?_⟩
  intro P _ prices time weighed weighed' hweighed hweighed'
  rw [hstore] at hweighed'
  obtain ⟨reserve, -, hr, hv⟩ := Store.valuation_eq_ok hweighed
  obtain ⟨reserve', -, hr', hv'⟩ := Store.valuation_eq_ok hweighed'
  obtain rfl := Option.some.inj (hr.symm.trans hr')
  exact heases.spares (hvalid.config hafter) hv hv'

namespace SmallMarket

/-- Terms that ease those of the collection in everything that open loans are measured by, but let
less be borrowed. -/
def easedTerms : CollateralTerms where
  ltv := 3000
  threshold := 9000
  bonus := 300
  redeemWindow := 2 * hour
  bidWindow := 4 * hour
  fine := 300
  redeemThreshold := 6000
  minFine := 0

/-- Such terms can be laid down for the token of the open loan, and they spare the loan. -/
theorem lent_spared :
    ∃ loan commit before after weighed weighed',
      lent.state.store.loans.loan? 1 = some loan ∧
      lent.attempt ⟨founder, 0, .operator (.configureCollateral art (some 1) easedTerms)⟩ =
        .ok commit ∧
      lent.state.store.valuation feeds loan.item loan.asset loan.scaled 0 =
        .ok (before, weighed) ∧
      commit.state.store.valuation feeds loan.item loan.asset loan.scaled 0 =
        .ok (after, weighed') ∧
      after.active = true ∧ before.terms.Spares after.terms weighed weighed' := by
  have hr := lent_reachable
  obtain ⟨loan, hloan, hopen, hitem, hok, hok'⟩ := show
    ∃ loan ∈ lent.state.store.loans.loan? 1, loan.status.isOpen = true ∧
      loan.item.collection = art ∧
      (lent.state.store.valuation feeds loan.item loan.asset loan.scaled 0).isOk = true ∧
      ((lent.attempt ⟨founder, 0, .operator (.configureCollateral art (some 1) easedTerms)⟩).bind
        fun commit => commit.state.store.valuation feeds loan.item loan.asset loan.scaled 0).isOk =
          true by
    decide +kernel
  obtain ⟨⟨before, weighed⟩, hweighed⟩ := isOk_iff.mp hok
  obtain ⟨⟨after, weighed'⟩, hweighed'⟩ := isOk_iff.mp hok'
  obtain ⟨commit, hcall, hweighed'⟩ := bind_eq_ok.mp hweighed'
  have hspared := Pool.Reachable.revision_spares_loans hr rfl hcall
  obtain ⟨before', after', hbefore, hafter, -, hactive, hspares⟩ :=
    hspared.2.1 1 loan hloan hopen hitem
  obtain ⟨_, hconfig, -⟩ := Store.valuation_eq_ok hweighed
  obtain ⟨_, hconfig', -⟩ := Store.valuation_eq_ok hweighed'
  obtain rfl := Except.ok.inj (hconfig.symm.trans hbefore)
  obtain rfl := Except.ok.inj (hconfig'.symm.trans hafter)
  exact ⟨loan, commit, before, after, weighed, weighed', hloan, hcall, hweighed, hweighed', hactive,
    hspares _ feeds 0 weighed weighed' hweighed hweighed'⟩

end SmallMarket

end PooledCredit
