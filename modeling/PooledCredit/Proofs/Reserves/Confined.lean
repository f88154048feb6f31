import PooledCredit.Proofs.Reserves.Holdings

/-!
# How far an operation of the ledger reaches

Every operation of the ledger is confined to one asset, and among those who hold supply of that
asset to one account, which supplies or withdraws, and to the treasury, which an accrual credits.
-/

namespace PooledCredit

/-! ## The ledger -/

namespace Ledger

/-- What changed from one ledger to another is confined to one asset, if to any, and to the supply
of one account, if of any, and of the treasury. -/
structure Confined (asset? : Option Asset) (supplier? : Option Account)
    (ledger ledger' : Ledger) : Prop where
  treasury : ledger'.treasury = ledger.treasury
  reserves : ∀ asset, asset? ≠ some asset →
    ledger'.reserves.get? asset = ledger.reserves.get? asset
  supplies : ∀ asset account,
    asset? ≠ some asset ∨ supplier? ≠ some account ∧ account ≠ ledger.treasury →
      ledger'.scaledSupplyOf asset account = ledger.scaledSupplyOf asset account

variable {ledger middle ledger' : Ledger} {asset : Asset} {account : Account}
variable {asset? : Option Asset} {supplier? : Option Account} {now amount scaled : Nat}

/-- No change is confined to anything. -/
lemma Confined.refl (asset? : Option Asset) (supplier? : Option Account) (ledger : Ledger) :
    ledger.Confined asset? supplier? ledger :=
  ⟨rfl, fun _ _ => rfl, fun _ _ _ => rfl⟩

/-- A change of the reserve alone, followed by a change of the supply as well. -/
lemma Confined.trans (h : ledger.Confined asset? none middle)
    (h' : middle.Confined asset? supplier? ledger') : ledger.Confined asset? supplier? ledger' where
  treasury := h'.treasury.trans h.treasury
  reserves other hother := (h'.reserves other hother).trans (h.reserves other hother)
  supplies other owner hother := by
    have hlater := h'.supplies other owner
    rw [h.treasury] at hlater
    exact (hlater hother).trans (h.supplies other owner (hother.imp_right fun howner =>
      ⟨nofun, howner.2⟩))

/-- Storing a reserve changes no supply. -/
lemma setReserve_confined (ledger : Ledger) (asset : Asset) (reserve : Reserve) :
    ledger.Confined (some asset) supplier? (ledger.setReserve asset reserve) where
  treasury := rfl
  reserves _ hother := SortedMap.get?_insert_of_ne _ (fun h => hother (congrArg some h.symm)) _
  supplies _ _ _ := rfl

/-- A credit is confined to its account. -/
lemma credit_confined (h : ledger.credit asset account scaled = .ok ledger') :
    ledger.Confined (some asset) (some account) ledger' where
  treasury := by
    obtain ⟨_, rfl⟩ := credit_eq_ok h
    rfl
  reserves _ _ := by
    obtain ⟨_, rfl⟩ := credit_eq_ok h
    rfl
  supplies other owner hother := by
    rw [credit_scaledSupplyOf h, if_neg, Nat.add_zero]
    rintro ⟨rfl, rfl⟩
    exact hother.elim (fun hne => hne rfl) fun hne => hne.1 rfl

/-- A debit is confined to its account. -/
lemma debit_confined (h : ledger.debit asset account scaled = .ok ledger') :
    ledger.Confined (some asset) (some account) ledger' where
  treasury := by
    obtain ⟨_, rfl⟩ := debit_eq_ok h
    rfl
  reserves _ _ := by
    obtain ⟨_, rfl⟩ := debit_eq_ok h
    rfl
  supplies other owner hother := by
    have hleft := debit_scaledSupplyOf h other owner
    rw [if_neg, Nat.add_zero] at hleft
    · exact hleft
    · rintro ⟨rfl, rfl⟩
      exact hother.elim (fun hne => hne rfl) fun hne => hne.1 rfl

/-- An accrual is confined to the treasury. -/
lemma accrue_confined {accrual : Accrual} (h : ledger.accrue asset now = .ok (accrual, ledger')) :
    ledger.Confined (some asset) none ledger' := by
  obtain ⟨_, _, htouch, -⟩ := accrue_eq_ok h
  refine ⟨htouch.treasury, fun other hother => ?_, fun other owner hother => ?_⟩
  · exact htouch.others other fun heq => hother (congrArg some heq.symm)
  · rw [(accrue_mints h).2, if_neg, Nat.add_zero]
    rintro ⟨rfl, rfl⟩
    exact hother.elim (fun hne => hne rfl) fun hne => hne.2 rfl

/-- A deposit is confined to its account and the treasury. -/
lemma deposit_confined (h : ledger.deposit asset account amount now = .ok (scaled, ledger')) :
    ledger.Confined (some asset) (some account) ledger' := by
  simp only [deposit, bind_eq_ok, require_eq_ok, exists_const, pure_eq_ok, Prod.exists,
    Prod.mk.injEq] at h
  obtain ⟨-, _, -, _, -, _, -, _, accrued, ha, _, -, _, -, -, _, -, _, -, _, -, _, hc, rfl, rfl⟩ := h
  refine (accrue_confined ha).trans ?_
  exact (setReserve_confined accrued asset _).trans (credit_confined hc)

/-- A repayment changes no supply. -/
lemma repay_confined {repayment : Repayment}
    (h : ledger.repay asset scaled amount = .ok (repayment, ledger')) :
    ledger.Confined (some asset) none ledger' := by
  simp only [repay, ite_bind, bind_eq_ok, require_eq_ok, exists_const, pure_eq_ok,
    Prod.mk.injEq] at h
  obtain ⟨-, _, -, _, -, _, -, _, -, _, -, _, -, _, -, -, rfl⟩ := h
  exact setReserve_confined ledger asset _

/-- A write-off changes no supply. -/
lemma writeOff_confined {loss : Nat} (h : ledger.writeOff asset scaled = .ok (loss, ledger')) :
    ledger.Confined (some asset) none ledger' := by
  simp only [writeOff, bind_eq_ok, pure_eq_ok, Prod.mk.injEq] at h
  obtain ⟨_, -, _, -, _, -, _, -, _, -, -, rfl⟩ := h
  exact setReserve_confined ledger asset _

variable {V : Type} [Vault V] {vault vault' : V}

/-- A withdrawal is confined to its owner and the treasury. -/
lemma withdraw_confined {owner : Account} {paid : Nat} {movement : Movement}
    (h : ledger.withdraw vault asset owner amount now = .ok (paid, movement, ledger', vault')) :
    ledger.Confined (some asset) (some owner) ledger' := by
  simp only [withdraw, bind_pure_bind, ite_bind, bind_eq_ok, require_eq_ok, exists_const,
    pure_eq_ok, Prod.exists, Prod.mk.injEq] at h
  obtain ⟨-, _, -, _, -, _, accrued, ha, _, -, _, -, -, _, -, _, _, _, -, -, _, -, _, -, _, -, _, hd,
    -, -, rfl, -⟩ := h
  refine (accrue_confined ha).trans ?_
  exact (setReserve_confined accrued asset _).trans (debit_confined hd)

/-- Lending is confined to the treasury. -/
lemma lend_confined (h : ledger.lend vault asset amount now = .ok (scaled, ledger', vault')) :
    ledger.Confined (some asset) none ledger' := by
  simp only [lend, bind_eq_ok, require_eq_ok, exists_const, pure_eq_ok, Prod.exists,
    Prod.mk.injEq] at h
  obtain ⟨-, _, -, _, -, _, accrued, ha, _, -, _, _, _, -, -, _, -, _, -, _, -, _, -, -, rfl, -⟩ := h
  exact (accrue_confined ha).trans (setReserve_confined accrued asset _)

end Ledger

/-! ## Requests -/

/-- A settlement is confined to the asset of its loan. -/
lemma Store.settle_confined {store store' : Store} {loan : Loan} {proceeds now : Nat}
    {winner : Option Account} {settlement : Settlement} {transfers : List Transfer}
    (h : store.settle loan proceeds winner now = .ok (settlement, store', transfers)) :
    store.ledger.Confined (some loan.asset) none store'.ledger := by
  obtain ⟨s, -, rfl, -⟩ := settle_eq_ok h
  have hrepaid : store.ledger.Confined (some loan.asset) none s.repaid := by
    rcases s.repays with ⟨-, -, hledger⟩ | ⟨_, -, hp, -⟩
    · rw [hledger]
      exact .refl _ _ _
    · exact Ledger.repay_confined hp
  refine hrepaid.trans ?_
  rcases s.writesOff with ⟨-, -, hledger⟩ | ⟨-, hw⟩
  · show s.repaid.Confined _ _ s.settled
    rw [hledger]
    exact .refl _ _ _
  · exact Ledger.writeOff_confined hw

namespace UserAction

/-- The asset that an action is on: the one that is supplied, withdrawn or lent, or the one in which
the open loan on its token is owed. -/
def asset? (store : Store) : UserAction → Option Asset
  | deposit asset _ _ _ | withdraw asset _ _ | borrow asset _ _ _ _ => some asset
  | setMandate _ _ => none
  | repay item _ | bid item _ _ | redeem item _ _ | liquidate item _ | sell item | list item _ _ _
    | buyDebt item | bidDebt item _ | claimDebt item | cancelListing item =>
    (store.loans.openLoan? item).map Loan.asset

/-- The account whose supply an action of a caller is on: the beneficiary of a deposit, or the
caller who withdraws. -/
def supplier? (caller : Account) : UserAction → Option Account
  | deposit _ _ beneficiary _ => some beneficiary
  | withdraw _ _ _ => some caller
  | _ => none

/-- A user's action is confined to the asset that it is on, and there to the account whose supply it
is on and to the treasury. -/
lemma Serves.confined {O V N : Type} [PriceSource O] [Vault V] [Venue N]
    {action : UserAction} {prices : O} {store : Store} {vault : V} {venue : N}
    {facility : Facility V N} {caller : Account} {now : Nat} {transfers : List Transfer}
    (h : action.Serves prices store vault venue caller now facility transfers) :
    store.ledger.Confined (action.asset? store) (action.supplier? caller)
      facility.store.ledger := by
  have honLoan {item : Item} {loan : Loan} {ledger : Ledger}
      (hopen : store.loans.openLoan? item = some loan)
      (hc : store.ledger.Confined (some loan.asset) none ledger) :
      store.ledger.Confined ((store.loans.openLoan? item).map Loan.asset) none ledger := by
    rw [hopen]
    exact hc
  cases h with
  | deposit hd => exact Ledger.deposit_confined hd
  | withdraw hw => exact Ledger.withdraw_confined hw
  | borrow s => exact (Ledger.accrue_confined s.accrues).trans (Ledger.lend_confined s.lends)
  | repay s =>
    exact honLoan s.isOpen
      ((Ledger.accrue_confined s.accrues).trans (Ledger.repay_confined s.repays))
  | redeem s =>
    exact honLoan s.isOpen
      ((Ledger.accrue_confined s.accrues).trans (Ledger.repay_confined s.repays))
  | bid s => exact honLoan s.isOpen (Ledger.accrue_confined s.accrues)
  | liquidate s | sell s =>
    exact honLoan s.isOpen
      ((Ledger.accrue_confined s.accrues).trans (Store.settle_confined s.settles))
  | buyDebt s | claimDebt s =>
    show store.ledger.Confined _ _ s.store'.ledger
    rw [Store.passDebt_ledger s.passes]
    exact .refl _ _ _
  | setMandate | list | bidDebt | cancelListing => exact .refl _ _ _

end UserAction

end PooledCredit
