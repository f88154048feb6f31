import PooledCredit.Proofs.Reserves.Soundness

/-!
# Reserves refuse but do not break off

The ledger subtracts in many places without a check: what was lent out of what is idle, the treasury
share from the whole, the optimal utilization from the one there is. On sound reserves all of these
differences are in range, because of a guard just before, a minimum that was taken, or what
soundness says of the rate curve and the treasury share. So whatever a request asks of the ledger,
it is done or refused; only the vault could break off.
-/

namespace PooledCredit

section Refusals

variable {p : Failure → Prop} (hp : ∀ cause : Refusal, p (.refused cause))
include hp

/-- Where every refusal is allowed, the plain ones are. -/
lemma plain_of_refused (cause : Refusal) (_ : (Failure.refused cause).isPlain = true) :
    p (.refused cause) := hp cause

/-- A checked difference is formed or refused. -/
lemma refuses_subAmount (a b : Nat) : FailsOnly p (subAmount a b) :=
  failsOnly_ite (fun _ => failsOnly_ok _) fun _ => failsOnly_refuse (hp _)

/-! ## Single reserves -/

namespace Reserve

variable {reserve : Reserve}

/-- A reserve gives out new loans or refuses to. -/
lemma refuses_requireBorrowable (reserve : Reserve) :
    FailsOnly p reserve.requireBorrowable := by
  refine FailsOnly.bind (failsOnly_require fun _ => hp _) fun _ _ => ?_
  refine FailsOnly.bind (failsOnly_require fun _ => hp _) fun _ _ => ?_
  exact failsOnly_require fun _ => hp _

/-- A withdrawal from the vault is booked or refused: no more is released than was placed. -/
lemma refuses_receive (reserve : Reserve) (withdrawal : Withdrawal) :
    FailsOnly p (reserve.receive withdrawal) := by
  refine (failsOnly_addAmount (hp _) _ _).bind fun _ _ => ?_
  refine (failsOnly_bareSub (Nat.min_le_right _ _)).bind fun _ _ => ?_
  refine (failsOnly_addAmount (hp _) _ _).bind fun _ _ => ?_
  exact (failsOnly_addAmount (hp _) _ _).bind fun _ _ => failsOnly_pure _

/-- A loss that the vault reports is recognized or refused. -/
lemma refuses_recognize (reserve : Reserve) (report : VaultReport) :
    FailsOnly p (reserve.recognize report) := by
  refine failsOnly_ite (fun hlost => ?_) fun _ => failsOnly_ok _
  refine (failsOnly_bareSub hlost.le).bind fun _ _ => ?_
  exact (failsOnly_addAmount (hp _) _ _).bind fun _ _ => failsOnly_pure _

variable {V : Type} [Vault V] {vault : V}
variable (hrelease : ∀ asset amount, FailsOnly p (Vault.release vault asset amount))
include hrelease

namespace Sound

/-- Liquidity is pulled from the vault, or that is refused, or the vault fails. -/
lemma refuses_pull (h : reserve.Sound) (needed : Nat) :
    FailsOnly p (reserve.pull vault needed) := by
  refine failsOnly_ite (fun _ => failsOnly_ok _) fun hshort => ?_
  have hidle : reserve.idle ≤ needed := Nat.le_of_not_le fun hle => hshort (.inl hle)
  refine (failsOnly_bareSub hidle).bind fun _ _ => ?_
  refine (hrelease _ _).bind fun _ _ => ?_
  refine (refuses_receive hp _ _).bind fun _ hreceive => ?_
  have hsound := h.receive hreceive
  exact FailsOnly.bind (failsOnly_refreshRates (hp _) hsound.curve hsound.factor) fun _ _ =>
    failsOnly_pure _

/-- The placement in the vault is moved, or that is refused, or the vault fails. -/
lemma refuses_rebalance (h : reserve.Sound)
    (hplace : ∀ asset amount, FailsOnly p (Vault.place vault asset amount)) :
    FailsOnly p (reserve.rebalance vault) := by
  refine (refuses_recognize hp _ _).bind fun ⟨reported, known⟩ hknown => ?_
  have hsame : known.model.validate = .ok () ∧ known.factor ≤ fullShare := by
    obtain ⟨-, rfl⟩ := recognize_eq_ok hknown
    exact ⟨h.curve, h.factor⟩
  obtain ⟨hcurve, hfactor⟩ := hsame
  have ho : p (.refused .overflow) := hp _
  refine (failsOnly_addAmount ho _ _).bind fun _ _ => ?_
  refine (failsOnly_shareOf ho _ _ _).bind fun target _ => ?_
  refine failsOnly_ite (fun hmore => ?_) fun _ => failsOnly_ite (fun hless => ?_) fun _ => ?_
  · refine (failsOnly_bareSub hmore.le).bind fun missing _ => ?_
    refine failsOnly_ite (fun _ => ?_) fun _ => ?_
    · exact FailsOnly.bind (failsOnly_refreshRates ho hcurve hfactor) fun _ _ => failsOnly_pure _
    · refine (hplace _ _).bind fun _ _ => ?_
      refine (failsOnly_bareSub (Nat.min_le_right _ _)).bind fun _ _ => ?_
      refine (failsOnly_addAmount ho _ _).bind fun _ _ => ?_
      exact FailsOnly.bind (failsOnly_refreshRates ho hcurve hfactor) fun _ _ => failsOnly_pure _
  · refine (failsOnly_bareSub hless.le).bind fun _ _ => ?_
    refine (hrelease _ _).bind fun _ _ => ?_
    refine (refuses_receive hp _ _).bind fun ⟨_, _⟩ hreceive => ?_
    obtain ⟨-, rfl⟩ := receive_eq_ok hreceive
    refine (failsOnly_addAmount ho _ _).bind fun _ _ => ?_
    exact FailsOnly.bind (failsOnly_refreshRates ho hcurve hfactor) fun _ _ => failsOnly_pure _
  · exact FailsOnly.bind (failsOnly_refreshRates ho hcurve hfactor) fun _ _ => failsOnly_pure _

end Sound

end Reserve

/-! ## The ledger -/

namespace Ledger

variable {ledger : Ledger} {asset : Asset}

/-- Supply is credited or that is refused. -/
lemma refuses_credit (ledger : Ledger) (asset : Asset) (account : Account) (scaled : Nat) :
    FailsOnly p (ledger.credit asset account scaled) :=
  (failsOnly_addAmount (hp _) _ _).bind fun _ _ => failsOnly_pure _

/-- Supply is taken back or that is refused. -/
lemma refuses_debit (ledger : Ledger) (asset : Asset) (account : Account) (scaled : Nat) :
    FailsOnly p (ledger.debit asset account scaled) :=
  (refuses_subAmount hp _ _).bind fun _ _ => failsOnly_pure _

/-- A reserve is opened or that is refused: its terms are checked before. -/
lemma refuses_openReserve (ledger : Ledger) (asset : Asset) (terms : ReserveTerms) (now : Nat) :
    FailsOnly p (ledger.openReserve asset terms now) := by
  refine FailsOnly.bind (failsOnly_require fun _ => hp _) fun _ _ => ?_
  refine FailsOnly.bind ?_ fun _ hv => ?_
  · refine FailsOnly.bind (failsOnly_require fun _ => hp _) fun _ _ => ?_
    refine FailsOnly.bind (failsOnly_require fun _ => hp _) fun _ _ => ?_
    refine FailsOnly.bind (failsOnly_require fun _ => hp _) fun _ _ => ?_
    refine FailsOnly.bind (failsOnly_require fun _ => hp _) fun _ _ => ?_
    exact failsOnly_require fun _ => hp _
  · simp only [ReserveTerms.validate, bind_eq_ok, require_eq_ok, exists_const] at hv
    obtain ⟨-, hfactor, -, hcurve⟩ := hv
    exact FailsOnly.bind (Reserve.failsOnly_refreshRates (hp _) hcurve hfactor) fun _ _ =>
      failsOnly_pure _

/-- The switches of a reserve are set or that is refused. -/
lemma refuses_setFlags (ledger : Ledger) (asset : Asset) (active frozen borrowing : Bool) :
    FailsOnly p (ledger.setFlags asset active frozen borrowing) := by
  refine (plain_reserve (plain_of_refused hp) _ _).bind fun _ _ => ?_
  exact FailsOnly.bind (failsOnly_require fun _ => hp _) fun _ _ => failsOnly_pure _

/-- The vault share of a reserve is set or that is refused. -/
lemma refuses_setVaultShare (ledger : Ledger) (asset : Asset) (bps : Nat) :
    FailsOnly p (ledger.setVaultShare asset bps) := by
  refine FailsOnly.bind (failsOnly_require fun _ => hp _) fun _ _ => ?_
  exact (plain_reserve (plain_of_refused hp) _ _).bind fun _ _ => failsOnly_pure _

namespace Sound

variable (h : ledger.Sound)
include h

omit hp in
/-- What is found in a sound ledger is sound. -/
lemma of_reserve {reserve : Reserve} (hr : ledger.reserve asset = .ok reserve) : reserve.Sound :=
  h asset reserve (orRefuse_eq_ok.mp hr)

/-- A sound ledger accrues or refuses to. -/
lemma refuses_accrue (asset : Asset) (now : Nat) : FailsOnly p (ledger.accrue asset now) := by
  refine (plain_reserve (plain_of_refused hp) _ _).bind fun _ hr => ?_
  refine ((h.of_reserve hr).failsOnly_accrue (hp _) fun _ => hp _).bind fun _ _ => ?_
  refine failsOnly_ite (fun _ => failsOnly_pure _) fun _ => ?_
  exact (refuses_credit hp _ _ _ _).bind fun _ _ => failsOnly_pure _

/-- A sound ledger takes a deposit or refuses it. -/
lemma refuses_deposit (asset : Asset) (account : Account) (amount now : Nat) :
    FailsOnly p (ledger.deposit asset account amount now) := by
  refine FailsOnly.bind (failsOnly_require fun _ => hp _) fun _ _ => ?_
  refine (plain_reserve (plain_of_refused hp) _ _).bind fun _ _ => ?_
  refine FailsOnly.bind (failsOnly_require fun _ => hp _) fun _ _ => ?_
  refine FailsOnly.bind (failsOnly_require fun _ => hp _) fun _ _ => ?_
  refine (h.refuses_accrue hp _ _).bind fun _ ha => ?_
  refine (plain_reserve (plain_of_refused hp) _ _).bind fun reserve hr => ?_
  have hsound := (h.accrue ha).of_reserve hr
  refine (failsOnly_rayDiv (hp _) _ _ hsound.supplyIndex).bind fun _ _ => ?_
  refine FailsOnly.bind (failsOnly_require fun _ => hp _) fun _ _ => ?_
  refine (failsOnly_addAmount (hp _) _ _).bind fun _ _ => ?_
  refine (failsOnly_addAmount (hp _) _ _).bind fun _ _ => ?_
  refine FailsOnly.bind (Reserve.failsOnly_refreshRates (hp _) hsound.curve hsound.factor)
    fun _ _ => ?_
  exact (refuses_credit hp _ _ _ _).bind fun _ _ => failsOnly_pure _

/-- A sound ledger takes a repayment or refuses it: what is burned is part of the debt. -/
lemma refuses_repay (asset : Asset) (scaled amount : Nat) :
    FailsOnly p (ledger.repay asset scaled amount) := by
  refine FailsOnly.bind (failsOnly_require fun _ => hp _) fun _ _ => ?_
  refine (plain_reserve (plain_of_refused hp) _ _).bind fun reserve hr => ?_
  have hsound := h.of_reserve hr
  refine (Reserve.failsOnly_debtOf (hp _) _ _).bind fun debt hdebt => ?_
  simp only [ite_bind]
  refine FailsOnly.bind ?_ fun burned hburned => ?_
  · refine failsOnly_ite (fun _ => failsOnly_pure _) fun _ => ?_
    exact failsOnly_rayDiv (hp _) _ _ hsound.debtIndex
  have hpart : burned ≤ scaled := burned_le hdebt (Nat.min_le_right _ _) hburned
  refine (failsOnly_addAmount (hp _) _ _).bind fun _ _ => ?_
  refine (refuses_subAmount hp _ _).bind fun _ _ => ?_
  refine FailsOnly.bind (Reserve.failsOnly_refreshRates (hp _) hsound.curve hsound.factor)
    fun _ _ => ?_
  exact (failsOnly_bareSub hpart).bind fun _ _ => failsOnly_pure _

/-- A sound ledger writes a debt off or refuses to. -/
lemma refuses_writeOff (asset : Asset) (scaled : Nat) :
    FailsOnly p (ledger.writeOff asset scaled) := by
  refine (plain_reserve (plain_of_refused hp) _ _).bind fun reserve hr => ?_
  have hsound := h.of_reserve hr
  refine (Reserve.failsOnly_debtOf (hp _) _ _).bind fun _ _ => ?_
  refine (refuses_subAmount hp _ _).bind fun _ _ => ?_
  refine (failsOnly_addAmount (hp _) _ _).bind fun _ _ => ?_
  exact FailsOnly.bind (Reserve.failsOnly_refreshRates (hp _) hsound.curve hsound.factor) fun _ _ =>
    failsOnly_pure _

/-- A sound ledger changes the treasury share of a reserve or refuses to. -/
lemma refuses_setFactor (asset : Asset) (bps now : Nat) :
    FailsOnly p (ledger.setFactor asset bps now) := by
  refine FailsOnly.bind (failsOnly_require fun _ => hp _) fun _ hle => ?_
  refine (h.refuses_accrue hp _ _).bind fun _ ha => ?_
  refine (plain_reserve (plain_of_refused hp) _ _).bind fun reserve hr => ?_
  have hsound := (h.accrue ha).of_reserve hr
  have hfactor := require_eq_ok.mp hle
  exact FailsOnly.bind (Reserve.failsOnly_refreshRates (hp _) hsound.curve hfactor) fun _ _ =>
    failsOnly_pure _

/-- A sound ledger changes the rate curve of a reserve or refuses to. -/
lemma refuses_setModel (asset : Asset) (model : RateModel) (now : Nat) :
    FailsOnly p (ledger.setModel asset model now) := by
  refine FailsOnly.bind ?_ fun _ hv => ?_
  · refine FailsOnly.bind (failsOnly_require fun _ => hp _) fun _ _ => ?_
    exact failsOnly_require fun _ => hp _
  refine (h.refuses_accrue hp _ _).bind fun _ ha => ?_
  refine (plain_reserve (plain_of_refused hp) _ _).bind fun reserve hr => ?_
  have hsound := (h.accrue ha).of_reserve hr
  exact FailsOnly.bind (Reserve.failsOnly_refreshRates (hp _) hv hsound.factor) fun _ _ =>
    failsOnly_pure _

variable {V : Type} [Vault V] {vault : V}
variable (hrelease : ∀ asset amount, FailsOnly p (Vault.release vault asset amount))
include hrelease

/-- A sound ledger pays a withdrawal out, or refuses it, or the vault fails. -/
lemma refuses_withdraw (asset : Asset) (owner : Account) (amount now : Nat) :
    FailsOnly p (ledger.withdraw vault asset owner amount now) := by
  have henough (idle paid : Nat) :
      FailsOnly p (require (paid ≤ idle) (.liquidityTooLow idle paid)) :=
    failsOnly_require fun _ => hp _
  refine FailsOnly.bind (failsOnly_require fun _ => hp _) fun _ _ => ?_
  refine (plain_reserve (plain_of_refused hp) _ _).bind fun _ _ => ?_
  refine FailsOnly.bind (failsOnly_require fun _ => hp _) fun _ _ => ?_
  refine (h.refuses_accrue hp _ _).bind fun _ ha => ?_
  refine (plain_reserve (plain_of_refused hp) _ _).bind fun reserve hr => ?_
  have hsound := (h.accrue ha).of_reserve hr
  refine (failsOnly_rayMul (hp _) _ _ _).bind fun balance _ => ?_
  refine FailsOnly.bind (failsOnly_require fun _ => hp _) fun _ _ => ?_
  simp only [bind_pure_bind, ite_bind]
  refine FailsOnly.bind ?_ fun burned _ => ?_
  · refine failsOnly_ite (fun _ => failsOnly_pure _) fun _ => ?_
    exact (failsOnly_rayDiv (hp _) _ _ hsound.supplyIndex).map
  refine (hsound.refuses_pull hp hrelease _).bind fun pulled hpull => ?_
  obtain ⟨_, drawn, _⟩ := pulled
  have hsound := hsound.pull hpull
  refine (henough _ _).bind fun _ hle => ?_
  refine (failsOnly_bareSub (require_eq_ok.mp hle)).bind fun _ _ => ?_
  refine (refuses_subAmount hp _ _).bind fun _ _ => ?_
  refine FailsOnly.bind (Reserve.failsOnly_refreshRates (hp _) hsound.curve hsound.factor)
    fun _ _ => ?_
  exact (refuses_debit hp _ _ _ _).bind fun _ _ => failsOnly_pure _

/-- A sound ledger lends, or refuses to, or the vault fails. -/
lemma refuses_lend (asset : Asset) (amount now : Nat) :
    FailsOnly p (ledger.lend vault asset amount now) := by
  refine FailsOnly.bind (failsOnly_require fun _ => hp _) fun _ _ => ?_
  refine (plain_reserve (plain_of_refused hp) _ _).bind fun _ _ => ?_
  refine FailsOnly.bind (Reserve.refuses_requireBorrowable hp _) fun _ _ => ?_
  refine (h.refuses_accrue hp _ _).bind fun _ ha => ?_
  refine (plain_reserve (plain_of_refused hp) _ _).bind fun reserve hr => ?_
  have hsound := (h.accrue ha).of_reserve hr
  refine (hsound.refuses_pull hp hrelease _).bind fun pulled hpull => ?_
  obtain ⟨_, drawn, _⟩ := pulled
  have hsound := hsound.pull hpull
  refine FailsOnly.bind (failsOnly_require fun _ => hp _) fun _ hle => ?_
  refine (failsOnly_rayDiv (hp _) _ _ hsound.debtIndex).bind fun _ _ => ?_
  refine (failsOnly_bareSub (require_eq_ok.mp hle)).bind fun _ _ => ?_
  refine (failsOnly_addAmount (hp _) _ _).bind fun _ _ => ?_
  exact FailsOnly.bind (Reserve.failsOnly_refreshRates (hp _) hsound.curve hsound.factor) fun _ _ =>
    failsOnly_pure _

/-- A sound ledger moves a placement in the vault, or refuses to, or the vault fails. -/
lemma refuses_rebalance (hplace : ∀ asset amount, FailsOnly p (Vault.place vault asset amount))
    (asset : Asset) : FailsOnly p (ledger.rebalance vault asset) := by
  refine (plain_reserve (plain_of_refused hp) _ _).bind fun _ hr => ?_
  exact ((h.of_reserve hr).refuses_rebalance hp hrelease hplace).bind fun _ _ => failsOnly_pure _

end Sound

end Ledger

end Refusals

end PooledCredit
