import PooledCredit.Proofs.Reserves.Backing
import PooledCredit.Yield.Simulated

/-!
# Clocks and placements of the reserves

Each operation of the ledger that accrues leaves the clock of one reserve at the time of the
operation and changes what that reserve has placed in the vault by what it moved. Whatever the
vault answers, a placement does not fall below zero; with a *bounded* vault, which does not
give back and lose more than it is asked for, nothing is cut off there.
-/

namespace PooledCredit

/-! ## Vaults -/

/-- A vault that does not give back and lose together more than it is asked for. -/
def Vault.Bounded {V : Type} [Vault V] (vault : V) : Prop :=
  ∀ (vault' : V) (asset : Asset) (request : Nat) (withdrawal : Withdrawal),
    Vault.release vault asset request = .ok (withdrawal, vault') →
      withdrawal.actual + withdrawal.loss ≤ request

/-- A simulated position gives what it can and realizes pending losses for the rest. -/
lemma VaultPosition.release_eq_ok {position position' : VaultPosition} {amount : Nat}
    {withdrawal : Withdrawal} (h : position.release amount = .ok (withdrawal, position')) :
    withdrawal.actual = min amount (min position.balance (position.liquidLimit.getD maxAmount)) ∧
    withdrawal.loss = min (amount - withdrawal.actual) position.pendingLoss ∧
    position' = { position with
      balance := position.balance - withdrawal.actual
      pendingLoss := position.pendingLoss - withdrawal.loss
      totalLoss := position.totalLoss + withdrawal.loss } := by
  simp only [release, bind_eq_ok, pure_eq_ok, addAmount_eq_ok, bareSub_eq_ok, Prod.mk.injEq] at h
  obtain ⟨_, ⟨-, rfl⟩, _, ⟨-, rfl⟩, _, ⟨-, rfl⟩, _, ⟨-, rfl⟩, rfl, rfl⟩ := h
  exact ⟨rfl, rfl, rfl⟩

namespace SimulatedVault

/-- What a simulated vault gives back comes out of the position of the asset. -/
lemma release_eq_ok {vault vault' : SimulatedVault} {asset : Asset} {request : Nat}
    {withdrawal : Withdrawal}
    (h : Vault.release vault asset request = .ok (withdrawal, vault')) :
    ∃ position, (vault.position asset).release request = .ok (withdrawal, position) ∧
      vault' = vault.setPosition asset position := by
  simp only [Vault.release, bind_eq_ok, pure_eq_ok, Prod.exists, Prod.mk.injEq] at h
  obtain ⟨_, position, hp, rfl, rfl⟩ := h
  exact ⟨position, hp, rfl⟩

/-- A simulated vault is bounded. -/
lemma bounded (vault : SimulatedVault) : Vault.Bounded vault := by
  intro vault' asset request withdrawal h
  obtain ⟨_, hp, -⟩ := release_eq_ok h
  obtain ⟨hactual, hloss, -⟩ := VaultPosition.release_eq_ok hp
  omega

end SimulatedVault

/-! ## Single reserves -/

namespace Reserve

/-- A change that leaves the clock at a reading and moves liquidity to and from the vault; no more
than the placement is taken off it. -/
structure Moves (now : Nat) (movement : Movement) (before after : Reserve) : Prop where
  clock : after.updatedAt = now
  placed : after.invested =
    before.invested + movement.invested - (movement.divested + movement.loss)

/-- A change that leaves the clock and the placement alone. -/
structure Rests (before after : Reserve) : Prop where
  clock : after.updatedAt = before.updatedAt
  placed : after.invested = before.invested

variable {before middle after : Reserve} {now : Nat} {movement : Movement}

/-- Refreshing the rates leaves the clock and the placement where a change left them. -/
lemma refreshRates_rests (hu : middle.refreshRates = .ok after) (h : before.Rests middle) :
    before.Rests after := by
  obtain ⟨_, _, _, -, -, -, rfl⟩ := refreshRates_eq_ok hu
  exact ⟨h.clock, h.placed⟩

/-- A movement and a change that leaves the clock and the placement alone. -/
lemma Moves.rests (h : before.Moves now movement middle) (h' : middle.Rests after) :
    before.Moves now movement after :=
  ⟨h'.clock.trans h.clock, h'.placed.trans h.placed⟩

/-- A movement after nothing was moved. -/
lemma Moves.trans (h : before.Moves now {} middle) (h' : middle.Moves now movement after) :
    before.Moves now movement after where
  clock := h'.clock
  placed := by
    rw [h'.placed, h.placed]
    rfl

/-- An accrual moves nothing. -/
lemma accrue_moves {accrual : Accrual} (h : before.accrue now = .ok (accrual, after)) :
    before.Moves now {} after where
  clock := accrue_updatedAt h
  placed := by
    rcases accrue_eq_ok h with ⟨-, -, rfl⟩ | ⟨-, _, _, _, _, _, -, -, -, -, -, -, -, -, hu⟩
    · rfl
    · exact (refreshRates_rests hu ⟨rfl, rfl⟩).placed

variable {V : Type} [Vault V] {vault vault' : V}

/-- A booked withdrawal is taken off the placement. -/
lemma receive_moves {withdrawal : Withdrawal}
    (h : before.receive withdrawal = .ok (movement, after)) :
    before.Moves before.updatedAt movement after := by
  obtain ⟨rfl, rfl⟩ := receive_eq_ok h
  refine ⟨rfl, ?_⟩
  show before.invested - min (withdrawal.actual + withdrawal.loss) before.invested =
    before.invested + 0 - (withdrawal.actual + withdrawal.loss)
  omega

/-- A pull takes what it moves off the placement. -/
lemma pull_moves {needed : Nat} (h : before.pull vault needed = .ok (movement, after, vault')) :
    before.Moves before.updatedAt movement after := by
  rcases pull_eq_ok h with ⟨rfl, rfl, -⟩ | ⟨_, _, _, -, -, hreceive, hu⟩
  · exact ⟨rfl, rfl⟩
  · exact (receive_moves hreceive).rests (refreshRates_rests hu ⟨rfl, rfl⟩)

/-- A pull places nothing. -/
lemma pull_invested {needed : Nat}
    (h : before.pull vault needed = .ok (movement, after, vault')) : movement.invested = 0 := by
  rcases pull_eq_ok h with ⟨rfl, -, -⟩ | ⟨_, _, _, -, -, hreceive, -⟩
  · rfl
  · obtain ⟨rfl, -⟩ := receive_eq_ok hreceive
    rfl

/-- A pull from a bounded vault takes no more than the placement. -/
lemma pull_covered (bounded : Vault.Bounded vault) {needed : Nat}
    (h : before.pull vault needed = .ok (movement, after, vault')) :
    movement.divested + movement.loss ≤ before.invested := by
  rcases pull_eq_ok h with ⟨rfl, -, -⟩ | ⟨request, withdrawal, _, hle, hrelease, hreceive, -⟩
  · exact Nat.zero_le _
  · obtain ⟨rfl, -⟩ := receive_eq_ok hreceive
    exact (bounded _ _ _ _ hrelease).trans hle

/-- A rebalance changes the placement by what it moves. -/
lemma rebalance_moves (h : before.rebalance vault = .ok (movement, after, vault')) :
    before.Moves before.updatedAt movement after := by
  obtain ⟨loss, known, last, hk, hu, hmove⟩ := rebalance_eq_ok h
  obtain ⟨hloss, rfl⟩ := recognize_eq_ok hk
  refine Moves.rests ?_ (refreshRates_rests hu ⟨rfl, rfl⟩)
  rcases hmove with ⟨rfl, rfl, -⟩ | ⟨amount, rfl, -, -, rfl⟩ | ⟨_, _, moved, -, -, hreceive, rfl⟩
  · refine ⟨rfl, ?_⟩
    simp only
    omega
  · refine ⟨rfl, ?_⟩
    simp only
    omega
  · have hmoved := receive_moves hreceive
    refine ⟨hmoved.clock, ?_⟩
    have hplaced := hmoved.placed
    obtain ⟨rfl, -⟩ := receive_eq_ok hreceive
    simp only at hplaced ⊢
    omega

/-- A rebalance with a bounded vault takes no more than the placement. -/
lemma rebalance_covered (bounded : Vault.Bounded vault)
    (h : before.rebalance vault = .ok (movement, after, vault')) :
    movement.divested + movement.loss ≤ before.invested + movement.invested := by
  obtain ⟨loss, known, last, hk, -, hmove⟩ := rebalance_eq_ok h
  obtain ⟨hloss, rfl⟩ := recognize_eq_ok hk
  rcases hmove with ⟨rfl, -, -⟩ | ⟨amount, rfl, -, -, -⟩ |
    ⟨request, withdrawal, _, hle, hrelease, hreceive, rfl⟩
  · simp only
    omega
  · simp only
    omega
  · have hreleased := bounded _ _ _ _ hrelease
    obtain ⟨rfl, -⟩ := receive_eq_ok hreceive
    simp only at hle ⊢
    omega

end Reserve

/-! ## The ledger -/

namespace Ledger

/-- What the reserve of an asset has placed in the vault; nothing without a reserve. -/
def investedOf (ledger : Ledger) (asset : Asset) : Nat :=
  (ledger.reserves.get? asset).elim 0 Reserve.invested

/-- The reserve of an asset was touched at a clock reading, with a movement. -/
def Moves (asset : Asset) (now : Nat) (movement : Movement) (ledger ledger' : Ledger) : Prop :=
  ∃ before after, Touches asset before after ledger ledger' ∧ before.Moves now movement after

variable {ledger middle ledger' : Ledger} {asset : Asset} {now amount : Nat} {movement : Movement}

/-- The placement of a present reserve. -/
lemma investedOf_eq {reserve : Reserve} (h : ledger.reserves.get? asset = some reserve) :
    ledger.investedOf asset = reserve.invested := by
  simp [investedOf, h]

/-- Other reserves keep their placement. -/
lemma Touches.investedOf_ne {before after : Reserve}
    (h : Touches asset before after ledger ledger') {other : Asset} (hne : other ≠ asset) :
    ledger'.investedOf other = ledger.investedOf other := by
  rw [investedOf, investedOf, h.others other hne]

/-- A touch that keeps the placement of its reserve keeps those of all. -/
lemma Touches.investedOf_eq {before after : Reserve}
    (h : Touches asset before after ledger ledger') (heq : after.invested = before.invested)
    (other : Asset) : ledger'.investedOf other = ledger.investedOf other := by
  by_cases hother : other = asset
  · rw [hother, Ledger.investedOf_eq h.new, Ledger.investedOf_eq h.old, heq]
  · exact h.investedOf_ne hother

/-- The placement of the reserve changes by what was moved. -/
lemma Moves.investedOf (h : ledger.Moves asset now movement ledger') :
    ledger'.investedOf asset =
      ledger.investedOf asset + movement.invested - (movement.divested + movement.loss) := by
  obtain ⟨before, after, htouch, hmoves⟩ := h
  rw [investedOf_eq htouch.new, investedOf_eq htouch.old, hmoves.placed]

/-- Other reserves keep their placement. -/
lemma Moves.investedOf_ne (h : ledger.Moves asset now movement ledger') {other : Asset}
    (hne : other ≠ asset) : ledger'.investedOf other = ledger.investedOf other := by
  obtain ⟨_, _, htouch, -⟩ := h
  exact htouch.investedOf_ne hne

/-- Where nothing was moved every placement stays. -/
lemma Moves.investedOf_of_none (h : ledger.Moves asset now {} ledger') (other : Asset) :
    ledger'.investedOf other = ledger.investedOf other := by
  obtain ⟨_, _, htouch, hmoves⟩ := h
  exact htouch.investedOf_eq hmoves.placed other

/-- A movement after nothing was moved. -/
lemma Moves.trans (h : ledger.Moves asset now {} middle)
    (h' : middle.Moves asset now movement ledger') : ledger.Moves asset now movement ledger' := by
  obtain ⟨before, between, htouch, hmoves⟩ := h
  obtain ⟨found, after, htouch', hmoves'⟩ := h'
  obtain rfl := htouch.found htouch'.old
  exact ⟨before, after, htouch.trans htouch', hmoves.trans hmoves'⟩

/-- A movement and a touch of the same reserve that leaves the clock and the placement alone. -/
lemma Moves.rests (h : ledger.Moves asset now movement middle) {found after : Reserve}
    (htouch' : Touches asset found after middle ledger') (hrests : found.Rests after) :
    ledger.Moves asset now movement ledger' := by
  obtain ⟨before, between, htouch, hmoves⟩ := h
  obtain rfl := htouch.found htouch'.old
  exact ⟨before, after, htouch.trans htouch', hmoves.rests hrests⟩

/-- An accrual moves nothing. -/
lemma accrue_moves {accrual : Accrual} (h : ledger.accrue asset now = .ok (accrual, ledger')) :
    ledger.Moves asset now {} ledger' := by
  obtain ⟨_, _, htouch, ha⟩ := accrue_eq_ok h
  exact ⟨_, _, htouch, Reserve.accrue_moves ha⟩

/-- Opening a reserve places nothing. -/
lemma openReserve_investedOf {terms : ReserveTerms}
    (h : ledger.openReserve asset terms now = .ok ledger') (other : Asset) :
    ledger'.investedOf other = ledger.investedOf other := by
  obtain ⟨reserve, hnone, -, hreserve, rfl⟩ := openReserve_eq_ok h
  obtain ⟨_, _, _, -, -, -, rfl⟩ := Reserve.refreshRates_eq_ok hreserve
  unfold Ledger.investedOf setReserve
  rw [SortedMap.get?_insert]
  split
  · next heq =>
    rw [heq, hnone]
    rfl
  · rfl

/-- A deposit moves nothing. -/
lemma deposit_moves {account : Account} {scaled : Nat}
    (h : ledger.deposit asset account amount now = .ok (scaled, ledger')) :
    ledger.Moves asset now {} ledger' := by
  obtain ⟨_, _, _, _, htouch, ha, -, hu⟩ := deposit_eq_ok h
  exact ⟨_, _, htouch, (Reserve.accrue_moves ha).rests (Reserve.refreshRates_rests hu ⟨rfl, rfl⟩)⟩

/-- A new treasury share moves nothing. -/
lemma setFactor_moves {bps : Nat} (h : ledger.setFactor asset bps now = .ok ledger') :
    ledger.Moves asset now {} ledger' := by
  obtain ⟨_, _, _, _, htouch, -, ha, hu⟩ := setFactor_eq_ok h
  exact ⟨_, _, htouch, (Reserve.accrue_moves ha).rests (Reserve.refreshRates_rests hu ⟨rfl, rfl⟩)⟩

/-- A new rate curve moves nothing. -/
lemma setModel_moves {model : RateModel} (h : ledger.setModel asset model now = .ok ledger') :
    ledger.Moves asset now {} ledger' := by
  obtain ⟨_, _, _, _, htouch, -, ha, hu⟩ := setModel_eq_ok h
  exact ⟨_, _, htouch, (Reserve.accrue_moves ha).rests (Reserve.refreshRates_rests hu ⟨rfl, rfl⟩)⟩

/-- A repayment after a movement. -/
lemma Moves.repay (h : ledger.Moves asset now movement middle) {scaled : Nat}
    {repayment : Repayment} (hp : middle.repay asset scaled amount = .ok (repayment, ledger')) :
    ledger.Moves asset now movement ledger' := by
  obtain ⟨_, _, _, htouch, -, -, -, -, -, -, -, hu⟩ := repay_eq_ok hp
  exact h.rests htouch (Reserve.refreshRates_rests hu ⟨rfl, rfl⟩)

/-- A write-off after a movement. -/
lemma Moves.writeOff (h : ledger.Moves asset now movement middle) {scaled loss : Nat}
    (hw : middle.writeOff asset scaled = .ok (loss, ledger')) :
    ledger.Moves asset now movement ledger' := by
  obtain ⟨_, _, htouch, -, -, hu⟩ := writeOff_eq_ok hw
  exact h.rests htouch (Reserve.refreshRates_rests hu ⟨rfl, rfl⟩)

variable {V : Type} [Vault V] {vault vault' : V}

/-- A withdrawal moves what it pulls. -/
lemma withdraw_moves {owner : Account} {paid : Nat}
    (h : ledger.withdraw vault asset owner amount now = .ok (paid, movement, ledger', vault')) :
    ledger.Moves asset now movement ledger' := by
  obtain ⟨_, _, _, _, _, _, htouch, ha, hp, -, -, -, hu⟩ := withdraw_eq_ok h
  have haccrued := Reserve.accrue_moves ha
  have hpulled := Reserve.pull_moves hp
  rw [haccrued.clock] at hpulled
  have hmoved := haccrued.trans hpulled
  exact ⟨_, _, htouch, hmoved.rests (Reserve.refreshRates_rests hu ⟨rfl, rfl⟩)⟩

/-- What a withdrawal pulls from a bounded vault is covered by the placement, and it places
nothing. -/
lemma withdraw_covered (bounded : Vault.Bounded vault) {owner : Account} {paid : Nat}
    (h : ledger.withdraw vault asset owner amount now = .ok (paid, movement, ledger', vault')) :
    movement.invested = 0 ∧ movement.divested + movement.loss ≤ ledger.investedOf asset := by
  obtain ⟨_, _, _, _, _, _, htouch, ha, hp, -, -, -, -⟩ := withdraw_eq_ok h
  refine ⟨Reserve.pull_invested hp, ?_⟩
  rw [investedOf_eq htouch.old]
  have hplaced := (Reserve.accrue_moves ha).placed
  have hcovered := Reserve.pull_covered bounded hp
  rw [hplaced] at hcovered
  exact hcovered

/-- Lending moves what it pulls, and it places nothing. -/
lemma lend_moves {scaled : Nat}
    (h : ledger.lend vault asset amount now = .ok (scaled, ledger', vault')) :
    ∃ movement : Movement, movement.invested = 0 ∧ ledger.Moves asset now movement ledger' := by
  obtain ⟨_, _, _, movement, _, _, htouch, -, ha, hp, -, -, hu⟩ := lend_eq_ok h
  have haccrued := Reserve.accrue_moves ha
  have hpulled := Reserve.pull_moves hp
  rw [haccrued.clock] at hpulled
  have hmoved := haccrued.trans hpulled
  exact ⟨movement, Reserve.pull_invested hp, _, _, htouch,
    hmoved.rests (Reserve.refreshRates_rests hu ⟨rfl, rfl⟩)⟩

/-- A rebalance of an accrued reserve changes its placement by what it moves. -/
lemma Moves.rebalance (h : ledger.Moves asset now {} middle)
    (hb : middle.rebalance vault asset = .ok (movement, ledger', vault')) :
    ledger.Moves asset now movement ledger' := by
  obtain ⟨before, between, htouch, hmoves⟩ := h
  obtain ⟨found, after, htouch', hrebalance⟩ := rebalance_eq_ok hb
  obtain rfl := htouch.found htouch'.old
  have hmoved := Reserve.rebalance_moves hrebalance
  rw [hmoves.clock] at hmoved
  exact ⟨before, after, htouch.trans htouch', hmoves.trans hmoved⟩

/-- What a rebalance takes back from a bounded vault is covered by the placement. -/
lemma rebalance_covered (bounded : Vault.Bounded vault)
    (h : ledger.rebalance vault asset = .ok (movement, ledger', vault')) :
    movement.divested + movement.loss ≤ ledger.investedOf asset + movement.invested := by
  obtain ⟨_, _, htouch, hb⟩ := rebalance_eq_ok h
  rw [investedOf_eq htouch.old]
  exact Reserve.rebalance_covered bounded hb

end Ledger

end PooledCredit
