import PooledCredit.Proofs.Reserves.Placement
import PooledCredit.Proofs.Runs

/-!
# Losses of a simulated vault

A write-down of a simulated vault can reach a reserve by two ways: a report shows less than was
placed, or a withdrawal that falls short realizes what is pending. The vault does not learn of a
loss that was recognized from a report, so a later withdrawal may realize it a second time. The
books below hold whatever is asked of the two: what the reserve has placed and lost adds up to
what the vault holds and what was written down, and what it has lost and what is pending adds up
to what was recognized from reports and what was written down. A loss has been recorded twice
exactly when more was recognized from reports than is still pending, which takes a withdrawal
that cannot return all that the vault holds.
-/

namespace PooledCredit

/-! ## Positions -/

/-- One withdrawal can return all that a position holds. -/
def VaultPosition.IsLiquid (position : VaultPosition) : Prop :=
  position.balance ≤ position.liquidLimit.getD maxAmount

instance (position : VaultPosition) : Decidable position.IsLiquid :=
  inferInstanceAs (Decidable (position.balance ≤ position.liquidLimit.getD maxAmount))

namespace SimulatedVault

/-- What is stored for an asset is its position. -/
@[simp]
lemma position_setPosition (vault : SimulatedVault) (asset : Asset) (position : VaultPosition) :
    (vault.setPosition asset position).position asset = position := by
  unfold SimulatedVault.position setPosition SortedMap.getD
  rw [SortedMap.get?_insert_self]
  rfl

/-- A limit changes nothing else of a position. -/
lemma position_limit (vault : SimulatedVault) (asset : Asset) (liquidLimit : Option Nat) :
    (vault.limit asset liquidLimit).position asset =
      { vault.position asset with liquidLimit } :=
  position_setPosition _ _ _

/-- What is placed is added to the balance. -/
lemma place_eq_ok {vault vault' : SimulatedVault} {asset : Asset} {amount : Nat}
    (h : Vault.place vault asset amount = .ok vault') :
    vault'.position asset = { vault.position asset with
      balance := (vault.position asset).balance + amount } := by
  simp only [Vault.place, bind_eq_ok, pure_eq_ok, addAmount_eq_ok] at h
  obtain ⟨_, ⟨-, rfl⟩, rfl⟩ := h
  rw [position_setPosition]

/-- A write-down takes what it can off the balance and leaves it pending. -/
lemma impair_eq_ok {vault vault' : SimulatedVault} {asset : Asset} {loss : Nat}
    (h : vault.impair asset loss = .ok vault') :
    vault'.position asset = { vault.position asset with
      balance := (vault.position asset).balance - min loss (vault.position asset).balance
      pendingLoss :=
        (vault.position asset).pendingLoss + min loss (vault.position asset).balance } := by
  simp only [impair, VaultPosition.impair, bind_eq_ok, pure_eq_ok, bareSub_eq_ok,
    bareAdd_eq_ok] at h
  obtain ⟨_, ⟨_, ⟨-, rfl⟩, _, ⟨-, rfl⟩, rfl⟩, rfl⟩ := h
  rw [position_setPosition]

end SimulatedVault

/-! ## What a request does to a reserve and its position -/

namespace Reserve

/-- What a request does to a reserve and to its position in a simulated vault: a gap is recognized
as lost, an amount is placed, and amounts are returned and lost. -/
structure Trades (gap placed returned lost : Nat) (before after : Reserve)
    (position position' : VaultPosition) : Prop where
  asset : after.asset = before.asset
  invested : after.invested + gap + returned + lost = before.invested + placed
  losses : after.losses = before.losses + gap + lost
  balance : position'.balance + returned = position.balance + placed
  pending : position'.pendingLoss + lost = position.pendingLoss
  /-- A liquid position that falls short is empty afterwards. -/
  short : position.IsLiquid → lost = 0 ∨ position'.balance = 0

variable {before middle after : Reserve} {position : VaultPosition}
variable {vault vault' : SimulatedVault} {movement : Movement}

/-- A change that keeps the asset, the placement and the losses trades nothing. -/
lemma trades_nothing (hasset : after.asset = before.asset)
    (hinvested : after.invested = before.invested) (hlosses : after.losses = before.losses) :
    Trades 0 0 0 0 before after position position where
  asset := hasset
  invested := hinvested
  losses := hlosses
  balance := rfl
  pending := rfl
  short _ := .inl rfl

/-- An accrual trades nothing. -/
lemma accrue_trades {now : Nat} {accrual : Accrual}
    (h : before.accrue now = .ok (accrual, after)) :
    Trades 0 0 0 0 before after position position := by
  rcases accrue_eq_ok h with ⟨-, -, rfl⟩ | ⟨-, _, _, _, _, _, -, -, -, -, -, -, -, -, hu⟩
  · exact trades_nothing rfl rfl rfl
  · obtain ⟨_, _, _, -, -, -, rfl⟩ := refreshRates_eq_ok hu
    exact trades_nothing rfl rfl rfl

/-- A withdrawal of at most the placement trades what the vault gives back and loses. -/
lemma receive_trades {asset : Asset} {request : Nat} {withdrawal : Withdrawal}
    (hle : request ≤ before.invested)
    (hrelease : Vault.release vault asset request = .ok (withdrawal, vault'))
    (hreceive : before.receive withdrawal = .ok (movement, after)) :
    Trades 0 0 withdrawal.actual withdrawal.loss before after (vault.position asset)
      (vault'.position asset) := by
  obtain ⟨position, hposition, rfl⟩ := SimulatedVault.release_eq_ok hrelease
  obtain ⟨hactual, hloss, rfl⟩ := VaultPosition.release_eq_ok hposition
  obtain ⟨-, rfl⟩ := receive_eq_ok hreceive
  rw [SimulatedVault.position_setPosition]
  constructor
  · rfl
  · simp only
    omega
  · rfl
  · simp only
    omega
  · simp only
    omega
  · intro hliquid
    unfold VaultPosition.IsLiquid at hliquid
    simp only
    omega

variable {gap placed returned lost : Nat} {position' : VaultPosition}

/-- A refresh of the rates after a trade trades nothing more. -/
lemma refreshRates_trades (hu : middle.refreshRates = .ok after)
    (h : Trades gap placed returned lost before middle position position') :
    Trades gap placed returned lost before after position position' := by
  obtain ⟨_, _, _, -, -, -, rfl⟩ := refreshRates_eq_ok hu
  exact ⟨h.asset, h.invested, h.losses, h.balance, h.pending, h.short⟩

/-- Trading after nothing was traded. -/
lemma Trades.of_nothing (h : Trades 0 0 0 0 before middle position position)
    (h' : Trades gap placed returned lost middle after position position') :
    Trades gap placed returned lost before after position position' where
  asset := h'.asset.trans h.asset
  invested := by
    have hinvested := h.invested
    have hinvested' := h'.invested
    omega
  losses := by
    have hlosses := h.losses
    have hlosses' := h'.losses
    omega
  balance := h'.balance
  pending := h'.pending
  short := h'.short

/-- A pull trades what the vault gives back and loses, if it asks for anything. -/
lemma pull_trades {needed : Nat} (h : before.pull vault needed = .ok (movement, after, vault')) :
    ∃ returned lost, Trades 0 0 returned lost before after (vault.position before.asset)
      (vault'.position before.asset) := by
  rcases pull_eq_ok h with ⟨-, rfl, rfl⟩ | ⟨_, _, _, hle, hrelease, hreceive, hu⟩
  · exact ⟨0, 0, trades_nothing rfl rfl rfl⟩
  · exact ⟨_, _, refreshRates_trades hu (receive_trades hle hrelease hreceive)⟩

/-- A rebalance recognizes by how much the placement exceeds the balance, and then it places an
amount or trades what the vault gives back and loses. -/
lemma rebalance_trades (h : before.rebalance vault = .ok (movement, after, vault')) :
    ∃ placed returned lost,
      Trades (before.invested - (vault.position before.asset).balance) placed returned lost before
        after (vault.position before.asset) (vault'.position before.asset) := by
  obtain ⟨loss, known, last, hk, hu, hmove⟩ := rebalance_eq_ok h
  obtain ⟨hloss, hknown⟩ := recognize_eq_ok hk
  have hgap : loss = before.invested - (vault.position before.asset).balance := hloss
  have hasset : known.asset = before.asset := by rw [hknown]
  have hinvested : known.invested + loss = before.invested := by
    rw [hknown]
    simp only
    omega
  have hlosses : known.losses = before.losses + loss := by rw [hknown]
  rw [← hgap]
  rcases hmove with ⟨-, rfl, rfl⟩ | ⟨amount, -, -, hplace, rfl⟩ |
    ⟨request, withdrawal, moved, hle, hrelease, hreceive, -⟩
  · exact ⟨0, 0, 0,
      refreshRates_trades hu ⟨hasset, hinvested, hlosses, rfl, rfl, fun _ => .inl rfl⟩⟩
  · rw [hasset] at hplace
    have hposition := SimulatedVault.place_eq_ok hplace
    refine ⟨amount, 0, 0,
      refreshRates_trades hu ⟨hasset, ?_, hlosses, ?_, ?_, fun _ => .inl rfl⟩⟩
    · simp only
      omega
    · rw [hposition]
      rfl
    · rw [hposition]
      rfl
  · rw [hasset] at hrelease
    have ht := receive_trades hle hrelease hreceive
    refine ⟨0, withdrawal.actual, withdrawal.loss,
      refreshRates_trades hu ⟨?_, ?_, ?_, ht.balance, ht.pending, ht.short⟩⟩
    · exact ht.asset.trans hasset
    · have hmoved := ht.invested
      omega
    · have hmoved := ht.losses
      omega

end Reserve

namespace Ledger

variable {ledger ledger' : Ledger} {asset : Asset} {before : Reserve}
variable {vault vault' : SimulatedVault} {movement : Movement}

/-- A deposit trades nothing. -/
lemma deposit_trades {account : Account} {amount now scaled : Nat} {position : VaultPosition}
    (hr : ledger.reserves.get? asset = some before)
    (h : ledger.deposit asset account amount now = .ok (scaled, ledger')) :
    ∃ after, ledger'.reserves.get? asset = some after ∧
      Reserve.Trades 0 0 0 0 before after position position := by
  obtain ⟨_, found, accrued, after, htouch, ha, -, hu⟩ := deposit_eq_ok h
  obtain rfl := Option.some.inj (htouch.old.symm.trans hr)
  have hminted : Reserve.Trades 0 0 0 0 accrued after position position :=
    Reserve.refreshRates_trades hu (Reserve.trades_nothing rfl rfl rfl)
  exact ⟨after, htouch.new, (Reserve.accrue_trades ha).of_nothing hminted⟩

/-- A withdrawal trades what it pulls. -/
lemma withdraw_trades {owner : Account} {amount now paid : Nat}
    (hr : ledger.reserves.get? asset = some before) (hasset : before.asset = asset)
    (h : ledger.withdraw vault asset owner amount now = .ok (paid, movement, ledger', vault')) :
    ∃ after returned lost, ledger'.reserves.get? asset = some after ∧
      Reserve.Trades 0 0 returned lost before after (vault.position asset)
        (vault'.position asset) := by
  obtain ⟨_, found, accrued, pulled, after, _, htouch, ha, hp, -, -, -, hu⟩ := withdraw_eq_ok h
  obtain rfl := Option.some.inj (htouch.old.symm.trans hr)
  have haccrued : Reserve.Trades 0 0 0 0 found accrued (vault.position asset)
      (vault.position asset) := Reserve.accrue_trades ha
  obtain ⟨returned, lost, hpulled⟩ := Reserve.pull_trades hp
  rw [haccrued.asset, hasset] at hpulled
  have hpaid : Reserve.Trades 0 0 returned lost accrued after (vault.position asset)
      (vault'.position asset) :=
    Reserve.refreshRates_trades hu ⟨hpulled.asset, hpulled.invested, hpulled.losses,
      hpulled.balance, hpulled.pending, hpulled.short⟩
  exact ⟨after, returned, lost, htouch.new, haccrued.of_nothing hpaid⟩

end Ledger

/-! ## A ledger with a simulated vault -/

/-- A ledger side by side with a simulated vault, and what happened to one asset so far. -/
structure VaultedLedger where
  ledger : Ledger
  vault : SimulatedVault
  /-- What impairments have written down. -/
  written : Nat := 0
  /-- What rebalances have recognized from reports. -/
  reported : Nat := 0
deriving DecidableEq

namespace VaultedLedger

/-- What can be asked of a ledger and its vault. -/
inductive Request where
  | deposit (account : Account) (amount now : Nat)
  | withdraw (owner : Account) (amount now : Nat)
  | pull (needed : Nat)
  | rebalance
  | setVaultShare (bps : Nat)
  | impair (loss : Nat)
  | limit (liquidLimit : Option Nat)
deriving DecidableEq

/-- What the vault holds of an asset. -/
def position (vaulted : VaultedLedger) (asset : Asset) : VaultPosition :=
  vaulted.vault.position asset

/-- Carries out a request on an asset. An impairment is counted by what it takes off the balance,
and a rebalance by how much the placement exceeds the balance that is reported to it. -/
def perform (asset : Asset) (vaulted : VaultedLedger) : Request → Result VaultedLedger
  | .deposit account amount now => do
    let (_, ledger) ← vaulted.ledger.deposit asset account amount now
    return { vaulted with ledger }
  | .withdraw owner amount now => do
    let (_, _, ledger, vault) ← vaulted.ledger.withdraw vaulted.vault asset owner amount now
    return { vaulted with ledger, vault }
  | .pull needed => do
    let (_, reserve, vault) ← (← vaulted.ledger.reserve asset).pull vaulted.vault needed
    return { vaulted with ledger := vaulted.ledger.setReserve asset reserve, vault }
  | .rebalance => do
    let (_, ledger, vault) ← vaulted.ledger.rebalance vaulted.vault asset
    let gap := vaulted.ledger.investedOf asset - (vaulted.position asset).balance
    return { vaulted with ledger, vault, reported := vaulted.reported + gap }
  | .setVaultShare bps => do
    return { vaulted with ledger := ← vaulted.ledger.setVaultShare asset bps }
  | .impair loss => do
    let vault ← vaulted.vault.impair asset loss
    let taken := min loss (vaulted.position asset).balance
    return { vaulted with vault, written := vaulted.written + taken }
  | .limit liquidLimit => return { vaulted with vault := vaulted.vault.limit asset liquidLimit }

/-- Carries out requests on an asset, one after the other. -/
def run (asset : Asset) (vaulted : VaultedLedger) (requests : List Request) :
    Result VaultedLedger :=
  requests.foldlM (perform asset) vaulted

/-- Whether one withdrawal can return all that the vault holds, before each request of a run and
after the last. -/
def liquidAlong (asset : Asset) (vaulted : VaultedLedger) : List Request → Bool
  | [] => (vaulted.position asset).IsLiquid
  | request :: requests =>
    (vaulted.position asset).IsLiquid &&
      match vaulted.perform asset request with
      | .ok next => next.liquidAlong asset requests
      | .error _ => true

/-! ### One request -/

/-- What a request that is carried out does to the reserve and the position of an asset. -/
inductive Performs (asset : Asset) (before : Reserve) (vaulted vaulted' : VaultedLedger) :
    Prop where
  /-- The reserve and the vault trade, after a gap to the balance was recognized, if any. -/
  | traded {after : Reserve} {gap placed returned lost : Nat}
      (found : vaulted'.ledger.reserves.get? asset = some after)
      (trades : Reserve.Trades gap placed returned lost before after (vaulted.position asset)
        (vaulted'.position asset))
      (gaps : gap = 0 ∨ gap = before.invested - (vaulted.position asset).balance)
      (written : vaulted'.written = vaulted.written)
      (reported : vaulted'.reported = vaulted.reported + gap)
  /-- The position is written down, if only by nothing when its limit changes. -/
  | marked {taken : Nat} (ledger : vaulted'.ledger = vaulted.ledger)
      (balance : (vaulted'.position asset).balance + taken = (vaulted.position asset).balance)
      (pending :
        (vaulted'.position asset).pendingLoss = (vaulted.position asset).pendingLoss + taken)
      (written : vaulted'.written = vaulted.written + taken)
      (reported : vaulted'.reported = vaulted.reported)

variable {asset : Asset} {vaulted vaulted' : VaultedLedger}

/-- A request that is carried out does one of these. -/
theorem perform_performs {request : Request} {before : Reserve}
    (hr : vaulted.ledger.reserves.get? asset = some before) (hasset : before.asset = asset)
    (h : vaulted.perform asset request = .ok vaulted') :
    Performs asset before vaulted vaulted' := by
  cases request <;>
    simp only [perform, Ledger.reserve, bind_eq_ok, orRefuse_eq_ok, pure_eq_ok, Prod.exists] at h
  case deposit =>
    obtain ⟨_, ledger, hd, rfl⟩ := h
    obtain ⟨after, hafter, ht⟩ := Ledger.deposit_trades hr hd
    exact .traded hafter ht (.inl rfl) rfl rfl
  case withdraw =>
    obtain ⟨_, _, ledger, vault, hw, rfl⟩ := h
    obtain ⟨after, _, _, hafter, ht⟩ := Ledger.withdraw_trades hr hasset hw
    exact .traded hafter ht (.inl rfl) rfl rfl
  case pull =>
    obtain ⟨found, hfound, _, after, vault, hp, rfl⟩ := h
    obtain rfl := Option.some.inj (hr.symm.trans hfound)
    obtain ⟨_, _, ht⟩ := Reserve.pull_trades hp
    rw [hasset] at ht
    exact .traded (SortedMap.get?_insert_self _ _ _) ht (.inl rfl) rfl rfl
  case rebalance =>
    obtain ⟨_, ledger, vault, hb, rfl⟩ := h
    obtain ⟨found, after, htouch, hb⟩ := Ledger.rebalance_eq_ok hb
    obtain rfl := Option.some.inj (htouch.old.symm.trans hr)
    obtain ⟨_, _, _, ht⟩ := Reserve.rebalance_trades hb
    rw [hasset] at ht
    refine .traded htouch.new ht (.inr rfl) rfl ?_
    rw [Ledger.investedOf_eq hr]
    rfl
  case setVaultShare =>
    obtain ⟨ledger, hs, rfl⟩ := h
    obtain ⟨found, htouch, -⟩ := Ledger.setVaultShare_eq_ok hs
    obtain rfl := Option.some.inj (htouch.old.symm.trans hr)
    exact .traded htouch.new (Reserve.trades_nothing rfl rfl rfl) (.inl rfl) rfl rfl
  case impair loss =>
    obtain ⟨vault, hi, rfl⟩ := h
    have hposition := SimulatedVault.impair_eq_ok hi
    refine .marked rfl ?_ ?_ rfl rfl
    · simp only [position, hposition]
      omega
    · simp only [position, hposition]
  case limit liquidLimit =>
    subst h
    have hposition := SimulatedVault.position_limit vaulted.vault asset liquidLimit
    have hbalance : ((vaulted.vault.limit asset liquidLimit).position asset).balance + 0 =
        (vaulted.vault.position asset).balance := by
      simp only [hposition, Nat.add_zero]
    have hpending : ((vaulted.vault.limit asset liquidLimit).position asset).pendingLoss =
        (vaulted.vault.position asset).pendingLoss + 0 := by
      simp only [hposition, Nat.add_zero]
    exact .marked rfl hbalance hpending rfl rfl

/-! ### The books -/

/-- The books of the reserve of an asset and its position, where `base` are the losses from before:
placement and losses against balance and write-downs, losses and pending losses against reports
and write-downs. If the position was liquid all the time, no loss was recorded twice. -/
structure Balanced (asset : Asset) (base : Nat) (liquid : Prop) (vaulted : VaultedLedger) :
    Prop where
  balanced : ∃ reserve, vaulted.ledger.reserves.get? asset = some reserve ∧
    reserve.asset = asset ∧
    reserve.invested + reserve.losses = (vaulted.position asset).balance + vaulted.written + base ∧
    reserve.losses + (vaulted.position asset).pendingLoss =
      vaulted.reported + vaulted.written + base ∧
    (liquid → reserve.losses ≤ vaulted.written + base)
  pending : (vaulted.position asset).pendingLoss ≤ vaulted.written
  reported : vaulted.reported ≤ vaulted.written

/-- Every request keeps the books balanced. -/
theorem Balanced.perform {base : Nat} {liquid : Prop} (h : vaulted.Balanced asset base liquid)
    (hliquid : liquid → (vaulted.position asset).IsLiquid) {request : Request}
    (hp : vaulted.perform asset request = .ok vaulted') :
    vaulted'.Balanced asset base liquid := by
  obtain ⟨⟨before, hbefore, hasset, hplaced, hrecognized, honce⟩, hpending, hreported⟩ := h
  cases perform_performs hbefore hasset hp with
  | traded found trades gaps written reported =>
    have hinvested := trades.invested
    have hlosses := trades.losses
    have hbalance := trades.balance
    have htraded := trades.pending
    refine ⟨⟨_, found, trades.asset.trans hasset, ?_, ?_, fun hall => ?_⟩, ?_, ?_⟩
    · omega
    · omega
    · -- a loss that is realized beyond what is pending of the reports leaves nothing in the vault
      have honce := honce hall
      rcases trades.short (hliquid hall) with hnone | hempty
      · omega
      · omega
    · omega
    · -- after a gap was recognized, the reports are what is pending
      omega
  | marked ledger balance pending written reported =>
    refine ⟨⟨before, ledger ▸ hbefore, hasset, ?_, ?_, fun hall => ?_⟩, ?_, ?_⟩
    · omega
    · omega
    · have honce := honce hall
      omega
    · omega
    · omega

/-- Requests keep the books balanced. -/
lemma Balanced.run {base : Nat} {liquid : Prop} {requests : List Request}
    (h : vaulted.Balanced asset base liquid)
    (hliquid : liquid → vaulted.liquidAlong asset requests = true)
    (hrun : vaulted.run asset requests = .ok vaulted') : vaulted'.Balanced asset base liquid := by
  induction requests generalizing vaulted with
  | nil =>
    obtain rfl := pure_eq_ok.mp hrun
    exact h
  | cons request requests ih =>
    simp only [VaultedLedger.run, List.foldlM_cons, bind_eq_ok] at hrun
    obtain ⟨next, hp, hrest⟩ := hrun
    have hsplit : liquid → (vaulted.position asset).IsLiquid ∧
        next.liquidAlong asset requests = true := by
      intro hall
      have hboth := hliquid hall
      simp only [liquidAlong, hp, Bool.and_eq_true, decide_eq_true_eq] at hboth
      exact hboth
    exact ih (h.perform (fun hall => (hsplit hall).1) hp) (fun hall => (hsplit hall).2) hrest

/-- Nothing is placed or pending, and nothing has been counted yet. -/
structure Fresh (asset : Asset) (reserve : Reserve) (vaulted : VaultedLedger) : Prop where
  found : vaulted.ledger.reserves.get? asset = some reserve
  named : reserve.asset = asset
  invested : reserve.invested = 0
  balance : (vaulted.position asset).balance = 0
  pending : (vaulted.position asset).pendingLoss = 0
  written : vaulted.written = 0
  reported : vaulted.reported = 0

/-- Whatever requests a reserve and a simulated vault have carried out since neither held anything
for the other, what the reserve has placed and lost since then adds up to what the vault holds and
what was written down, and what it has lost and what is pending adds up to what was recognized from
reports and what was written down. So the losses are at most twice what was written down, and they
exceed it, and the balance exceeds the placement, exactly when more was recognized from reports than
is still pending. That does not happen as long as one withdrawal can return all that the vault
holds. -/
theorem losses_recognized {start last : VaultedLedger} {reserve : Reserve}
    {requests : List Request} (hfresh : start.Fresh asset reserve)
    (hrun : start.run asset requests = .ok last) :
    ∃ after, last.ledger.reserves.get? asset = some after ∧ reserve.losses ≤ after.losses ∧
      after.invested + (after.losses - reserve.losses) =
        (last.position asset).balance + last.written ∧
      after.losses - reserve.losses + (last.position asset).pendingLoss =
        last.reported + last.written ∧
      after.losses - reserve.losses ≤ 2 * last.written ∧
      (after.losses - reserve.losses ≤ last.written ↔
        last.reported ≤ (last.position asset).pendingLoss) ∧
      ((last.position asset).balance ≤ after.invested ↔
        last.reported ≤ (last.position asset).pendingLoss) ∧
      (start.liquidAlong asset requests = true →
        after.losses - reserve.losses ≤ last.written ∧
          (last.position asset).balance ≤ after.invested) := by
  have hstart : start.Balanced asset reserve.losses (start.liquidAlong asset requests = true) := by
    have hinvested := hfresh.invested
    have hbalance := hfresh.balance
    have hpending := hfresh.pending
    have hwritten := hfresh.written
    have hreported := hfresh.reported
    refine ⟨⟨reserve, hfresh.found, hfresh.named, ?_, ?_, fun _ => ?_⟩, ?_, ?_⟩
    all_goals omega
  obtain ⟨⟨after, hafter, -, hplaced, hrecognized, honce⟩, hpending, hreported⟩ :=
    hstart.run id hrun
  refine ⟨after, hafter, ?_, ?_, ?_, ?_, ?_, ?_, fun hliquid => ?_⟩
  · omega
  · omega
  · omega
  · omega
  · omega
  · omega
  · have hlosses := honce hliquid
    omega

end VaultedLedger

namespace SmallMarket

/-- The ledger with the loan of 300 and an empty vault. -/
def unplaced : VaultedLedger where
  ledger := lent.state.store.ledger
  vault := {}

/-- Half of the 700 is placed, of which 50 are written down, and a rebalance recognizes the loss. -/
def impairing : List VaultedLedger.Request :=
  [.setVaultShare 5000, .rebalance, .impair 50, .rebalance]

/-- All that is left is asked back from the vault, whose balance is 325 by then. -/
def recalling : List VaultedLedger.Request := impairing ++ [.pull 650]

/-- The same, while one withdrawal returns at most 100. -/
def recallingSlowly : List VaultedLedger.Request := impairing ++ [.limit (some 100), .pull 650]

/-- When the vault returns all that it is asked for, the 50 that were written down are recorded once.
When it returns 100 only, it realizes the 50 that the rebalance has recognized before: 100 are
recorded as lost, and 175 as placed where the vault holds 225. -/
theorem impairing_recorded_twice :
    ∃ reserve ∈ unplaced.ledger.reserves.get? coin, unplaced.Fresh coin reserve ∧
      reserve.losses = 0 ∧
      (∃ last after, unplaced.run coin recalling = .ok last ∧
        last.ledger.reserves.get? coin = some after ∧ last.written = 50 ∧ after.losses ≤ 50 ∧
        (last.position coin).balance ≤ after.invested) ∧
      ∃ last after, unplaced.run coin recallingSlowly = .ok last ∧
        last.ledger.reserves.get? coin = some after ∧ last.written = 50 ∧ after.losses = 100 ∧
        after.invested = 175 ∧ (last.position coin).balance = 225 := by
  have hpresent : ∃ reserve ∈ unplaced.ledger.reserves.get? coin,
      reserve.asset = coin ∧ reserve.invested = 0 ∧ reserve.losses = 0 := by
    decide +kernel
  obtain ⟨reserve, hr, hasset, hinvested, hlosses⟩ := hpresent
  have hfresh : unplaced.Fresh coin reserve := ⟨hr, hasset, hinvested, rfl, rfl, rfl, rfl⟩
  refine ⟨reserve, hr, hfresh, hlosses, ?_, ?_⟩
  · have hcounted : VaultedLedger.written <$> unplaced.run coin recalling = .ok 50 := by
      decide +kernel
    have hliquid : unplaced.liquidAlong coin recalling = true := by decide +kernel
    obtain ⟨last, hrun, hwritten⟩ := map_eq_ok.mp hcounted
    obtain ⟨after, hafter, -, -, -, -, -, -, honce⟩ :=
      VaultedLedger.losses_recognized hfresh hrun
    obtain ⟨hle, hheld⟩ := honce hliquid
    exact ⟨last, after, hrun, hafter, hwritten, by omega, hheld⟩
  · have hcounted : (fun last : VaultedLedger =>
        (last.written, last.reported, (last.position coin).pendingLoss,
          (last.position coin).balance)) <$> unplaced.run coin recallingSlowly =
        .ok (50, 50, 0, 225) := by
      decide +kernel
    obtain ⟨last, hrun, hcounts⟩ := map_eq_ok.mp hcounted
    simp only [Prod.mk.injEq] at hcounts
    obtain ⟨hwritten, hreported, hpending, hbalance⟩ := hcounts
    obtain ⟨after, hafter, hle, hplaced, hrecognized, -, -, -, -⟩ :=
      VaultedLedger.losses_recognized hfresh hrun
    exact ⟨last, after, hrun, hafter, hwritten, by omega, by omega, hbalance⟩

end SmallMarket

end PooledCredit
