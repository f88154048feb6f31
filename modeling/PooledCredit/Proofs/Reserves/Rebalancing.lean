import PooledCredit.Proofs.Reserves.Operations
import PooledCredit.Proofs.Reserves.Placement
import PooledCredit.Proofs.Reserves.Setup

/-!
# Pulls and rebalances

A pull and a rebalance move liquidity between a reserve and its vault. A loss can come by two ways,
from a report and with a withdrawal, and a withdrawal can bring back less than was asked for. The
vault is arbitrary here, except that it is bounded where a booking would otherwise be cut off at an
empty placement.

What a request asked of the vault is not in its result. It is read off a *watched* vault, which
answers like the vault it watches and writes the requests down.

A target of more than all of the liquidity could not be met. No reserve has one: whatever lays down
a share checks that it is at most all, and nothing else changes it.
-/

namespace PooledCredit

/-! ## Watched vaults -/

/-- A vault together with the requests for liquidity that it has answered, in order. -/
structure Watched (V : Type) where
  vault : V
  requests : List (Asset × Nat)

/-- A watched vault answers like the vault itself and writes down what it is asked for. -/
instance {V : Type} [Vault V] : Vault (Watched V) where
  place watched asset amount :=
    (fun vault => { watched with vault }) <$> Vault.place watched.vault asset amount
  release watched asset amount :=
    (fun (withdrawal, vault) => (withdrawal, ⟨vault, watched.requests ++ [(asset, amount)]⟩)) <$>
      Vault.release watched.vault asset amount
  report watched asset := Vault.report watched.vault asset

namespace Watched

variable {V : Type} [Vault V] {watched watched' : Watched V} {asset : Asset} {amount : Nat}

/-- Placing liquidity leaves the requests alone. -/
lemma place_requests (h : Vault.place watched asset amount = .ok watched') :
    watched'.requests = watched.requests := by
  obtain ⟨_, -, rfl⟩ := map_eq_ok.mp h
  rfl

/-- A request for liquidity is answered by the vault and written down. -/
lemma release_eq_ok {withdrawal : Withdrawal}
    (h : Vault.release watched asset amount = .ok (withdrawal, watched')) :
    Vault.release watched.vault asset amount = .ok (withdrawal, watched'.vault) ∧
      watched'.requests = watched.requests ++ [(asset, amount)] := by
  obtain ⟨⟨_, _⟩, hrelease, heq⟩ := map_eq_ok.mp h
  cases heq
  exact ⟨hrelease, rfl⟩

end Watched

namespace Reserve

variable {V : Type} [Vault V]

/-- A pull from a watched vault is a pull from the vault. -/
lemma pull_watched (reserve : Reserve) (watched : Watched V) (needed : Nat) :
    (fun (movement, reserve, watched) => (movement, reserve, watched.vault)) <$>
      reserve.pull watched needed = reserve.pull watched.vault needed := by
  unfold pull
  split
  · rfl
  · simp only [Vault.release, map_bind, bind_map_left, map_pure]

/-- A rebalance with a watched vault is a rebalance with the vault. -/
lemma rebalance_watched (reserve : Reserve) (watched : Watched V) :
    (fun (movement, reserve, watched) => (movement, reserve, watched.vault)) <$>
      reserve.rebalance watched = reserve.rebalance watched.vault := by
  unfold rebalance
  simp only [map_bind]
  refine bind_congr fun (reported, known) => bind_congr fun liquidity => bind_congr fun target => ?_
  by_cases hbelow : known.invested < target
  · simp only [if_pos hbelow, map_bind]
    refine bind_congr fun missing => ?_
    by_cases hnone : min missing known.idle = 0
    · simp only [if_pos hnone, map_bind, map_pure]
    · simp only [if_neg hnone, Vault.place, map_bind, bind_map_left, map_pure]
  · by_cases habove : target < known.invested
    · simp only [if_neg hbelow, if_pos habove, Vault.release, map_bind, bind_map_left, map_pure]
    · simp only [if_neg hbelow, if_neg habove, map_bind, map_pure]

/-! ## What is booked -/

/-- The balances of a reserve change by what a movement says: what was placed left the idle
liquidity, what came back returned to it, and what was lost is recorded as lost. -/
structure Books (movement : Movement) (before after : Reserve) : Prop where
  idle : after.idle + movement.invested = before.idle + movement.divested
  placed : after.invested + movement.divested + movement.loss = before.invested + movement.invested
  lost : after.losses = before.losses + movement.loss

/-- At most one request for liquidity was made, in the asset of the reserve and within a limit. -/
def AsksWithin (reserve : Reserve) (limit : Nat) (requests : List (Asset × Nat)) : Prop :=
  requests = [] ∨ ∃ amount, amount ≤ limit ∧ requests = [(reserve.asset, amount)]

/-- The vault holds the configured share of the liquidity, rounded down. -/
def OnTarget (reserve : Reserve) : Prop :=
  reserve.invested = (reserve.idle + reserve.invested) * reserve.vaultShare / fullShare

variable {before middle after : Reserve} {movement : Movement} {needed : Nat}

/-- What is booked neither creates nor destroys anything. -/
lemma Books.total (h : before.Books movement after) :
    after.idle + after.invested + after.losses =
      before.idle + before.invested + before.losses := by
  have hidle := h.idle
  have hplaced := h.placed
  have hlost := h.lost
  omega

/-- Refreshing the rates books nothing. -/
lemma refreshRates_books (hu : middle.refreshRates = .ok after)
    (h : before.Books movement middle) : before.Books movement after := by
  obtain ⟨_, _, _, -, -, -, rfl⟩ := refreshRates_eq_ok hu
  exact ⟨h.idle, h.placed, h.lost⟩

/-- A withdrawal that takes no more than the placement is booked in full. -/
lemma receive_books {withdrawal : Withdrawal}
    (hle : withdrawal.actual + withdrawal.loss ≤ before.invested)
    (h : before.receive withdrawal = .ok (movement, after)) : before.Books movement after := by
  obtain ⟨rfl, rfl⟩ := receive_eq_ok h
  refine ⟨rfl, ?_, rfl⟩
  simp only
  omega

/-- A loss that was recognized before belongs to the movement. -/
lemma Books.recognized {loss : Nat} {report : VaultReport}
    (hk : before.recognize report = .ok (loss, middle)) (h : middle.Books movement after) :
    before.Books { movement with loss := loss + movement.loss } after := by
  obtain ⟨hloss, rfl⟩ := recognize_eq_ok hk
  obtain ⟨hidle, hplaced, hlost⟩ := h
  simp only at hidle hplaced hlost
  refine ⟨hidle, ?placed, ?lost⟩
  case placed =>
    simp only
    omega
  case lost =>
    simp only
    omega

/-- A recognized report leaves the idle liquidity and the share alone, and of the placement what the
vault still holds. -/
lemma recognize_known {loss : Nat} {report : VaultReport}
    (hk : before.recognize report = .ok (loss, middle)) :
    middle.idle = before.idle ∧ middle.invested = min before.invested report.held ∧
      middle.vaultShare = before.vaultShare ∧ middle.asset = before.asset := by
  obtain ⟨hloss, rfl⟩ := recognize_eq_ok hk
  refine ⟨rfl, ?_, rfl, rfl⟩
  simp only
  omega

variable {vault vault' : V}

/-- A pull from a bounded vault books what its movement says. -/
lemma pull_books (bounded : Vault.Bounded vault)
    (h : before.pull vault needed = .ok (movement, after, vault')) :
    before.Books movement after := by
  rcases pull_eq_ok h with ⟨rfl, rfl, -⟩ | ⟨request, _, _, hle, hrelease, hreceive, hu⟩
  · exact ⟨rfl, rfl, rfl⟩
  · exact refreshRates_books hu
      (receive_books ((bounded _ _ _ _ hrelease).trans hle) hreceive)

/-- A rebalance with a bounded vault books what its movement says. -/
lemma rebalance_books (bounded : Vault.Bounded vault)
    (h : before.rebalance vault = .ok (movement, after, vault')) :
    before.Books movement after := by
  obtain ⟨loss, known, last, hk, hu, hmove⟩ := rebalance_eq_ok h
  refine refreshRates_books hu ?_
  rcases hmove with ⟨rfl, rfl, -⟩ | ⟨amount, rfl, hle, -, rfl⟩ |
    ⟨request, _, moved, hle, hrelease, hreceive, rfl⟩
  · have hnothing : last.Books {} last := ⟨rfl, rfl, rfl⟩
    exact hnothing.recognized hk
  · have hplaced : known.Books { invested := amount } { known with
        idle := known.idle - amount
        invested := known.invested + amount } := ⟨Nat.sub_add_cancel hle, rfl, rfl⟩
    exact hplaced.recognized hk
  · have hbooks := receive_books ((bounded _ _ _ _ hrelease).trans hle) hreceive
    have hrecognized := hbooks.recognized hk
    obtain ⟨rfl, -⟩ := receive_eq_ok hreceive
    exact hrecognized

/-! ## What is asked for -/

/-- A pull asks for at most the placement. -/
lemma pull_asks {watched : Watched V}
    (h : before.pull (Watched.mk vault []) needed = .ok (movement, after, watched)) :
    before.AsksWithin before.invested watched.requests := by
  rcases pull_eq_ok h with ⟨-, -, rfl⟩ | ⟨request, _, _, hle, hrelease, -, -⟩
  · exact .inl rfl
  · exact .inr ⟨request, hle, (Watched.release_eq_ok hrelease).2⟩

/-- A rebalance asks for at most what the vault still holds of the placement. -/
lemma rebalance_asks {watched : Watched V}
    (h : before.rebalance (Watched.mk vault []) = .ok (movement, after, watched)) :
    before.AsksWithin (min before.invested (Vault.report vault before.asset).held)
      watched.requests := by
  obtain ⟨loss, known, last, hk, -, hmove⟩ := rebalance_eq_ok h
  obtain ⟨-, hinvested, -, hasset⟩ := recognize_known hk
  rcases hmove with ⟨-, -, rfl⟩ | ⟨_, -, -, hplace, -⟩ | ⟨request, _, _, hle, hrelease, -, -⟩
  · exact .inl rfl
  · exact .inl (Watched.place_requests hplace)
  · refine .inr ⟨request, hle.trans hinvested.le, ?_⟩
    rw [(Watched.release_eq_ok hrelease).2, hasset]
    rfl

/-! ## Where a rebalance ends -/

/-- A share of at most all of the liquidity is covered by it. -/
lemma share_le {liquidity share : Nat} (h : share ≤ fullShare) :
    liquidity * share / fullShare ≤ liquidity :=
  Nat.div_le_of_le_mul (by
    rw [Nat.mul_comm fullShare]
    exact Nat.mul_le_mul_left liquidity h)

/-- The rates do not matter for the target. -/
lemma refreshRates_onTarget (hu : middle.refreshRates = .ok after) (h : middle.OnTarget) :
    after.OnTarget := by
  obtain ⟨_, _, _, -, -, -, rfl⟩ := refreshRates_eq_ok hu
  exact h

/-- A rebalance that places liquidity ends on target, unless the share is more than all. -/
lemma rebalance_invests (hshare : before.vaultShare ≤ fullShare)
    (h : before.rebalance vault = .ok (movement, after, vault'))
    (hinvests : 0 < movement.invested) : after.OnTarget := by
  obtain ⟨loss, known, target, last, hk, ht, hu, hmove⟩ := rebalance_cases h
  obtain ⟨-, -, hsame, -⟩ := recognize_known hk
  obtain ⟨-, -, htarget⟩ := mulDiv_eq_ok.mp ht
  refine refreshRates_onTarget hu ?_
  rcases hmove with ⟨-, -, rfl, -⟩ | ⟨amount, hpos, hamount, -, -, rfl⟩ | ⟨-, _, _, -, -, rfl⟩
  · exact absurd hinvests (Nat.lt_irrefl 0)
  · -- the liquidity stays what it was, and it covers the target
    have hcovered : target ≤ known.idle + known.invested := by
      rw [← htarget]
      exact share_le (hsame.trans_le hshare)
    have hliquidity : known.idle - amount + (known.invested + amount) =
        known.idle + known.invested := by omega
    have hplaced : known.invested + amount = target := by omega
    show known.invested + amount =
      (known.idle - amount + (known.invested + amount)) * known.vaultShare / fullShare
    rw [hliquidity, hplaced]
    exact htarget.symm
  · exact absurd hinvests (Nat.lt_irrefl 0)

/-- A rebalance that gets back all that it asks a bounded vault for ends on target. -/
lemma rebalance_returned {watched : Watched V} (bounded : Vault.Bounded vault)
    (h : before.rebalance (Watched.mk vault []) = .ok (movement, after, watched))
    (hreturned : watched.requests = [(before.asset, movement.divested)]) : after.OnTarget := by
  obtain ⟨loss, known, target, last, hk, ht, hu, hmove⟩ := rebalance_cases h
  obtain ⟨-, -, htarget⟩ := mulDiv_eq_ok.mp ht
  refine refreshRates_onTarget hu ?_
  rcases hmove with ⟨-, -, -, -, rfl⟩ | ⟨_, -, -, -, hplace, -⟩ |
    ⟨habove, withdrawal, _, hrelease, hreceive, rfl⟩
  · cases hreturned
  · rw [Watched.place_requests hplace] at hreturned
    cases hreturned
  · obtain ⟨hreleased, hrequests⟩ := Watched.release_eq_ok hrelease
    have hbounded := bounded _ _ _ _ hreleased
    obtain ⟨rfl, rfl⟩ := receive_eq_ok hreceive
    rw [hrequests] at hreturned
    -- the excess came back, so nothing of it is left to be lost
    have hactual : known.invested - target = withdrawal.actual := by
      simpa using congrArg (List.map Prod.snd) hreturned
    have hloss : withdrawal.loss = 0 := by omega
    have hliquidity : known.idle + withdrawal.actual + target =
        known.idle + known.invested := by omega
    have hplaced : known.invested - min (withdrawal.actual + withdrawal.loss) known.invested =
        target := by omega
    show known.invested - min (withdrawal.actual + withdrawal.loss) known.invested =
      (known.idle + withdrawal.actual +
        (known.invested - min (withdrawal.actual + withdrawal.loss) known.invested)) *
          known.vaultShare / fullShare
    rw [hplaced, hliquidity]
    exact htarget.symm

/-- No rebalance leaves more in the vault than the target and the placement before. -/
lemma rebalance_le (h : before.rebalance vault = .ok (movement, after, vault')) :
    after.invested ≤ max
      ((before.idle + min before.invested (Vault.report vault before.asset).held) *
        before.vaultShare / fullShare) before.invested := by
  obtain ⟨loss, known, target, last, hk, ht, hu, hmove⟩ := rebalance_cases h
  obtain ⟨hidle, hinvested, hshare, -⟩ := recognize_known hk
  obtain ⟨-, -, htarget⟩ := mulDiv_eq_ok.mp ht
  have htarget : target = (before.idle +
      min before.invested (Vault.report vault before.asset).held) *
        before.vaultShare / fullShare := by
    rw [← hidle, ← hinvested, ← hshare]
    exact htarget.symm
  have hlast : after.invested = last.invested := by
    obtain ⟨_, _, _, -, -, -, rfl⟩ := refreshRates_eq_ok hu
    rfl
  rw [← htarget, hlast]
  rcases hmove with ⟨-, -, -, rfl, -⟩ | ⟨amount, -, hamount, -, -, rfl⟩ |
    ⟨-, _, _, -, hreceive, -⟩
  · omega
  · simp only
    omega
  · obtain ⟨-, rfl⟩ := receive_eq_ok hreceive
    simp only
    omega

end Reserve

/-! ## Shares of the reserves -/

namespace Ledger

/-- No reserve may place more than all of its liquidity. -/
def SharesBounded (ledger : Ledger) : Prop :=
  ∀ asset reserve, ledger.reserves.get? asset = some reserve → reserve.vaultShare ≤ fullShare

variable {ledger ledger' : Ledger}

/-- The shares stay bounded when the one reserve that is touched keeps its bound. -/
lemma Touches.sharesBounded {asset : Asset} {before after : Reserve}
    (h : Touches asset before after ledger ledger') (hl : ledger.SharesBounded)
    (hkeeps : before.vaultShare ≤ fullShare → after.vaultShare ≤ fullShare) :
    ledger'.SharesBounded :=
  h.forall_reserves hl hkeeps

/-- The shares stay bounded when the terms of all reserves stay. -/
lemma SharesBounded.sameTerms (h : ledger.SharesBounded) (hs : ledger.SameTerms ledger') :
    ledger'.SharesBounded := by
  intro asset reserve hr
  have hshare : (ledger.reserves.get? asset).map Reserve.vaultShare = some reserve.vaultShare := by
    rw [← vaultShareOf, ← hs.vaultShare asset, vaultShareOf, hr]
    rfl
  obtain ⟨before, hbefore, hsame⟩ := Option.map_eq_some_iff.mp hshare
  exact hsame ▸ h asset before hbefore

/-- Every operation keeps the shares bounded: a share is laid down with the reserve or by itself,
and is checked both times. -/
lemma Operates.sharesBounded (h : ledger.Operates ledger') (hl : ledger.SharesBounded) :
    ledger'.SharesBounded := by
  cases h with
  | opened h =>
    obtain ⟨opened, -, hvalid, hnew, rfl⟩ := openReserve_eq_ok h
    simp only [ReserveTerms.validate, bind_eq_ok, require_eq_ok, exists_const] at hvalid
    obtain ⟨-, -, hshare, -⟩ := hvalid
    obtain ⟨_, _, _, -, -, -, rfl⟩ := Reserve.refreshRates_eq_ok hnew
    exact forall_setReserve hl hshare
  | accrued h => exact hl.sameTerms (accrue_sameTerms h)
  | deposited h => exact hl.sameTerms (deposit_sameTerms h)
  | withdrawn h => exact hl.sameTerms (withdraw_sameTerms h)
  | lent h => exact hl.sameTerms (lend_sameTerms h)
  | repaid h => exact hl.sameTerms (repay_sameTerms h)
  | writtenOff h => exact hl.sameTerms (writeOff_sameTerms h)
  | switched h =>
    obtain ⟨_, htouch⟩ := setFlags_eq_ok h
    exact htouch.sharesBounded hl id
  | factored h =>
    obtain ⟨_, _, _, _, htouch, -, ha, hu⟩ := setFactor_eq_ok h
    refine htouch.sharesBounded hl fun hle => ?_
    obtain ⟨_, _, _, -, -, -, rfl⟩ := Reserve.refreshRates_eq_ok hu
    exact (Reserve.accrue_sameTerms ha).vaultShare.trans_le hle
  | remodelled h =>
    obtain ⟨_, _, _, _, htouch, -, ha, hu⟩ := setModel_eq_ok h
    refine htouch.sharesBounded hl fun hle => ?_
    obtain ⟨_, _, _, -, -, -, rfl⟩ := Reserve.refreshRates_eq_ok hu
    exact (Reserve.accrue_sameTerms ha).vaultShare.trans_le hle
  | shared h =>
    obtain ⟨_, htouch, hle⟩ := setVaultShare_eq_ok h
    exact htouch.sharesBounded hl fun _ => hle
  | pulled found h =>
    exact hl.sameTerms ((touches_setReserve found _).sameTerms (Reserve.pull_sameTerms h))
  | rebalanced h => exact hl.sameTerms (rebalance_sameTerms h)

end Ledger

namespace Reserve

/-- The reserve is one of a store that successful requests and operations have led to from an empty
one, with any vaults, prices and venues. What requests alone lead to is among these stores
(`Store.Trail.operates`). -/
def Arises (reserve : Reserve) : Prop :=
  ∃ (settings : Settings) (start store : Store) (asset : Asset),
    Store.create settings = .ok start ∧ Relation.ReflTransGen Store.Operates start store ∧
      store.ledger.reserves.get? asset = some reserve

/-- No reserve that arises may place more than all of its liquidity. -/
lemma Arises.vaultShare_le {reserve : Reserve} (h : reserve.Arises) :
    reserve.vaultShare ≤ fullShare := by
  obtain ⟨settings, start, store, asset, hc, hrun, hr⟩ := h
  have hbounded : store.ledger.SharesBounded :=
    Store.ledger_invariant Ledger.forall_no_reserves (fun _ _ => Ledger.Operates.sharesBounded)
      hc hrun
  exact hbounded asset reserve hr

variable {V : Type} [Vault V]

/-- With a bounded vault, a pull and a rebalance book exactly what their movement says, so that idle
liquidity, placement and losses add up to what they did; and they ask the vault once at most, for no
more than it holds of the reserve. A rebalance that places liquidity, with a share of at most all of
it, ends on target, and so does one that gets back all that it asks for; every reserve that arises
has such a share. No rebalance leaves the placement above both the target it was moved to and what
it was before. -/
theorem movements_booked (vault : V) (bounded : Vault.Bounded vault) (before : Reserve) :
    (before.Arises → before.vaultShare ≤ fullShare) ∧
    (∀ needed movement after vault', before.pull vault needed = .ok (movement, after, vault') →
      after.idle + after.invested + after.losses =
        before.idle + before.invested + before.losses ∧
      before.Books movement after ∧
      ∃ requests, before.pull (Watched.mk vault []) needed =
          .ok (movement, after, ⟨vault', requests⟩) ∧
        before.AsksWithin before.invested requests) ∧
    ∀ movement after vault', before.rebalance vault = .ok (movement, after, vault') →
      after.idle + after.invested + after.losses =
        before.idle + before.invested + before.losses ∧
      before.Books movement after ∧
      (before.vaultShare ≤ fullShare → 0 < movement.invested → after.OnTarget) ∧
      after.invested ≤ max
        ((before.idle + min before.invested (Vault.report vault before.asset).held) *
          before.vaultShare / fullShare) before.invested ∧
      ∃ requests, before.rebalance (Watched.mk vault []) =
          .ok (movement, after, ⟨vault', requests⟩) ∧
        before.AsksWithin (min before.invested (Vault.report vault before.asset).held) requests ∧
        (requests = [(before.asset, movement.divested)] → after.OnTarget) := by
  refine ⟨Arises.vaultShare_le, fun needed movement after vault' h => ?pulls,
    fun movement after vault' h => ?rebalances⟩
  case pulls =>
    have hbooks := pull_books bounded h
    obtain ⟨⟨_, _, ⟨_, requests⟩⟩, hwatched, heq⟩ :=
      map_eq_ok.mp ((pull_watched before ⟨vault, []⟩ needed).trans h)
    cases heq
    exact ⟨hbooks.total, hbooks, requests, hwatched, pull_asks hwatched⟩
  case rebalances =>
    have hbooks := rebalance_books bounded h
    obtain ⟨⟨_, _, ⟨_, requests⟩⟩, hwatched, heq⟩ :=
      map_eq_ok.mp ((rebalance_watched before ⟨vault, []⟩).trans h)
    cases heq
    exact ⟨hbooks.total, hbooks, fun hshare => rebalance_invests hshare h, rebalance_le h,
      requests, hwatched, rebalance_asks hwatched, rebalance_returned bounded hwatched⟩

end Reserve

/-! ## A pull and three rebalances -/

namespace SmallMarket

/-- A reserve that may place half of a thousand units, with none of them lent. -/
def halfShared (idle invested : Nat) : Reserve where
  asset := coin
  decimals := 0
  supplyIndex := ray
  debtIndex := ray
  supplyRate := 0
  borrowRate := 0
  scaledSupply := 1000
  scaledDebt := 0
  idle
  invested
  vaultShare := 5000
  losses := 0
  updatedAt := 0
  factor := 1000
  active := true
  frozen := false
  borrowing := true
  model := {}

/-- A vault that was given 600 units, lost 100 of them and pays out no more than a limit at a
time. -/
def impairedVault (limit : Nat) : SimulatedVault where
  positions := SortedMap.insert ∅ coin
    { balance := 500, pendingLoss := 100, liquidLimit := some limit }

/-- The share of a reserve with 700 idle units is set to a half, and a rebalance places them. -/
lemma places_half : ∃ (reserve after : Reserve) (vault' : SimulatedVault), reserve.Arises ∧
    reserve.rebalance ({} : SimulatedVault) = .ok ({ invested := 350 }, after, vault') := by
  have hplaces : (do
      let ledger ← lent.state.store.ledger.setVaultShare coin 5000
      let reserve ← ledger.reserve coin
      let (movement, _) ← reserve.rebalance ({} : SimulatedVault)
      return movement) = .ok { invested := 350 } := by
    decide +kernel
  simp only [Ledger.reserve, bind_eq_ok, orRefuse_eq_ok, pure_eq_ok, Prod.exists] at hplaces
  obtain ⟨ledger, hshared, reserve, hr, _, after, vault', hrebalance, rfl⟩ := hplaces
  obtain ⟨past, -, htrail⟩ := founded_trail (setUp ++ lending)
  obtain ⟨settings, start, hc, hrun⟩ := htrail.operates
  have hoperates := hrun.tail (.direct (.shared hshared))
  exact ⟨reserve, after, vault', ⟨settings, start, _, coin, hc, hoperates, hr⟩, hrebalance⟩

/-- A pull of 450 with 400 units idle gets 30 of what is missing and loses the other 20. A rebalance
of the same reserve recognizes a reported loss of 100 and asks for an excess of 50: when the vault
pays out 30 and loses the other 20, all of this is booked, and when it pays out the 50, the reserve
ends on target. So does a reserve that arises, when half of its idle units are placed. -/
theorem movements_booked_half :
    (∃ movement after vault', (halfShared 400 600).pull (impairedVault 30) 450 =
        .ok (movement, after, vault') ∧
      movement = { divested := 30, loss := 20 } ∧
      after.idle + after.invested + after.losses = 1000) ∧
    (∃ movement after vault', (halfShared 400 600).rebalance (impairedVault 30) =
        .ok (movement, after, vault') ∧
      movement = { divested := 30, loss := 120 } ∧
      after.idle + after.invested + after.losses = 1000) ∧
    (∃ movement after vault', (halfShared 400 600).rebalance (impairedVault 50) =
        .ok (movement, after, vault') ∧
      movement = { divested := 50, loss := 100 } ∧ after.OnTarget) ∧
    ∃ (reserve : Reserve) (movement : Movement) (after : Reserve) (vault' : SimulatedVault),
      reserve.Arises ∧ reserve.rebalance ({} : SimulatedVault) = .ok (movement, after, vault') ∧
      movement = { invested := 350 } ∧ after.OnTarget := by
  refine ⟨?pulled, ?lossy, ?returned, ?placed⟩
  case pulled =>
    obtain ⟨after, vault', h⟩ : ∃ after vault',
        (halfShared 400 600).pull (impairedVault 30) 450 =
          .ok ({ divested := 30, loss := 20 }, after, vault') := ⟨_, _, rfl⟩
    obtain ⟨-, hpulls, -⟩ := Reserve.movements_booked (impairedVault 30)
      (SimulatedVault.bounded _) (halfShared 400 600)
    obtain ⟨htotal, -⟩ := hpulls _ _ _ _ h
    exact ⟨_, after, vault', h, rfl, htotal⟩
  case lossy =>
    obtain ⟨after, vault', h⟩ : ∃ after vault',
        (halfShared 400 600).rebalance (impairedVault 30) =
          .ok ({ divested := 30, loss := 120 }, after, vault') := ⟨_, _, rfl⟩
    obtain ⟨-, -, hrebalances⟩ := Reserve.movements_booked (impairedVault 30)
      (SimulatedVault.bounded _) (halfShared 400 600)
    obtain ⟨htotal, -⟩ := hrebalances _ _ _ h
    exact ⟨_, after, vault', h, rfl, htotal⟩
  case returned =>
    obtain ⟨after, vault', h, hwatched⟩ : ∃ after vault',
        (halfShared 400 600).rebalance (impairedVault 50) =
          .ok ({ divested := 50, loss := 100 }, after, vault') ∧
        (halfShared 400 600).rebalance (Watched.mk (impairedVault 50) []) =
          .ok ({ divested := 50, loss := 100 }, after, ⟨vault', [(coin, 50)]⟩) :=
      ⟨_, _, rfl, rfl⟩
    obtain ⟨-, -, hrebalances⟩ := Reserve.movements_booked (impairedVault 50)
      (SimulatedVault.bounded _) (halfShared 400 600)
    obtain ⟨-, -, -, -, requests, hwatched', -, hreturned⟩ := hrebalances _ _ _ h
    obtain rfl : [(coin, 50)] = requests := by
      rw [hwatched] at hwatched'
      cases hwatched'
      rfl
    exact ⟨_, after, vault', h, rfl, hreturned rfl⟩
  case placed =>
    obtain ⟨reserve, after, vault', harises, h⟩ := places_half
    obtain ⟨hshare, -, hrebalances⟩ := Reserve.movements_booked ({} : SimulatedVault)
      (SimulatedVault.bounded _) reserve
    obtain ⟨-, -, hinvests, -⟩ := hrebalances _ _ _ h
    exact ⟨reserve, _, after, vault', harises, h, rfl, hinvests (hshare harises) (by decide)⟩

end SmallMarket

end PooledCredit
