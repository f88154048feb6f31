import PooledCredit.Proofs.Reserves.Growth
import PooledCredit.Proofs.Reserves.Holdings

/-!
# Supplying and withdrawing at one moment

While the clock stands still the indices do, and the supply of an account changes only by deposits
for it and by its own withdrawals. A deposit mints supply rounded down, and a withdrawal burns
supply that is worth at least what it pays. So, counted in ray, what is left of the supply of an
account and what it was paid never exceed what the supply was worth at first and what was paid in
for it, in whatever order it and others deal.
-/

namespace PooledCredit

/-! ## Single reserves -/

namespace Reserve

variable {reserve reserve' : Reserve}

/-- An accrual at the moment of the last one owes the treasury nothing and changes nothing. -/
lemma accrue_settled {accrual : Accrual} {now : Nat} (hnow : reserve.updatedAt = now)
    (h : reserve.accrue now = .ok (accrual, reserve')) :
    accrual.treasuryScaled = 0 ∧ reserve' = reserve := by
  subst hnow
  obtain ⟨rfl, rfl⟩ := Prod.mk.inj (Except.ok.inj (reserve.accrue_again.symm.trans h))
  exact ⟨rfl, rfl⟩

/-- An accrual at the moment of the last one is steady. -/
lemma accrue_steady {accrual : Accrual} {now : Nat} (hnow : reserve.updatedAt = now)
    (h : reserve.accrue now = .ok (accrual, reserve')) : reserve.Steady reserve' := by
  obtain ⟨-, rfl⟩ := accrue_settled hnow h
  exact .refl _

/-- A steady change stays one when the rates are refreshed. -/
lemma steady_of_refreshRates {middle : Reserve} (hu : middle.refreshRates = .ok reserve')
    (h : reserve.Steady middle) : reserve.Steady reserve' :=
  h.trans (refreshRates_steady hu)

/-- A pull leaves the indices and the clock alone. -/
lemma pull_steady {V : Type} [Vault V] {vault vault' : V} {movement : Movement} {needed : Nat}
    (h : reserve.pull vault needed = .ok (movement, reserve', vault')) :
    reserve.Steady reserve' := by
  rcases pull_eq_ok h with ⟨-, rfl, -⟩ | ⟨_, _, received, -, -, hreceive, hu⟩
  · exact .refl _
  · exact steady_of_refreshRates hu (receive_steady hreceive)

end Reserve

/-! ## Single dealings -/

namespace Ledger

variable {ledger middle ledger' : Ledger} {asset other : Asset} {account owner : Account}
variable {amount now index : Nat}

/-- A deposit credits its account with the minted supply, after an accrual. -/
lemma deposit_credits {scaled : Nat}
    (h : ledger.deposit asset account amount now = .ok (scaled, ledger')) :
    ∃ accrual accrued reserve, ledger.accrue asset now = .ok (accrual, accrued) ∧
      accrued.reserves.get? asset = some reserve ∧
      rayDiv .down amount reserve.supplyIndex = .ok scaled ∧
      ∀ other owner, ledger'.scaledSupplyOf other owner = accrued.scaledSupplyOf other owner +
        if other = asset ∧ owner = account then scaled else 0 := by
  simp only [deposit, Ledger.reserve, bind_eq_ok, require_eq_ok, exists_const, orRefuse_eq_ok,
    pure_eq_ok, Prod.exists, Prod.mk.injEq] at h
  obtain ⟨-, _, -, _, -, _, -, accrual, accrued, ha, reserve, hr, _, hscaled, -, _, -, _, -, _, -,
    _, hcredit, rfl, rfl⟩ := h
  have hheld := credit_scaledSupplyOf hcredit
  exact ⟨accrual, accrued, reserve, ha, hr, hscaled, hheld⟩

/-- A withdrawal debits its owner, after an accrual, with supply that is worth at least what it
pays; one of the largest amount, with all that the owner holds. -/
lemma withdraw_debits {V : Type} [Vault V] {vault vault' : V} {movement : Movement} {paid : Nat}
    (h : ledger.withdraw vault asset owner amount now = .ok (paid, movement, ledger', vault')) :
    ∃ accrual accrued reserve burned, ledger.accrue asset now = .ok (accrual, accrued) ∧
      accrued.reserves.get? asset = some reserve ∧ paid * ray ≤ burned * reserve.supplyIndex ∧
      (amount = maxAmount → burned = accrued.scaledSupplyOf asset owner) ∧
      ∀ other account, ledger'.scaledSupplyOf other account +
        (if other = asset ∧ account = owner then burned else 0) =
          accrued.scaledSupplyOf other account := by
  simp only [withdraw, Ledger.reserve, bind_pure_bind, ite_bind, bind_eq_ok, require_eq_ok,
    exists_const, orRefuse_eq_ok, pure_eq_ok, Prod.exists, Prod.mk.injEq] at h
  obtain ⟨-, _, -, _, -, accrual, accrued, ha, reserve, hr, balance, hbalance, ⟨-, hle⟩, burned,
    hburned, _, _, _, -, -, _, -, _, -, _, -, _, hdebit, rfl, -, rfl, -⟩ := h
  have hleft := debit_scaledSupplyOf hdebit
  refine ⟨accrual, accrued, reserve, burned, ha, hr, burned_covers hbalance hle hburned, ?_, hleft⟩
  intro hall
  rw [if_pos hall, if_pos rfl] at hburned
  exact (pure_eq_ok.mp hburned).symm

/-- A withdrawal of the largest amount leaves its owner nothing, whatever was accrued before it. -/
lemma withdraw_max_scaledSupplyOf {V : Type} [Vault V] {vault vault' : V} {movement : Movement}
    {paid : Nat}
    (h : ledger.withdraw vault asset owner maxAmount now = .ok (paid, movement, ledger', vault')) :
    ledger'.scaledSupplyOf asset owner = 0 := by
  obtain ⟨_, accrued, _, burned, -, -, -, hall, hleft⟩ := withdraw_debits h
  have hleft := hleft asset owner
  rw [if_pos ⟨rfl, rfl⟩, hall rfl] at hleft
  omega

/-! ## The moment -/

/-- The reserve of an asset is accrued up to a moment and has the given supply index. -/
def StandsAt (ledger : Ledger) (asset : Asset) (now index : Nat) : Prop :=
  ∃ reserve, ledger.reserves.get? asset = some reserve ∧ reserve.updatedAt = now ∧
    reserve.supplyIndex = index

namespace StandsAt

/-- What an account is told to have at the moment is its scaled supply at the index, as far as that
is in range. -/
lemma supplyOf (hs : ledger.StandsAt asset now index) (account : Account) :
    ledger.supplyOf asset account now =
      fitAmount (ledger.scaledSupplyOf asset account * index / ray) := by
  obtain ⟨reserve, hr, rfl, rfl⟩ := hs
  have hindex : reserve.supplyIndexAt reserve.updatedAt = .ok reserve.supplyIndex :=
    if_pos (.inl (Nat.le_refl _))
  have hfound : ledger.reserve asset = .ok reserve := orRefuse_eq_ok.mpr hr
  simp only [Ledger.supplyOf, hfound, hindex, Bind.bind, Except.bind, rayMul, mulDiv,
    if_neg (show ray ≠ 0 by decide), Rounding.divide]

/-- An asset stands where it did after a change that keeps the indices and the clock of whatever
reserve is at the moment. -/
lemma touched (hs : ledger.StandsAt asset now index) {before after : Reserve}
    (htouch : Touches other before after ledger ledger')
    (hsteady : before.updatedAt = now → before.Steady after) :
    ledger'.StandsAt asset now index := by
  obtain ⟨reserve, hr, hnow, hindex⟩ := hs
  by_cases hother : asset = other
  · subst hother
    obtain rfl := Option.some.inj (hr.symm.trans htouch.old)
    have hsteady := hsteady hnow
    exact ⟨after, htouch.new, hsteady.updatedAt.trans hnow, hsteady.supplyIndex.trans hindex⟩
  · exact ⟨reserve, (htouch.others asset hother).trans hr, hnow, hindex⟩

/-- An accrual at the moment itself credits nobody with supply of the asset. -/
lemma accrued (hs : ledger.StandsAt asset now index) {accrual : Accrual}
    (h : ledger.accrue other now = .ok (accrual, ledger')) :
    ledger'.StandsAt asset now index ∧
      ∀ account, ledger'.scaledSupplyOf asset account = ledger.scaledSupplyOf asset account := by
  obtain ⟨before, after, htouch, ha⟩ := accrue_eq_ok h
  constructor
  · exact hs.touched htouch fun hnow => Reserve.accrue_steady hnow ha
  · intro account
    rw [(accrue_mints h).2 asset account]
    split
    · next hcredited =>
      obtain ⟨rfl, -⟩ := hcredited
      obtain ⟨reserve, hr, hnow, -⟩ := hs
      obtain rfl := Option.some.inj (hr.symm.trans htouch.old)
      rw [(Reserve.accrue_settled hnow ha).1, Nat.add_zero]
    · rfl

/-- The index of the moment is that of the reserve that is found. -/
lemma index_eq (hs : ledger.StandsAt asset now index) {reserve : Reserve}
    (hr : ledger.reserves.get? asset = some reserve) : reserve.supplyIndex = index := by
  obtain ⟨found, hfound, -, rfl⟩ := hs
  obtain rfl := Option.some.inj (hr.symm.trans hfound)
  rfl

end StandsAt

/-! ## Dealings in a row -/

/-- What a dealing pays in or out. -/
inductive Dealing where
  | deposit (asset : Asset) (account : Account) (amount : Nat)
  | withdrawal (asset : Asset) (owner : Account) (amount : Nat)
  /-- What moves nobody's supply. -/
  | other

/-- What a dealing pays in for an account. -/
def Dealing.paidIn (asset : Asset) (account : Account) : Dealing → Nat
  | .deposit asset' account' amount => if asset = asset' ∧ account = account' then amount else 0
  | _ => 0

/-- What a dealing pays out to an account. -/
def Dealing.paidOut (asset : Asset) (account : Account) : Dealing → Nat
  | .withdrawal asset' owner amount => if asset = asset' ∧ account = owner then amount else 0
  | _ => 0

/-- A successful dealing on a ledger at a moment, with any vault. -/
inductive Deals (now : Nat) (ledger : Ledger) : Dealing → Ledger → Prop where
  | deposited {ledger' : Ledger} {asset : Asset} {account : Account} {amount scaled : Nat}
      (h : ledger.deposit asset account amount now = .ok (scaled, ledger')) :
      Deals now ledger (.deposit asset account amount) ledger'
  | withdrawn {V : Type} [Vault V] {ledger' : Ledger} {vault vault' : V} {asset : Asset}
      {owner : Account} {amount paid : Nat} {movement : Movement}
      (h : ledger.withdraw vault asset owner amount now = .ok (paid, movement, ledger', vault')) :
      Deals now ledger (.withdrawal asset owner paid) ledger'
  | accrued {ledger' : Ledger} {asset : Asset} {accrual : Accrual}
      (h : ledger.accrue asset now = .ok (accrual, ledger')) : Deals now ledger .other ledger'
  | lent {V : Type} [Vault V] {ledger' : Ledger} {vault vault' : V} {asset : Asset}
      {amount scaled : Nat}
      (h : ledger.lend vault asset amount now = .ok (scaled, ledger', vault')) :
      Deals now ledger .other ledger'
  | repaid {ledger' : Ledger} {asset : Asset} {scaled amount : Nat} {repayment : Repayment}
      (h : ledger.repay asset scaled amount = .ok (repayment, ledger')) :
      Deals now ledger .other ledger'
  | writtenOff {ledger' : Ledger} {asset : Asset} {scaled loss : Nat}
      (h : ledger.writeOff asset scaled = .ok (loss, ledger')) : Deals now ledger .other ledger'

/-- Successful dealings at one moment, the first one first. -/
inductive DealsInRow (now : Nat) : Ledger → List Dealing → Ledger → Prop where
  | nil (ledger : Ledger) : DealsInRow now ledger [] ledger
  | cons {ledger middle ledger' : Ledger} {dealing : Dealing} {dealings : List Dealing}
      (first : ledger.Deals now dealing middle) (rest : DealsInRow now middle dealings ledger') :
      DealsInRow now ledger (dealing :: dealings) ledger'

/-- What dealings pay in for an account together. -/
def deposits (asset : Asset) (account : Account) (dealings : List Dealing) : Nat :=
  (dealings.map (Dealing.paidIn asset account)).sum

/-- What dealings pay out to an account together. -/
def withdrawals (asset : Asset) (account : Account) (dealings : List Dealing) : Nat :=
  (dealings.map (Dealing.paidOut asset account)).sum

/-- What an account has of an asset afterwards and what it was paid are, in ray at the index of the
moment, covered by what it had and what was paid in for it; the index is the same. -/
structure Covers (asset : Asset) (account : Account) (now index paidIn paidOut : Nat)
    (ledger ledger' : Ledger) : Prop where
  stands : ledger'.StandsAt asset now index
  covered : ledger'.scaledSupplyOf asset account * index + paidOut * ray ≤
    ledger.scaledSupplyOf asset account * index + paidIn * ray

/-- A change of no supply covers itself. -/
lemma StandsAt.covers (hs : ledger'.StandsAt asset now index)
    (hsame : ledger'.scaledSupplyOf asset account = ledger.scaledSupplyOf asset account) :
    Covers asset account now index 0 0 ledger ledger' :=
  ⟨hs, by rw [hsame]⟩

/-- Every dealing at the moment is covered. -/
lemma Deals.covers {dealing : Dealing} (h : ledger.Deals now dealing ledger')
    (hs : ledger.StandsAt asset now index) (account : Account) :
    Covers asset account now index (dealing.paidIn asset account) (dealing.paidOut asset account)
      ledger ledger' := by
  cases h with
  | @deposited _ other owner amount scaled h =>
    obtain ⟨_, _, _, _, htouch, haccrue, -, hu⟩ := deposit_eq_ok h
    obtain ⟨_, accrued, reserve, ha, hr, hscaled, hheld⟩ := deposit_credits h
    obtain ⟨hstands, hsame⟩ := hs.accrued ha
    refine ⟨hs.touched htouch fun hnow => ?_, ?_⟩
    · have hsteady := Reserve.accrue_steady hnow haccrue
      exact Reserve.steady_of_refreshRates hu (hsteady.trans ⟨rfl, rfl, rfl, Nat.le_refl _⟩)
    · rw [hheld, hsame]
      simp only [Dealing.paidIn, Dealing.paidOut]
      split
      · next hboth =>
        obtain ⟨rfl, -⟩ := hboth
        rw [hstands.index_eq hr] at hscaled
        have hminted := mulDiv_down_le hscaled
        rw [Nat.add_mul]
        omega
      · exact Nat.le_refl _
  | @withdrawn _ _ _ _ _ other owner amount paid _ h =>
    obtain ⟨_, _, _, _, _, _, htouch, haccrue, hpull, -, -, -, hu⟩ := withdraw_eq_ok h
    obtain ⟨_, accrued, reserve, burned, ha, hr, hpaid, -, hleft⟩ := withdraw_debits h
    obtain ⟨hstands, hsame⟩ := hs.accrued ha
    refine ⟨hs.touched htouch fun hnow => ?_, ?_⟩
    · have hsteady := (Reserve.accrue_steady hnow haccrue).trans (Reserve.pull_steady hpull)
      exact Reserve.steady_of_refreshRates hu (hsteady.trans ⟨rfl, rfl, rfl, Nat.le_refl _⟩)
    · rw [← hsame, ← hleft]
      simp only [Dealing.paidIn, Dealing.paidOut]
      split
      · next hboth =>
        obtain ⟨rfl, -⟩ := hboth
        rw [hstands.index_eq hr] at hpaid
        rw [Nat.add_mul]
        omega
      · exact Nat.le_refl _
  | accrued h =>
    obtain ⟨hstands, hsame⟩ := hs.accrued h
    exact hstands.covers (hsame account)
  | lent h =>
    obtain ⟨_, _, _, _, _, _, htouch, -, haccrue, hpull, -, -, hu⟩ := lend_eq_ok h
    have hstands : ledger'.StandsAt asset now index := hs.touched htouch fun hnow => by
      have hsteady := (Reserve.accrue_steady hnow haccrue).trans (Reserve.pull_steady hpull)
      exact Reserve.steady_of_refreshRates hu (hsteady.trans ⟨rfl, rfl, rfl, Nat.le_refl _⟩)
    simp only [lend, bind_eq_ok, require_eq_ok, exists_const, pure_eq_ok, Prod.exists,
      Prod.mk.injEq] at h
    obtain ⟨-, _, -, _, -, _, accrued, ha, _, -, _, _, _, -, -, _, -, _, -, _, -, _, -, -, rfl,
      -⟩ := h
    exact hstands.covers ((hs.accrued ha).2 account)
  | repaid h =>
    obtain ⟨_, _, _, htouch, -, -, -, -, -, -, -, hu⟩ := repay_eq_ok h
    have hstands : ledger'.StandsAt asset now index := hs.touched htouch fun _ =>
      Reserve.steady_of_refreshRates hu ⟨rfl, rfl, rfl, Nat.le_refl _⟩
    simp only [repay, ite_bind, bind_eq_ok, require_eq_ok, exists_const, pure_eq_ok,
      Prod.mk.injEq] at h
    obtain ⟨-, _, -, _, -, _, -, _, -, _, -, _, -, _, -, -, rfl⟩ := h
    exact hstands.covers rfl
  | writtenOff h =>
    obtain ⟨_, _, htouch, -, -, hu⟩ := writeOff_eq_ok h
    have hstands : ledger'.StandsAt asset now index := hs.touched htouch fun _ =>
      Reserve.steady_of_refreshRates hu ⟨rfl, rfl, rfl, Nat.le_add_right _ _⟩
    simp only [writeOff, bind_eq_ok, pure_eq_ok, Prod.mk.injEq] at h
    obtain ⟨_, -, _, -, _, -, _, -, _, -, -, rfl⟩ := h
    exact hstands.covers rfl

/-- Dealings in a row at the moment are covered together. -/
lemma DealsInRow.covers {dealings : List Dealing} (h : DealsInRow now ledger dealings ledger')
    (hs : ledger.StandsAt asset now index) (account : Account) :
    Covers asset account now index (deposits asset account dealings)
      (withdrawals asset account dealings) ledger ledger' := by
  induction h with
  | nil ledger => exact hs.covers rfl
  | @cons ledger middle ledger' dealing dealings first rest ih =>
    have hfirst := first.covers hs account
    have hrest := ih hfirst.stands
    refine ⟨hrest.stands, ?_⟩
    have hcovered := hfirst.covered
    have hcovered' := hrest.covered
    simp only [deposits, withdrawals, List.map_cons, List.sum_cons, Nat.add_mul] at hcovered' ⊢
    omega

/-- A deposit adds at most its amount to what its account is told to have, and at most one scaled
unit, rounded up, less. -/
lemma StandsAt.deposit_raises (hs : ledger.StandsAt asset now index) {scaled : Nat}
    (h : ledger.deposit asset account amount now = .ok (scaled, ledger')) :
    ledger.scaledSupplyOf asset account * index / ray + amount ≤
        ledger'.scaledSupplyOf asset account * index / ray + Rounding.up.divide index ray ∧
      ledger'.scaledSupplyOf asset account * index / ray ≤
        ledger.scaledSupplyOf asset account * index / ray + amount := by
  obtain ⟨_, accrued, reserve, ha, hr, hscaled, hheld⟩ := deposit_credits h
  obtain ⟨hstands, hsame⟩ := hs.accrued ha
  rw [hstands.index_eq hr] at hscaled
  have hheld := hheld asset account
  rw [if_pos ⟨rfl, rfl⟩, hsame] at hheld
  have hpos : 0 < ray := by decide
  have hminted : scaled * index ≤ amount * ray := mulDiv_down_le hscaled
  have hlost : amount * ray < (scaled + 1) * index := lt_mulDiv_down hscaled
  have hunit := le_divide_up index hpos
  rw [Nat.add_mul, Nat.one_mul] at hlost
  rw [hheld, ← Nat.add_mul_div_right _ _ hpos, ← Nat.add_mul_div_right _ _ hpos, Nat.add_mul]
  exact ⟨Nat.div_le_div_right (by omega), Nat.div_le_div_right (by omega)⟩

/-- Let a reserve be accrued up to a moment, and let accounts deposit and withdraw, borrow and repay
at that moment in any order, with any vaults. What an account is told to have at first and
afterwards are the worths `held` and `left`, as far as these are amounts, and what it was paid
together with `left` is at most `held` and what was deposited for it. After any such dealings a
deposit adds at most its amount to what its account has, and at most one scaled unit, rounded up,
less; and a withdrawal of the largest amount leaves its owner no scaled supply. -/
theorem dealings_bring_no_profit {reserve : Reserve} {dealings : List Dealing}
    (hr : ledger.reserves.get? asset = some reserve) (hnow : reserve.updatedAt = now)
    (h : DealsInRow now ledger dealings ledger') (account : Account) :
    (∃ held left, ledger.supplyOf asset account now = fitAmount held ∧
      ledger'.supplyOf asset account now = fitAmount left ∧
      withdrawals asset account dealings + left ≤ held + deposits asset account dealings) ∧
    (∀ amount scaled raised,
      ledger'.deposit asset account amount now = .ok (scaled, raised) →
      ∃ held held', ledger'.supplyOf asset account now = fitAmount held ∧
        raised.supplyOf asset account now = fitAmount held' ∧
        held + amount ≤ held' + Rounding.up.divide reserve.supplyIndex ray ∧
        held' ≤ held + amount) ∧
    ∀ (V : Type) [Vault V] (vault vault' : V) paid movement emptied,
      ledger'.withdraw vault asset account maxAmount now = .ok (paid, movement, emptied, vault') →
      emptied.scaledSupplyOf asset account = 0 := by
  have hs : ledger.StandsAt asset now reserve.supplyIndex := ⟨reserve, hr, hnow, rfl⟩
  have hcovers := h.covers hs account
  refine ⟨?bounded, ?raises, ?empties⟩
  case bounded =>
    refine ⟨_, _, hs.supplyOf account, hcovers.stands.supplyOf account, ?_⟩
    have hpos : 0 < ray := by decide
    rw [Nat.add_comm, ← Nat.add_mul_div_right _ _ hpos, ← Nat.add_mul_div_right _ _ hpos]
    exact Nat.div_le_div_right hcovers.covered
  case raises =>
    intro amount scaled raised hdeposit
    have hraised := (Deals.deposited hdeposit).covers hcovers.stands account
    exact ⟨_, _, hcovers.stands.supplyOf account, hraised.stands.supplyOf account,
      hcovers.stands.deposit_raises hdeposit⟩
  case empties =>
    intro V _ vault vault' paid movement emptied hwithdraw
    exact withdraw_max_scaledSupplyOf hwithdraw

end Ledger

namespace SmallMarket

/-- The supplier pays in 10, 100 are lent, the supplier takes 7, 50 of a debt are repaid, and the
supplier takes 3; returns what it took. -/
def trading (now : Nat) (ledger : Ledger) : Result (Nat × Ledger) := do
  let (_, ledger) ← ledger.deposit coin supplier 10 now
  let (_, ledger, _) ← ledger.lend ({} : NoVault) coin 100 now
  let (first, _, ledger, _) ← ledger.withdraw ({} : NoVault) coin supplier 7 now
  let (_, ledger) ← ledger.repay coin 40 50
  let (second, _, ledger, _) ← ledger.withdraw ({} : NoVault) coin supplier 3 now
  return (first + second, ledger)

/-- After twenty years the index is 1.162. The supplier has 1162, pays in 10, takes 10 and is left
with 1159. Another account that then pays in 200 is told to have 199, and has nothing left when it
takes them. -/
theorem trading_brings_no_profit :
    ∃ accrual ledger ledger' scaled raised paid movement emptied vault',
      lent.state.store.ledger.accrue coin (20 * year) = .ok (accrual, ledger) ∧
      trading (20 * year) ledger = .ok (10, ledger') ∧
      ledger.supplyOf coin supplier (20 * year) = .ok 1162 ∧
      ledger'.supplyOf coin supplier (20 * year) = .ok 1159 ∧ 10 + 1159 ≤ 1162 + 10 ∧
      ledger'.deposit coin founder 200 (20 * year) = .ok (scaled, raised) ∧
      raised.supplyOf coin founder (20 * year) = .ok 199 ∧ 0 + 200 ≤ 199 + 2 ∧
      raised.withdraw ({} : NoVault) coin founder maxAmount (20 * year) =
        .ok (paid, movement, emptied, vault') ∧
      emptied.scaledSupplyOf coin founder = 0 := by
  have hruns : (do
      let ledger ← Prod.snd <$> lent.state.store.ledger.accrue coin (20 * year)
      let reserve ← ledger.reserve coin
      let (taken, ledger') ← trading (20 * year) ledger
      let (_, raised) ← ledger'.deposit coin founder 200 (20 * year)
      let (_, _, _, _) ← raised.withdraw ({} : NoVault) coin founder maxAmount (20 * year)
      return [reserve.updatedAt, Rounding.up.divide reserve.supplyIndex ray, taken,
        ← ledger.supplyOf coin supplier (20 * year), ← ledger'.supplyOf coin supplier (20 * year),
        ← ledger'.supplyOf coin founder (20 * year), ← raised.supplyOf coin founder (20 * year)]) =
      .ok [20 * year, 2, 10, 1162, 1159, 0, 199] := by decide +kernel
  simp only [Ledger.reserve, bind_eq_ok, map_eq_ok, orRefuse_eq_ok, pure_eq_ok, Prod.exists,
    List.cons.injEq] at hruns
  obtain ⟨_, ⟨accrual, ledger, ha, rfl⟩, reserve, hr, taken, ledger', htrading, scaled, raised,
    hdeposit, paid, movement, emptied, vault', hwithdraw, _, hheld, _, hleft, _, hnone, _, hraised,
    hnow, hunit, rfl, rfl, rfl, rfl, rfl, -⟩ := hruns
  have htraded := htrading
  simp only [trading, bind_eq_ok, pure_eq_ok, Prod.exists, Prod.mk.injEq] at htraded
  obtain ⟨_, _, hpaysIn, _, _, _, hlend, first, _, _, _, htakes, _, _, hrepay, second, _,
    ledger', _, htakes', htaken, rfl⟩ := htraded
  have hdeals {later : List Ledger.Dealing} {last : Ledger}
      (h : Ledger.DealsInRow (20 * year) ledger' later last) :
      Ledger.DealsInRow (20 * year) ledger
        (.deposit coin supplier 10 :: .other :: .withdrawal coin supplier first :: .other ::
          .withdrawal coin supplier second :: later) last :=
    .cons (.deposited hpaysIn) (.cons (.lent hlend) (.cons (.withdrawn htakes)
      (.cons (.repaid hrepay) (.cons (.withdrawn htakes') h))))
  -- what is told is in range, so the worths are what is told
  have hworth {told worth : Nat} (h : .ok told = fitAmount worth) : worth = told :=
    (fitAmount_eq_ok.mp h.symm).2
  obtain ⟨⟨_, _, hheld', hleft', hbounded⟩, -, -⟩ :=
    Ledger.dealings_bring_no_profit hr hnow (hdeals (.nil _)) supplier
  rw [hworth (hheld.symm.trans hheld'), hworth (hleft.symm.trans hleft')] at hbounded
  have hout : first + second + 1159 ≤ 1162 + 10 := by
    simpa [Ledger.withdrawals, Ledger.deposits, Ledger.Dealing.paidIn,
      Ledger.Dealing.paidOut] using hbounded
  rw [htaken] at hout
  obtain ⟨-, hraises, -⟩ := Ledger.dealings_bring_no_profit hr hnow (hdeals (.nil _)) founder
  obtain ⟨_, _, hnone', hraised', hrise, -⟩ := hraises _ _ _ hdeposit
  rw [hworth (hnone.symm.trans hnone'), hworth (hraised.symm.trans hraised'), hunit] at hrise
  obtain ⟨-, -, hempties⟩ := Ledger.dealings_bring_no_profit hr hnow
    (hdeals (.cons (.deposited hdeposit) (.nil _))) founder
  exact ⟨accrual, ledger, ledger', scaled, raised, paid, movement, emptied, vault', ha, htrading,
    hheld, hleft, hout, hdeposit, hraised, hrise, hwithdraw, hempties _ _ _ _ _ _ hwithdraw⟩

end SmallMarket

end PooledCredit
