import Mathlib.Algebra.BigOperators.Group.List.Basic
import Mathlib.Logic.Function.Basic
import PooledCredit.Proofs.Custody
import PooledCredit.Proofs.Runs
import PooledCredit.Proofs.Totals

/-!
# The history of custody

Custody changes in three ways: a transfer of a committed action is carried out, an account is
credited from outside, or the owner of a token that was made outside is recorded. `Entry` is one
such change and `Pool.history` lists those of a run. All of custody can be read off this list: what
all accounts hold together grows by what came from outside and by nothing else, a balance is the
sum of what flowed to and from its account and never falls below zero on the way, and a token passes
from owner to owner as `Conveys` says.
-/

namespace PooledCredit

/-- One change of custody. -/
inductive Entry where
  /-- A transfer of a committed action is carried out. -/
  | moved (transfer : Transfer)
  /-- An account is credited with an amount that comes from outside. -/
  | funded (asset : Asset) (account : Account) (amount : Nat)
  /-- The owner of a token that was made outside is recorded. -/
  | made (item : Item) (owner : Account)
deriving DecidableEq

namespace Entry

/-- How much of an asset an entry brings in from outside. -/
def received (asset : Asset) : Entry → Nat
  | funded asset' _ amount => if asset' = asset then amount else 0
  | moved _ | made .. => 0

/-- What an entry adds to the balance of an account; what it takes is negative. -/
def flow (asset : Asset) (account : Account) : Entry → Int
  | moved (.pay asset' source target amount) =>
    if asset' = asset then
      (if target = account then (amount : Int) else 0) - if source = account then (amount : Int) else 0
    else 0
  | funded asset' account' amount => if asset' = asset ∧ account' = account then amount else 0
  | moved (.hand ..) | moved (.mint ..) | moved (.burn ..) | made .. => 0

end Entry

/-- Entries lead from one table of owners to another. A token is handed over only by its owner, made
only while nobody owns it and destroyed only while somebody does; the owner of a token that was made
outside is recorded as told; and nothing else concerns the owners. -/
def Conveys : (Item → Option Account) → List Entry → (Item → Option Account) → Prop
  | owners, [], owners' => owners' = owners
  | owners, .moved (.hand item source target) :: entries, owners' =>
    owners item = some source ∧ Conveys (Function.update owners item (some target)) entries owners'
  | owners, .moved (.mint item target) :: entries, owners' =>
    owners item = none ∧ Conveys (Function.update owners item (some target)) entries owners'
  | owners, .moved (.burn item) :: entries, owners' =>
    (∃ owner, owners item = some owner) ∧
      Conveys (Function.update owners item none) entries owners'
  | owners, .made item owner :: entries, owners' =>
    Conveys (Function.update owners item (some owner)) entries owners'
  | owners, .moved (.pay ..) :: entries, owners' | owners, .funded .. :: entries, owners' =>
    Conveys owners entries owners'

/-! ## Single entries -/

namespace Custody

variable {custody custody' : Custody}

/-- What all accounts together hold of an asset. -/
def heldOf (custody : Custody) (asset : Asset) : Nat := (custody.accounts asset).total id

/-- A balance is its account's part of what all accounts hold. -/
lemma part_accounts (custody : Custody) (asset : Asset) (account : Account) :
    SortedMap.part id ((custody.accounts asset).get? account) =
      custody.balanceOf asset account := by
  unfold balanceOf SortedMap.getD
  cases (custody.accounts asset).get? account <;> rfl

/-- Setting a balance replaces it in what all accounts hold. -/
lemma heldOf_setBalance (custody : Custody) (asset other : Asset) (account : Account)
    (amount : Nat) :
    (custody.setBalance asset account amount).heldOf other +
        (if other = asset then custody.balanceOf asset account else 0) =
      custody.heldOf other + if other = asset then amount else 0 := by
  have haccounts : (custody.setBalance asset account amount).accounts other =
      if other = asset then (custody.accounts asset).insert account amount
      else custody.accounts other := by
    simp only [accounts, setBalance, SortedMap.getD, SortedMap.get?_insert]
    split <;> rfl
  rw [heldOf, haccounts]
  split
  · next hother =>
    have htotal := SortedMap.total_insert id (custody.accounts asset) account amount
    rw [part_accounts] at htotal
    rw [heldOf, hother]
    exact htotal
  · rfl

/-- Crediting an account from outside adds to what all accounts hold. -/
lemma heldOf_fund {asset : Asset} {account : Account} {amount : Nat}
    (h : custody.fund asset account amount = .ok custody') (other : Asset) :
    custody'.heldOf other = custody.heldOf other + if other = asset then amount else 0 := by
  simp only [fund, bind_eq_ok, addAmount_eq_ok, pure_eq_ok] at h
  obtain ⟨_, ⟨-, rfl⟩, rfl⟩ := h
  have hset := custody.heldOf_setBalance asset other account
    (custody.balanceOf asset account + amount)
  split at hset
  · next hother =>
    rw [if_pos hother]
    omega
  · next hother =>
    rw [if_neg hother]
    exact hset

/-- A transfer leaves what all accounts hold together: what a payment takes from one account it
gives to another. -/
lemma heldOf_apply {transfer : Transfer} (h : custody.apply transfer = .ok custody')
    (asset : Asset) : custody'.heldOf asset = custody.heldOf asset := by
  cases transfer with
  | pay asset' source target amount =>
    simp only [apply, bind_eq_ok, require_eq_ok, exists_const] at h
    obtain ⟨hle, h⟩ := h
    have htaken := custody.heldOf_setBalance asset' asset source
      (custody.balanceOf asset' source - amount)
    have hgiven := heldOf_fund h asset
    by_cases hasset : asset = asset'
    · rw [if_pos hasset, if_pos hasset] at htaken
      rw [if_pos hasset] at hgiven
      omega
    · rw [if_neg hasset, if_neg hasset] at htaken
      rw [if_neg hasset] at hgiven
      omega
  | hand item source target =>
    obtain ⟨-, rfl⟩ := apply_hand_eq_ok h
    rfl
  | mint item target =>
    obtain ⟨-, rfl⟩ := apply_mint_eq_ok h
    rfl
  | burn item =>
    obtain ⟨-, rfl⟩ := apply_burn_eq_ok h
    rfl

/-- Enters a change. -/
def enter (custody : Custody) : Entry → Result Custody
  | .moved transfer => custody.apply transfer
  | .funded asset account amount => custody.fund asset account amount
  | .made item owner => .ok (custody.setOwner item owner)

/-- An entry adds to what all accounts hold what it brings in. -/
lemma heldOf_enter {entry : Entry} (h : custody.enter entry = .ok custody') (asset : Asset) :
    custody'.heldOf asset = custody.heldOf asset + entry.received asset := by
  cases entry with
  | moved transfer => exact heldOf_apply h asset
  | funded asset' account amount =>
    rw [heldOf_fund h, Entry.received]
    simp only [eq_comm]
  | made item owner =>
    obtain rfl := Except.ok.inj h
    rfl

/-- An entry adds to a balance what flows to its account. -/
lemma balanceOf_enter {entry : Entry} (h : custody.enter entry = .ok custody') (asset : Asset)
    (account : Account) :
    (custody'.balanceOf asset account : Int) =
      custody.balanceOf asset account + entry.flow asset account := by
  cases entry with
  | moved transfer =>
    cases transfer with
    | pay asset' source target amount =>
      obtain ⟨hle, -, hbalance⟩ := apply_pay_eq_ok h
      rw [hbalance, Entry.flow]
      by_cases hasset : asset = asset'
      · subst hasset
        by_cases hsource : account = source
        · subst hsource
          simp only [if_true, eq_comm]
          split <;> omega
        · simp only [if_true, hsource, Ne.symm hsource, if_false, eq_comm (a := target)]
          split <;> omega
      · simp [hasset, Ne.symm hasset]
    | hand item source target =>
      obtain ⟨-, rfl⟩ := apply_hand_eq_ok h
      simp [Entry.flow, balanceOf, accounts, setOwner]
    | mint item target =>
      obtain ⟨-, rfl⟩ := apply_mint_eq_ok h
      simp [Entry.flow, balanceOf, accounts, setOwner]
    | burn item =>
      obtain ⟨-, rfl⟩ := apply_burn_eq_ok h
      simp [Entry.flow, balanceOf, accounts]
  | funded asset' account' amount =>
    simp only [enter, fund, bind_eq_ok, addAmount_eq_ok, pure_eq_ok] at h
    obtain ⟨_, ⟨-, rfl⟩, rfl⟩ := h
    rw [balanceOf_setBalance, Entry.flow]
    by_cases hboth : asset = asset' ∧ account = account'
    · obtain ⟨rfl, rfl⟩ := hboth
      simp
    · simp [hboth, eq_comm]
  | made item owner =>
    obtain rfl := Except.ok.inj h
    simp [Entry.flow, balanceOf, accounts, setOwner]

/-- Recording an owner updates the table of owners. -/
lemma ownerOf?_setOwner_eq (custody : Custody) (item : Item) (owner : Account) :
    (custody.setOwner item owner).ownerOf? =
      Function.update custody.ownerOf? item (some owner) := by
  funext token
  rw [ownerOf?_setOwner, Function.update_apply]

/-- What later entries convey, they convey after the entry before them as well. -/
lemma conveys_enter {entry : Entry} {entries : List Entry} {owners : Item → Option Account}
    (h : custody.enter entry = .ok custody') (hrest : Conveys custody'.ownerOf? entries owners) :
    Conveys custody.ownerOf? (entry :: entries) owners := by
  cases entry with
  | moved transfer =>
    cases transfer with
    | pay asset source target amount =>
      obtain ⟨-, howners, -⟩ := apply_pay_eq_ok h
      have hsame : custody'.ownerOf? = custody.ownerOf? := by
        funext token
        rw [ownerOf?, howners, ← ownerOf?]
      rwa [hsame] at hrest
    | hand item source target =>
      obtain ⟨howner, rfl⟩ := apply_hand_eq_ok h
      rw [ownerOf?_setOwner_eq] at hrest
      exact ⟨howner, hrest⟩
    | mint item target =>
      obtain ⟨hnone, rfl⟩ := apply_mint_eq_ok h
      rw [ownerOf?_setOwner_eq] at hrest
      exact ⟨hnone, hrest⟩
    | burn item =>
      obtain ⟨howned, rfl⟩ := apply_burn_eq_ok h
      have herased : { custody with owners := custody.owners.erase item }.ownerOf? =
          Function.update custody.ownerOf? item none := by
        funext token
        rw [Function.update_apply]
        split
        · next htoken =>
          rw [htoken]
          exact SortedMap.get?_erase_self _ _
        · next htoken => exact SortedMap.get?_erase_of_ne _ htoken
      rw [herased] at hrest
      exact ⟨Option.ne_none_iff_exists'.mp howned, hrest⟩
  | funded asset account amount =>
    simp only [enter, fund, bind_eq_ok, pure_eq_ok] at h
    obtain ⟨_, -, rfl⟩ := h
    exact hrest
  | made item owner =>
    obtain rfl := Except.ok.inj h
    rw [ownerOf?_setOwner_eq] at hrest
    exact hrest

/-! ## Lists of entries -/

/-- Entries lead from one custody to another when each of them is entered into what those before it
left. -/
inductive Records : Custody → List Entry → Custody → Prop where
  | done (custody : Custody) : Records custody [] custody
  | next {custody middle custody' : Custody} {entry : Entry} {entries : List Entry}
      (first : custody.enter entry = .ok middle) (rest : Records middle entries custody') :
      Records custody (entry :: entries) custody'

namespace Records

variable {middle : Custody} {entries before after : List Entry}

/-- Two lists of entries, one after the other. -/
lemma append (hbefore : custody.Records before middle) (hafter : middle.Records after custody') :
    custody.Records (before ++ after) custody' := by
  induction hbefore with
  | done custody => exact hafter
  | next first rest ih => exact .next first (ih hafter)

/-- What leads through two lists of entries leads through the first of them. -/
lemma split (h : custody.Records (before ++ after) custody') :
    ∃ middle, custody.Records before middle ∧ middle.Records after custody' := by
  induction before generalizing custody with
  | nil => exact ⟨custody, .done custody, h⟩
  | cons entry before ih =>
    cases h with
    | next first rest =>
      obtain ⟨middle, hbefore, hafter⟩ := ih rest
      exact ⟨middle, .next first hbefore, hafter⟩

/-- Transfers that are carried out are entered. -/
lemma of_applyAll {transfers : List Transfer} (h : custody.applyAll transfers = .ok custody') :
    custody.Records (transfers.map .moved) custody' := by
  induction transfers generalizing custody with
  | nil =>
    obtain rfl := applyAll_nil.mp h
    exact .done custody
  | cons transfer transfers ih =>
    obtain ⟨middle, hfirst, hrest⟩ := applyAll_cons.mp h
    exact .next hfirst (ih hrest)

/-- What all accounts hold together grows by what the entries bring in. -/
theorem heldOf (h : custody.Records entries custody') (asset : Asset) :
    custody'.heldOf asset =
      custody.heldOf asset + (entries.map (Entry.received asset)).sum := by
  induction h with
  | done custody => rfl
  | next first rest ih =>
    rw [ih, heldOf_enter first, List.map_cons, List.sum_cons, Nat.add_assoc]

/-- A balance changes by what the entries let flow to its account. -/
theorem balanceOf (h : custody.Records entries custody') (asset : Asset) (account : Account) :
    (custody'.balanceOf asset account : Int) =
      custody.balanceOf asset account + (entries.map (Entry.flow asset account)).sum := by
  induction h with
  | done custody => simp
  | next first rest ih =>
    rw [ih, balanceOf_enter first, List.map_cons, List.sum_cons, Int.add_assoc]

/-- On the way no balance falls below zero. -/
theorem covered (h : custody.Records (before ++ after) custody') (asset : Asset)
    (account : Account) :
    0 ≤ (custody.balanceOf asset account : Int) +
      (before.map (Entry.flow asset account)).sum := by
  obtain ⟨middle, hbefore, -⟩ := h.split
  rw [← hbefore.balanceOf]
  exact Int.natCast_nonneg _

/-- Tokens pass from owner to owner as the entries convey them. -/
theorem conveys (h : custody.Records entries custody') :
    Conveys custody.ownerOf? entries custody'.ownerOf? := by
  induction h with
  | done custody => rfl
  | next first rest ih => exact conveys_enter first ih

end Records

end Custody

/-! ## Runs -/

namespace Pool

variable {O V N : Type} [PriceSource O] [Vault V] [Venue N]

/-- The transfers that a call has carried out; none unless it is committed. -/
def carried (pool : Pool O V N) (call : Call) : List Transfer :=
  match pool.attempt call with
  | .ok commit => commit.effects.transfers
  | .error _ => []

/-- What a move enters into custody: the transfers of an action that is committed, a funding that
succeeds, or the owner of a token that was made outside. -/
def entries (pool : Pool O V N) : Move O V N → List Entry
  | .call call => (pool.carried call).map .moved
  | .fund asset account amount =>
    match pool.state.custody.fund asset account amount with
    | .ok _ => [.funded asset account amount]
    | .error _ => []
  | .mint item owner => [.made item owner]
  | .turn .. => []

/-- What a list of moves enters into custody. -/
def history (pool : Pool O V N) : List (Move O V N) → List Entry
  | [] => []
  | move :: moves => pool.entries move ++ (pool.after move).history moves

/-- What a call has carried out leads from custody before it to custody after it. -/
lemma applyAll_carried (pool : Pool O V N) (call : Call) :
    pool.state.custody.applyAll (pool.carried call) =
      .ok (pool.execute call).2.state.custody := by
  unfold carried execute
  cases hattempt : pool.attempt call with
  | error e => cases e <;> rfl
  | ok commit =>
    cases haction : call.action with
    | user action =>
      obtain ⟨facility, custody, -, hall, hstate, -, -⟩ := attempt_user haction hattempt
      simp only [hstate]
      exact hall
    | operator action =>
      obtain ⟨hrun, -, hnone⟩ := attempt_operator haction hattempt
      obtain ⟨-, -, -, hcustody, -⟩ := OperatorAction.run_eq_ok hrun
      simp only [hnone, hcustody]
      rfl

/-- A move enters its entries. -/
lemma records_after (pool : Pool O V N) (move : Move O V N) :
    pool.state.custody.Records (pool.entries move) (pool.after move).state.custody := by
  cases move with
  | call call => exact .of_applyAll (pool.applyAll_carried call)
  | fund asset account amount =>
    simp only [entries, after, fund]
    cases hfund : pool.state.custody.fund asset account amount with
    | error e => exact .done _
    | ok custody => exact .next hfund (.done _)
  | mint item owner => exact .next rfl (.done _)
  | turn prices vault venue => exact .done _

/-- A run enters its history. -/
lemma records_follow (pool : Pool O V N) (moves : List (Move O V N)) :
    pool.state.custody.Records (pool.history moves) (pool.follow moves).state.custody := by
  induction moves generalizing pool with
  | nil => exact .done _
  | cons move moves ih => exact (pool.records_after move).append (ih (pool.after move))

/-- Custody over any run. What all accounts together hold of an asset grows by what was funded of it
and by nothing else, so that an action leaves it as it is; a balance is what it was at the start and
what has flowed to and from its account, and at no point of the history is it below zero; and every
token has the owner to whom the history conveyed it. -/
theorem custody_accounted (pool : Pool O V N) (moves : List (Move O V N)) :
    (∀ asset, (pool.follow moves).state.custody.heldOf asset =
      pool.state.custody.heldOf asset +
        ((pool.history moves).map (Entry.received asset)).sum) ∧
    (∀ call asset,
      (pool.execute call).2.state.custody.heldOf asset = pool.state.custody.heldOf asset) ∧
    (∀ asset account,
      ((pool.follow moves).state.custody.balanceOf asset account : Int) =
        pool.state.custody.balanceOf asset account +
          ((pool.history moves).map (Entry.flow asset account)).sum) ∧
    (∀ asset account before after, pool.history moves = before ++ after →
      0 ≤ (pool.state.custody.balanceOf asset account : Int) +
        (before.map (Entry.flow asset account)).sum) ∧
    Conveys pool.state.custody.ownerOf? (pool.history moves)
      (pool.follow moves).state.custody.ownerOf? := by
  have hrecords := pool.records_follow moves
  refine ⟨hrecords.heldOf, fun call asset => ?_, hrecords.balanceOf,
    fun asset account before after hsplit => ?_, hrecords.conveys⟩
  · have hheld := (pool.records_after (.call call)).heldOf asset
    have hnothing : ((pool.entries (.call call)).map (Entry.received asset)).sum = 0 := by
      simp [entries, Function.comp_def, Entry.received]
    rw [hnothing] at hheld
    exact hheld
  · rw [hsplit] at hrecords
    exact hrecords.covered asset account

end Pool

namespace SmallMarket

/-- What is entered into custody up to the first loan. -/
def lendingHistory : List Entry :=
  [.funded coin supplier 1000,
    .made ⟨art, 1⟩ borrower,
    .moved (.pay coin supplier founded.state.store.poolAccount 1000),
    .moved (.hand ⟨art, 1⟩ borrower founded.state.store.poolAccount),
    .moved (.mint ⟨wrappedArt, 1⟩ borrower),
    .moved (.pay coin founded.state.store.poolAccount borrower 300)]

/-- Up to the first loan, all accounts together hold what the supplier was funded with, the borrower
holds what it was paid, and the pledged token and the wrapped one have the owners they were conveyed
to. -/
theorem lent_accounted :
    founded.history (setUp ++ lending) = lendingHistory ∧
    lent.state.custody.heldOf coin = 1000 ∧
    lent.state.custody.balanceOf coin borrower = 300 ∧
    lent.state.custody.ownerOf? ⟨art, 1⟩ = some founded.state.store.poolAccount ∧
    lent.state.custody.ownerOf? ⟨wrappedArt, 1⟩ = some borrower := by
  have hhistory : founded.history (setUp ++ lending) = lendingHistory := by decide +kernel
  have hreceived : (lendingHistory.map (Entry.received coin)).sum = 1000 := by decide +kernel
  have hflow : (lendingHistory.map (Entry.flow coin borrower)).sum = 300 := by decide +kernel
  obtain ⟨hheld, -, hbalance, -, hconveys⟩ := founded.custody_accounted (setUp ++ lending)
  rw [hhistory] at hheld hbalance hconveys
  have hpaid := hbalance coin borrower
  rw [hflow] at hpaid
  obtain ⟨-, -, hlast⟩ := hconveys
  refine ⟨hhistory, (hheld coin).trans (congrArg _ hreceived), Int.ofNat.inj hpaid,
    (congrFun hlast ⟨art, 1⟩).trans ?_, (congrFun hlast ⟨wrappedArt, 1⟩).trans ?_⟩
  · decide +kernel
  · decide +kernel

end SmallMarket

end PooledCredit
