import PooledCredit.Custody
import PooledCredit.Proofs.Results

/-!
# What transfers do to custody

Payments move balances, the other transfers move owners. A balance *lasts* through a list of
transfers when it covers every payment out of its account in turn; then carrying the transfers
out cannot fail for want of that balance. A list of transfers is *within* some tokens when it
moves no other; the other tokens then keep their owners.
-/

namespace PooledCredit

namespace Custody

variable {custody custody' : Custody}

/-! ## Single transfers -/

/-- Setting one balance leaves the others. -/
lemma balanceOf_setBalance (custody : Custody) (asset asset' : Asset) (account account' : Account)
    (amount : Nat) :
    (custody.setBalance asset account amount).balanceOf asset' account' =
      if asset' = asset ∧ account' = account then amount
      else custody.balanceOf asset' account' := by
  simp only [balanceOf, accounts, setBalance, SortedMap.getD, SortedMap.get?_insert]
  by_cases ha : asset' = asset
  · subst ha
    simp only [if_true, Option.getD_some, SortedMap.get?_insert, true_and]
    split <;> rfl
  · simp [ha]

/-- A payment takes the amount from the source, which must have it, and gives it to the target. -/
lemma apply_pay_eq_ok {asset : Asset} {source target : Account} {amount : Nat}
    (h : custody.apply (.pay asset source target amount) = .ok custody') :
    amount ≤ custody.balanceOf asset source ∧ custody'.owners = custody.owners ∧
      ∀ asset' account, custody'.balanceOf asset' account =
        if asset' = asset then
          custody.balanceOf asset' account - (if account = source then amount else 0) +
            (if account = target then amount else 0)
        else custody.balanceOf asset' account := by
  simp only [apply, fund, bind_eq_ok, require_eq_ok, exists_const, addAmount_eq_ok,
    pure_eq_ok] at h
  obtain ⟨hle, _, ⟨-, rfl⟩, rfl⟩ := h
  refine ⟨hle, rfl, ?_⟩
  intro asset' account
  rw [balanceOf_setBalance, balanceOf_setBalance, balanceOf_setBalance]
  by_cases ha : asset' = asset
  · subst ha
    by_cases ht : account = target
    · subst ht
      by_cases hs : account = source
      · subst hs
        simp
      · simp [hs]
    · by_cases hs : account = source
      · subst hs
        simp [ht]
      · simp [ht, hs]
  · simp [ha]

/-- A handed token changes from its owner to another. -/
lemma apply_hand_eq_ok {item : Item} {source target : Account}
    (h : custody.apply (.hand item source target) = .ok custody') :
    custody.ownerOf? item = some source ∧ custody' = custody.setOwner item target := by
  simp only [apply, bind_eq_ok, require_eq_ok, exists_const, pure_eq_ok] at h
  exact ⟨h.1, h.2.symm⟩

/-- A minted token had no owner. -/
lemma apply_mint_eq_ok {item : Item} {target : Account}
    (h : custody.apply (.mint item target) = .ok custody') :
    custody.ownerOf? item = none ∧ custody' = custody.setOwner item target := by
  simp only [apply, bind_eq_ok, require_eq_ok, exists_const, pure_eq_ok] at h
  exact ⟨h.1, h.2.symm⟩

/-- A burned token had an owner. -/
lemma apply_burn_eq_ok {item : Item} (h : custody.apply (.burn item) = .ok custody') :
    custody.ownerOf? item ≠ none ∧
      custody' = { custody with owners := custody.owners.erase item } := by
  simp only [apply, bind_eq_ok, require_eq_ok, exists_const, pure_eq_ok] at h
  exact ⟨h.1, h.2.symm⟩

/-! ## Lists of transfers -/

/-- Carrying out no transfers changes nothing. -/
lemma applyAll_nil : custody.applyAll [] = .ok custody' ↔ custody = custody' := pure_eq_ok

/-- Transfers are carried out one after the other. -/
lemma applyAll_cons {transfer : Transfer} {transfers : List Transfer} :
    custody.applyAll (transfer :: transfers) = .ok custody' ↔
      ∃ middle, custody.apply transfer = .ok middle ∧ middle.applyAll transfers = .ok custody' := by
  simp only [applyAll, List.foldlM_cons, bind_eq_ok]

/-- Two lists of transfers are carried out one after the other. -/
lemma applyAll_append {before after : List Transfer} :
    custody.applyAll (before ++ after) = .ok custody' ↔
      ∃ middle, custody.applyAll before = .ok middle ∧ middle.applyAll after = .ok custody' := by
  simp only [applyAll, List.foldlM_append, bind_eq_ok]

end Custody

/-! ## Balances that last -/

/-- A balance of an account lasts through transfers and leaves at least `rest`: it covers every
payment out of the account when its turn comes, and payments to the account add to it. -/
def Lasts (asset : Asset) (account : Account) (rest : Nat) : List Transfer → Nat → Prop
  | [], balance => rest ≤ balance
  | .pay asset' source target amount :: transfers, balance =>
    if asset' = asset then
      (source = account → amount ≤ balance) ∧
        Lasts asset account rest transfers
          (balance - (if source = account then amount else 0) +
            (if target = account then amount else 0))
    else Lasts asset account rest transfers balance
  | .hand .. :: transfers, balance => Lasts asset account rest transfers balance
  | .mint .. :: transfers, balance => Lasts asset account rest transfers balance
  | .burn .. :: transfers, balance => Lasts asset account rest transfers balance

namespace Lasts

variable {asset : Asset} {account : Account} {rest balance : Nat} {transfers : List Transfer}

/-- A larger balance lasts as well. -/
lemma mono {balance' : Nat} (h : Lasts asset account rest transfers balance)
    (hle : balance ≤ balance') : Lasts asset account rest transfers balance' := by
  induction transfers generalizing balance balance' with
  | nil => exact Nat.le_trans h hle
  | cons transfer transfers ih =>
    cases transfer with
    | pay asset' source target amount =>
      simp only [Lasts] at h ⊢
      split at h
      · next heq =>
        rw [if_pos heq]
        obtain ⟨hcover, h⟩ := h
        refine ⟨fun hs => Nat.le_trans (hcover hs) hle, ih h ?_⟩
        omega
      · next hne =>
        rw [if_neg hne]
        exact ih h hle
    | hand | mint | burn => exact ih h hle

/-- A payment out of the account must be covered. -/
lemma payOut {target : Account} {amount : Nat} (hle : amount ≤ balance)
    (h : Lasts asset account rest transfers (balance - amount)) :
    Lasts asset account rest (Transfer.payment asset account target amount ++ transfers)
      balance := by
  unfold Transfer.payment
  split
  · exact h.mono (Nat.sub_le _ _)
  · next hskip =>
    have hne : target ≠ account := fun heq => hskip (.inr heq.symm)
    simpa [Lasts, hne] using ⟨hle, h⟩

/-- A payment to the account adds to the balance. -/
lemma payIn {source : Account} {amount : Nat} (hne : source ≠ account)
    (h : Lasts asset account rest transfers (balance + amount)) :
    Lasts asset account rest (Transfer.payment asset source account amount ++ transfers)
      balance := by
  unfold Transfer.payment
  split
  · next hskip =>
    rcases hskip with rfl | heq
    · exact h
    · exact absurd heq hne
  · simpa [Lasts, hne] using h

/-- A payment by another account takes nothing away. -/
lemma payAside {asset' : Asset} {source target : Account} {amount : Nat} (hne : source ≠ account)
    (h : Lasts asset account rest transfers balance) :
    Lasts asset account rest (Transfer.payment asset' source target amount ++ transfers)
      balance := by
  unfold Transfer.payment
  split
  · exact h
  · simp only [List.singleton_append, Lasts, hne, if_false, Nat.sub_zero]
    split
    · exact ⟨fun heq => heq.elim, h.mono (Nat.le_add_right _ _)⟩
    · exact h

/-- A payment of another asset does not matter. -/
lemma payElse {asset' : Asset} {source target : Account} {amount : Nat} (hne : asset' ≠ asset)
    (h : Lasts asset account rest transfers balance) :
    Lasts asset account rest (Transfer.payment asset' source target amount ++ transfers)
      balance := by
  unfold Transfer.payment
  split
  · exact h
  · simpa [Lasts, hne] using h

/-- Handing over a token does not matter. -/
lemma handover {item : Item} {source target : Account}
    (h : Lasts asset account rest transfers balance) :
    Lasts asset account rest (Transfer.handover item source target ++ transfers) balance := by
  unfold Transfer.handover
  split <;> exact h

/-- What lasts through a transfer and others still lasts through the others once the first is
carried out. -/
lemma step {custody custody' : Custody} {transfer : Transfer}
    (h : Lasts asset account rest (transfer :: transfers) (custody.balanceOf asset account))
    (hc : custody.apply transfer = .ok custody') :
    Lasts asset account rest transfers (custody'.balanceOf asset account) := by
  cases transfer with
  | pay asset' source target amount =>
    obtain ⟨-, -, hbalance⟩ := Custody.apply_pay_eq_ok hc
    rw [hbalance]
    simp only [Lasts, eq_comm] at h ⊢
    split at h
    · next heq =>
      rw [if_pos heq]
      exact h.2
    · next hne =>
      rw [if_neg hne]
      exact h
  | hand item source target =>
    obtain ⟨-, rfl⟩ := Custody.apply_hand_eq_ok hc
    exact h
  | mint item target =>
    obtain ⟨-, rfl⟩ := Custody.apply_mint_eq_ok hc
    exact h
  | burn item =>
    obtain ⟨-, rfl⟩ := Custody.apply_burn_eq_ok hc
    exact h

/-- What lasts leaves the rest in custody. -/
theorem applyAll {custody custody' : Custody}
    (h : Lasts asset account rest transfers (custody.balanceOf asset account))
    (hc : custody.applyAll transfers = .ok custody') :
    rest ≤ custody'.balanceOf asset account := by
  induction transfers generalizing custody with
  | nil =>
    obtain rfl := Custody.applyAll_nil.mp hc
    exact h
  | cons transfer transfers ih =>
    obtain ⟨middle, ht, hc⟩ := Custody.applyAll_cons.mp hc
    exact ih (h.step ht) hc

/-- What lasts covers every payment out of the account, at the moment it is carried out. -/
theorem covers {custody middle : Custody} {before after : List Transfer} {target : Account}
    {amount : Nat}
    (h : Lasts asset account rest (before ++ .pay asset account target amount :: after)
      (custody.balanceOf asset account))
    (hc : custody.applyAll before = .ok middle) : amount ≤ middle.balanceOf asset account := by
  induction before generalizing custody with
  | nil =>
    obtain rfl := Custody.applyAll_nil.mp hc
    simp only [List.nil_append, Lasts, if_true] at h
    exact h.1 trivial
  | cons transfer before ih =>
    obtain ⟨next, ht, hc⟩ := Custody.applyAll_cons.mp hc
    exact ih (h.step ht) hc

end Lasts

/-! ## Owners that stay -/

/-- The token that a transfer hands over, makes or destroys. -/
def Transfer.token? : Transfer → Option Item
  | .pay .. => none
  | .hand item .. => some item
  | .mint item _ => some item
  | .burn item => some item

/-- The transfers move no other tokens than the given ones. -/
def Within (tokens : List Item) (transfers : List Transfer) : Prop :=
  ∀ transfer ∈ transfers, ∀ token, transfer.token? = some token → token ∈ tokens

namespace Within

variable {tokens : List Item} {before after : List Transfer} {item : Item}

/-- No transfers move no token. -/
lemma nil : Within tokens [] := nofun

/-- What moves no token moves none but given ones. -/
lemma of_nil {transfers : List Transfer} (h : Within [] transfers) : Within tokens transfers :=
  fun transfer htransfer token htoken => nomatch h transfer htransfer token htoken

/-- One transfer before others. -/
lemma cons {transfer : Transfer} (h : ∀ token, transfer.token? = some token → token ∈ tokens)
    (hafter : Within tokens after) : Within tokens (transfer :: after) := by
  intro other hother
  rcases List.mem_cons.mp hother with rfl | hother
  · exact h
  · exact hafter other hother

/-- Two lists of transfers, one after the other. -/
lemma append (hbefore : Within tokens before) (hafter : Within tokens after) :
    Within tokens (before ++ after) := by
  intro transfer h
  rcases List.mem_append.mp h with h | h
  · exact hbefore transfer h
  · exact hafter transfer h

/-- A payment moves no token. -/
lemma payment {asset : Asset} {source target : Account} {amount : Nat} :
    Within tokens (Transfer.payment asset source target amount) := by
  unfold Transfer.payment
  split
  · exact nil
  · exact nil.cons nofun

/-- Handing over moves the token that is handed over. -/
lemma handover {source target : Account} (h : item ∈ tokens) :
    Within tokens (Transfer.handover item source target) := by
  unfold Transfer.handover
  split
  · exact nil
  · refine nil.cons fun token htoken => ?_
    rw [← Option.some.inj htoken]
    exact h

/-- Burning moves the token that is burned. -/
lemma burn (h : item ∈ tokens) : Within tokens [.burn item] := by
  refine nil.cons fun token htoken => ?_
  rw [← Option.some.inj htoken]
  exact h

end Within

namespace Custody

variable {custody custody' : Custody} {item token : Item} {source target : Account}

/-- Setting one owner leaves the others. -/
lemma ownerOf?_setOwner (custody : Custody) (item token : Item) (owner : Account) :
    (custody.setOwner item owner).ownerOf? token =
      if token = item then some owner else custody.ownerOf? token :=
  SortedMap.get?_insert _ _ _ _

/-- A transfer leaves the owners of all tokens but its own. -/
lemma ownerOf?_apply {transfer : Transfer} (h : custody.apply transfer = .ok custody')
    (hne : transfer.token? ≠ some token) : custody'.ownerOf? token = custody.ownerOf? token := by
  cases transfer with
  | pay asset source target amount =>
    obtain ⟨-, howners, -⟩ := apply_pay_eq_ok h
    rw [ownerOf?, howners]
    rfl
  | hand item source target =>
    obtain ⟨-, rfl⟩ := apply_hand_eq_ok h
    rw [ownerOf?_setOwner, if_neg fun heq => hne (congrArg some heq.symm)]
  | mint item target =>
    obtain ⟨-, rfl⟩ := apply_mint_eq_ok h
    rw [ownerOf?_setOwner, if_neg fun heq => hne (congrArg some heq.symm)]
  | burn item =>
    obtain ⟨-, rfl⟩ := apply_burn_eq_ok h
    exact SortedMap.get?_erase_of_ne _ fun heq => hne (congrArg some heq.symm)

/-- Transfers within some tokens leave the owners of all others. -/
theorem ownerOf?_applyAll {tokens : List Item} {transfers : List Transfer}
    (hw : Within tokens transfers) (h : custody.applyAll transfers = .ok custody')
    (hne : token ∉ tokens) : custody'.ownerOf? token = custody.ownerOf? token := by
  induction transfers generalizing custody with
  | nil =>
    obtain rfl := applyAll_nil.mp h
    rfl
  | cons transfer transfers ih =>
    obtain ⟨middle, ht, h⟩ := applyAll_cons.mp h
    rw [ih (fun other hother => hw other (List.mem_cons_of_mem _ hother)) h]
    exact ownerOf?_apply ht fun htoken => hne (hw transfer List.mem_cons_self token htoken)

/-- A token that its owner hands over belongs to the receiver. -/
lemma ownerOf?_handover (howner : custody.ownerOf? item = some source)
    (h : custody.applyAll (Transfer.handover item source target) = .ok custody') :
    custody'.ownerOf? item = some target := by
  unfold Transfer.handover at h
  split at h
  · next heq =>
    obtain rfl := applyAll_nil.mp h
    exact heq ▸ howner
  · obtain ⟨middle, hhand, h⟩ := applyAll_cons.mp h
    obtain rfl := applyAll_nil.mp h
    obtain ⟨-, rfl⟩ := apply_hand_eq_ok hhand
    rw [ownerOf?_setOwner, if_pos rfl]

end Custody

end PooledCredit
