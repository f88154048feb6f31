import PooledCredit.Price.Feeds
import PooledCredit.Proofs.Requests.Actions

/-!
# Runs

A store is reachable when successful requests lead to it from an empty store; the requests may
come in any order and from anyone, and the prices, the vault and the venue may be others at each
step. A pool is reachable under a rule when moves that the rule admits lead to it from a new
pool. What every admitted move preserves holds of every reachable pool.
-/

namespace PooledCredit

/-! ## Stores -/

namespace Store

/-- One store leads to another by a successful action of a user or an operator or by an
accrual. -/
inductive Step (store : Store) : Store → Prop where
  | user {O V N : Type} [PriceSource O] [Vault V] [Venue N] {action : UserAction} {prices : O}
      {vault : V} {venue : N} {facility : Facility V N} {caller : Account} {now : Nat}
      {reply : Reply} {effects : Effects}
      (h : action.run prices ⟨store, vault, venue⟩ caller now = .ok (reply, facility, effects)) :
      Step store facility.store
  | operator {V : Type} [Vault V] {action : OperatorAction} {roles : RoleRegister}
      {pause : PauseSwitch} {custody : Custody} {state : PoolState} {vault vault' : V}
      {caller : Account} {now : Nat} {reply : Reply} {events : EventLog}
      (h : action.run ⟨store, roles, pause, custody⟩ vault caller now =
        .ok (reply, state, vault', events)) :
      Step store state.store
  | accrual {asset : Asset} {now : Nat} {store' : Store} (h : store.accrue asset now = .ok store') :
      Step store store'

/-- The stores that a run of steps went through, the latest first. -/
inductive Trail : List Store → Prop where
  | created {settings : Settings} {store : Store} (h : Store.create settings = .ok store) :
      Trail [store]
  | stepped {store store' : Store} {past : List Store} (h : Trail (store :: past))
      (hs : Step store store') : Trail (store' :: store :: past)

/-- A store that a run of steps leads to. -/
def Reachable (store : Store) : Prop := ∃ past, Trail (store :: past)

/-- What holds of an empty store and is preserved by every step holds of every reachable
store. -/
theorem Reachable.invariant {I : Store → Prop}
    (created : ∀ settings store, Store.create settings = .ok store → I store)
    (step : ∀ store store', Reachable store → I store → Step store store' → I store')
    {store : Store} (h : Reachable store) : I store := by
  obtain ⟨past, h⟩ := h
  generalize htrail : store :: past = trail at h
  induction h generalizing store past with
  | created h =>
    cases htrail
    exact created _ _ h
  | stepped h hs ih =>
    cases htrail
    exact step _ _ ⟨_, h⟩ (ih _ rfl) hs

/-- A created store is empty. -/
lemma create_eq_ok {settings : Settings} {store : Store} (h : Store.create settings = .ok store) :
    store = {
      settings
      ledger := { treasury := settings.treasury }
      collateral := {}
      loans := {}
      board := {}
      wrappers := {} } := by
  simp only [create, bind_eq_ok, pure_eq_ok] at h
  obtain ⟨_, -, rfl⟩ := h
  rfl

end Store

/-! ## Pools -/

/-- What can happen to a pool: an action is asked for, an account is credited or a token is made
outside, or the prices, the vault and the venue are others from now on. -/
inductive Move (O V N : Type) where
  | call (call : Call)
  | fund (asset : Asset) (account : Account) (amount : Nat)
  | mint (item : Item) (owner : Account)
  | turn (prices : O) (vault : V) (venue : N)

namespace Pool

variable {O V N : Type} [PriceSource O] [Vault V] [Venue N]

/-- The pool after a move; a funding that fails changes nothing. -/
def after (pool : Pool O V N) : Move O V N → Pool O V N
  | .call call => (pool.execute call).2
  | .fund asset account amount =>
    match pool.fund asset account amount with
    | .ok funded => funded
    | .error _ => pool
  | .mint item owner => pool.mint item owner
  | .turn prices vault venue => { pool with prices, vault, venue }

/-- A pool that moves admitted by a rule lead to from a new pool. -/
inductive Reachable (rule : Pool O V N → Move O V N → Prop) : Pool O V N → Prop where
  | created {prices : O} {vault : V} {venue : N} {founder : Account} {settings : Settings}
      {now : Nat} {pool : Pool O V N}
      (h : create prices vault venue founder settings now = .ok pool) : Reachable rule pool
  | moved {pool : Pool O V N} {move : Move O V N} (h : Reachable rule pool)
      (admitted : rule pool move) : Reachable rule (pool.after move)

/-- The pool after a list of moves. -/
def follow (pool : Pool O V N) (moves : List (Move O V N)) : Pool O V N := moves.foldl after pool

/-- Every move of a list is admitted by a rule where it is made. -/
def Obeys (rule : Pool O V N → Move O V N → Prop) (pool : Pool O V N) : List (Move O V N) → Prop
  | [] => True
  | move :: moves => rule pool move ∧ Obeys rule (pool.after move) moves

/-- Whether a list of moves obeys a rule can be computed when the rule can. -/
instance instDecidableObeys {rule : Pool O V N → Move O V N → Prop}
    [∀ pool move, Decidable (rule pool move)] :
    (pool : Pool O V N) → (moves : List (Move O V N)) → Decidable (pool.Obeys rule moves)
  | _, [] => .isTrue trivial
  | pool, move :: moves =>
    @instDecidableAnd _ _ _ (instDecidableObeys (pool.after move) moves)

/-- Every list of moves obeys the rule that admits all moves. -/
lemma obeys_true (pool : Pool O V N) (moves : List (Move O V N)) :
    pool.Obeys (fun _ _ => True) moves := by
  induction moves generalizing pool with
  | nil => trivial
  | cons move moves ih => exact ⟨trivial, ih _⟩

/-- Every pool that a list of moves goes through has a property, the first and the last
included. -/
def Along (P : Pool O V N → Prop) (pool : Pool O V N) : List (Move O V N) → Prop
  | [] => P pool
  | move :: moves => P pool ∧ Along P (pool.after move) moves

/-- What holds of all pools holds along every run. -/
lemma along_of_forall {P : Pool O V N → Prop} (h : ∀ pool, P pool) (pool : Pool O V N)
    (moves : List (Move O V N)) : pool.Along P moves := by
  induction moves generalizing pool with
  | nil => exact h pool
  | cons move moves ih => exact ⟨h pool, ih _⟩

/-- What holds along a run holds at its start. -/
lemma Along.start {P : Pool O V N → Prop} {pool : Pool O V N} {moves : List (Move O V N)}
    (h : pool.Along P moves) : P pool := by
  cases moves with
  | nil => exact h
  | cons move moves => exact h.1

/-- What holds along a run holds at its end. -/
lemma Along.finish {P : Pool O V N → Prop} {pool : Pool O V N} {moves : List (Move O V N)}
    (h : pool.Along P moves) : P (pool.follow moves) := by
  induction moves generalizing pool with
  | nil => exact h
  | cons move moves ih => exact ih h.2

/-- One more move leads on from where the moves before it lead to. -/
lemma follow_concat (pool : Pool O V N) (moves : List (Move O V N)) (move : Move O V N) :
    pool.follow (moves ++ [move]) = (pool.follow moves).after move :=
  List.foldl_append

/-- What holds along a run and after one more move holds along the longer run. -/
lemma Along.concat {P : Pool O V N → Prop} {pool : Pool O V N} {moves : List (Move O V N)}
    {move : Move O V N} (h : pool.Along P moves) (hlast : P ((pool.follow moves).after move)) :
    pool.Along P (moves ++ [move]) := by
  induction moves generalizing pool with
  | nil => exact ⟨h, hlast⟩
  | cons first moves ih => exact ⟨h.1, ih h.2 hlast⟩

/-- Admitted moves lead from a reachable pool to a reachable one. -/
lemma Reachable.follow {rule : Pool O V N → Move O V N → Prop} {pool : Pool O V N}
    (h : pool.Reachable rule) {moves : List (Move O V N)} (ho : pool.Obeys rule moves) :
    (pool.follow moves).Reachable rule := by
  induction moves generalizing pool with
  | nil => exact h
  | cons move moves ih => exact ih (h.moved ho.1) ho.2

omit [PriceSource O] [Vault V] in
/-- A new pool starts with an empty store and empty custody, and its venue's account is another
than its own. -/
lemma create_eq_ok {prices : O} {vault : V} {venue : N} {founder : Account} {settings : Settings}
    {now : Nat} {pool : Pool O V N}
    (h : create prices vault venue founder settings now = .ok pool) :
    ∃ store, Store.create settings = .ok store ∧
      Venue.account pool.venue ≠ store.poolAccount ∧ pool.state.store = store ∧
      pool.state.custody = {} := by
  simp only [create, bind_eq_ok, require_eq_ok, exists_const, pure_eq_ok] at h
  obtain ⟨hne, store, hs, rfl⟩ := h
  refine ⟨store, hs, ?_, rfl, rfl⟩
  obtain rfl := Store.create_eq_ok hs
  exact hne

/-- A user's call that is to be committed ran its action, and its transfers were carried out. -/
lemma attempt_user {pool : Pool O V N} {call : Call} {action : UserAction} {commit : Commit V N}
    (haction : call.action = .user action) (h : pool.attempt call = .ok commit) :
    ∃ facility custody,
      action.run pool.prices ⟨pool.state.store, pool.vault, pool.venue⟩ call.caller call.now =
        .ok (commit.reply, facility, commit.effects) ∧
      pool.state.custody.applyAll commit.effects.transfers = .ok custody ∧
      commit.state = { pool.state with store := facility.store, custody } ∧
      commit.vault = facility.vault ∧ commit.venue = facility.venue := by
  simp only [attempt, run, haction, bind_eq_ok, require_eq_ok, exists_const, pure_eq_ok,
    Prod.exists] at h
  obtain ⟨-, _, ⟨_, -, reply, facility, effects, ha, rfl⟩, custody, hc, rfl⟩ := h
  exact ⟨facility, custody, ha, hc, rfl, rfl, rfl⟩

/-- An operator's call that is to be committed ran its action; it asks for no transfer. -/
lemma attempt_operator {pool : Pool O V N} {call : Call} {action : OperatorAction}
    {commit : Commit V N} (haction : call.action = .operator action)
    (h : pool.attempt call = .ok commit) :
    action.run pool.state pool.vault call.caller call.now =
        .ok (commit.reply, commit.state, commit.vault, commit.effects.events) ∧
      commit.venue = pool.venue ∧ commit.effects.transfers = [] := by
  simp only [attempt, run, haction, bind_eq_ok, require_eq_ok, exists_const, pure_eq_ok,
    Prod.exists] at h
  obtain ⟨-, _, ⟨reply, state, vault, events, ha, rfl⟩, custody, hc, rfl⟩ := h
  obtain rfl := pure_eq_ok.mp hc
  exact ⟨ha, rfl, rfl⟩

/-- A call that is to be committed takes effect, and any other leaves the state, the vault and the
venue alone. -/
lemma execute_attempt (pool : Pool O V N) (call : Call) :
    (∃ commit, pool.attempt call = .ok commit ∧ (pool.execute call).1 = .ok commit.reply ∧
      (pool.execute call).2.state = commit.state ∧ (pool.execute call).2.vault = commit.vault ∧
      (pool.execute call).2.venue = commit.venue) ∨
    (∀ reply, (pool.execute call).1 ≠ .ok reply) ∧ (pool.execute call).2.state = pool.state ∧
      (pool.execute call).2.vault = pool.vault ∧ (pool.execute call).2.venue = pool.venue := by
  unfold execute
  split
  · next commit h => exact .inl ⟨commit, h, rfl, rfl, rfl, rfl⟩
  · exact .inr ⟨(fun _ h => by cases h), rfl, rfl, rfl⟩
  · exact .inr ⟨(fun _ h => by cases h), rfl, rfl, rfl⟩

/-- A call either fails and leaves the state, the vault and the venue alone, or its action
succeeded: a user's action, whose transfers were carried out, or an operator's, which asks for
none. -/
lemma execute_cases (pool : Pool O V N) (call : Call) :
    ((∀ reply, (pool.execute call).1 ≠ .ok reply) ∧ (pool.execute call).2.state = pool.state ∧
      (pool.execute call).2.vault = pool.vault ∧ (pool.execute call).2.venue = pool.venue) ∨
    (∃ action reply facility effects custody, call.action = .user action ∧
      (pool.execute call).1 = .ok reply ∧
      action.run pool.prices ⟨pool.state.store, pool.vault, pool.venue⟩ call.caller call.now =
        .ok (reply, facility, effects) ∧
      pool.state.custody.applyAll effects.transfers = .ok custody ∧
      (pool.execute call).2.state = { pool.state with store := facility.store, custody } ∧
      (pool.execute call).2.vault = facility.vault ∧
      (pool.execute call).2.venue = facility.venue) ∨
    ∃ action reply state vault events, call.action = .operator action ∧
      action.run pool.state pool.vault call.caller call.now =
        .ok (reply, state, vault, events) ∧
      (pool.execute call).2.state = state ∧ (pool.execute call).2.vault = vault ∧
      (pool.execute call).2.venue = pool.venue := by
  rcases pool.execute_attempt call with ⟨commit, h, hreply, hstate, hvault, hvenue⟩ | hfailed
  · right
    cases haction : call.action with
    | user action =>
      obtain ⟨facility, custody, ha, hc, hs, hv, hn⟩ := attempt_user haction h
      exact .inl ⟨action, commit.reply, facility, commit.effects, custody, rfl, hreply, ha, hc,
        hstate.trans hs, hvault.trans hv, hvenue.trans hn⟩
    | operator action =>
      obtain ⟨ha, hn, -⟩ := attempt_operator haction h
      exact .inr ⟨action, commit.reply, commit.state, commit.vault, commit.effects.events, rfl, ha,
        hstate, hvault, hvenue.trans hn⟩
  · exact .inl hfailed

/-- What a property of pool states must withstand to be preserved by every move that a rule
admits. -/
structure Preserves (rule : Pool O V N → Move O V N → Prop) (I : PoolState → Prop) : Prop where
  user {pool : Pool O V N} {action : UserAction} {caller : Account} {now : Nat} {reply : Reply}
    {facility : Facility V N} {effects : Effects} {custody : Custody} (hr : pool.Reachable rule)
    (admitted : rule pool (.call ⟨caller, now, .user action⟩)) (hi : I pool.state)
    (done : (pool.execute ⟨caller, now, .user action⟩).1 = .ok reply)
    (h : action.run pool.prices ⟨pool.state.store, pool.vault, pool.venue⟩ caller now =
      .ok (reply, facility, effects))
    (hc : pool.state.custody.applyAll effects.transfers = .ok custody) :
    I { pool.state with store := facility.store, custody }
  operator {pool : Pool O V N} {action : OperatorAction} {caller : Account} {now : Nat}
    {reply : Reply} {state : PoolState} {vault : V} {events : EventLog} (hi : I pool.state)
    (h : action.run pool.state pool.vault caller now = .ok (reply, state, vault, events)) :
    I state
  fund {state : PoolState} {asset : Asset} {account : Account} {amount : Nat} {custody : Custody}
    (hi : I state) (h : state.custody.fund asset account amount = .ok custody) :
    I { state with custody }
  mint {pool : Pool O V N} {item : Item} {owner : Account}
    (admitted : rule pool (.mint item owner)) (hi : I pool.state) :
    I { pool.state with custody := pool.state.custody.setOwner item owner }

variable {rule : Pool O V N → Move O V N → Prop} {I : PoolState → Prop} {pool : Pool O V N}

/-- A preserved property still holds after an admitted move. -/
theorem Preserves.after (hp : Preserves rule I) (hr : pool.Reachable rule) {move : Move O V N}
    (admitted : rule pool move) (hi : I pool.state) : I (pool.after move).state := by
  cases move with
  | call call =>
    show I (pool.execute call).2.state
    rcases pool.execute_cases call with ⟨-, hs, -, -⟩ |
      ⟨action, reply, facility, effects, custody, haction, done, ha, hc, hs, -, -⟩ |
      ⟨action, reply, state, vault, events, -, ha, hs, -, -⟩
    · rw [hs]
      exact hi
    · rw [hs]
      obtain ⟨caller, now, _⟩ := call
      cases haction
      exact hp.user hr admitted hi done ha hc
    · rw [hs]
      exact hp.operator hi ha
  | fund asset account amount =>
    cases hf : pool.fund asset account amount with
    | ok funded =>
      simp only [Pool.after, hf]
      simp only [Pool.fund, bind_eq_ok, pure_eq_ok] at hf
      obtain ⟨custody, hc, rfl⟩ := hf
      exact hp.fund hi hc
    | error e =>
      simp only [Pool.after, hf]
      exact hi
  | mint item owner => exact hp.mint admitted hi
  | turn prices vault venue => exact hi

/-- What holds of a new pool and is preserved holds of every reachable pool. -/
theorem Reachable.invariant (hp : Preserves rule I)
    (created : ∀ (settings : Settings) (store : Store) (state : PoolState),
      Store.create settings = .ok store → state.store = store → state.custody = {} → I state)
    (h : pool.Reachable rule) : I pool.state := by
  induction h with
  | created h =>
    obtain ⟨store, hs, -, hstore, hcustody⟩ := create_eq_ok h
    exact created _ store _ hs hstore hcustody
  | moved h admitted ih => exact hp.after h admitted ih

/-- A move leaves the store alone or takes a step of it. -/
lemma store_step (pool : Pool O V N) (move : Move O V N) :
    (pool.after move).state.store = pool.state.store ∨
      Store.Step pool.state.store (pool.after move).state.store := by
  cases move with
  | call call =>
    show (pool.execute call).2.state.store = _ ∨
      Store.Step pool.state.store (pool.execute call).2.state.store
    rcases pool.execute_cases call with ⟨-, hs, -, -⟩ |
      ⟨action, reply, facility, effects, custody, -, -, ha, -, hs, -, -⟩ |
      ⟨action, reply, state, vault, events, -, ha, hs, -, -⟩
    · rw [hs]
      exact .inl rfl
    · rw [hs]
      exact .inr (.user ha)
    · rw [hs]
      exact .inr (.operator ha)
  | fund asset account amount =>
    simp only [Pool.after]
    cases hf : pool.fund asset account amount with
    | ok funded =>
      simp only [Pool.fund, bind_eq_ok, pure_eq_ok] at hf
      obtain ⟨_, -, rfl⟩ := hf
      exact .inl rfl
    | error e => exact .inl rfl
  | mint item owner => exact .inl rfl
  | turn prices vault venue => exact .inl rfl

/-- A move commits a user's action, or it leaves the settings, the loans and the listings alone. -/
lemma move_cases (pool : Pool O V N) (move : Move O V N) :
    (∃ call action commit facility, move = .call call ∧ call.action = .user action ∧
      pool.attempt call = .ok commit ∧
      action.run pool.prices ⟨pool.state.store, pool.vault, pool.venue⟩ call.caller call.now =
        .ok (commit.reply, facility, commit.effects) ∧
      (pool.after move).state = commit.state ∧ commit.state.store = facility.store) ∨
    (pool.after move).state.store.settings = pool.state.store.settings ∧
      (pool.after move).state.store.loans = pool.state.store.loans ∧
      (pool.after move).state.store.board = pool.state.store.board := by
  cases move with
  | call call =>
    show _ ∨ (pool.execute call).2.state.store.settings = _ ∧
      (pool.execute call).2.state.store.loans = _ ∧ (pool.execute call).2.state.store.board = _
    rcases pool.execute_attempt call with ⟨commit, h, -, hstate, -, -⟩ | ⟨-, hstate, -, -⟩
    · cases haction : call.action with
      | user action =>
        obtain ⟨facility, custody, ha, -, hs, -, -⟩ := attempt_user haction h
        exact .inl ⟨call, action, commit, facility, rfl, haction, h, ha, hstate, by rw [hs]⟩
      | operator action =>
        obtain ⟨ha, -, -⟩ := attempt_operator haction h
        obtain ⟨hsettings, hloans, hboard, -, -⟩ := OperatorAction.run_eq_ok ha
        rw [hstate]
        exact .inr ⟨hsettings, hloans, hboard⟩
    · rw [hstate]
      exact .inr ⟨rfl, rfl, rfl⟩
  | fund asset account amount =>
    simp only [Pool.after]
    cases hf : pool.fund asset account amount with
    | ok funded =>
      simp only [Pool.fund, bind_eq_ok, pure_eq_ok] at hf
      obtain ⟨_, -, rfl⟩ := hf
      exact .inr ⟨rfl, rfl, rfl⟩
    | error e => exact .inr ⟨rfl, rfl, rfl⟩
  | mint item owner => exact .inr ⟨rfl, rfl, rfl⟩
  | turn prices vault venue => exact .inr ⟨rfl, rfl, rfl⟩

/-- The stores that a list of moves goes through, the latest first, in front of those before. -/
def stores (pool : Pool O V N) (past : List Store) : List (Move O V N) → List Store
  | [] => pool.state.store :: past
  | move :: moves =>
    (pool.after move).stores
      (if (pool.after move).state.store = pool.state.store then past
        else pool.state.store :: past) moves

/-- Moves prolong a run of the store. -/
theorem trail_stores {past : List Store} (h : Store.Trail (pool.state.store :: past))
    (moves : List (Move O V N)) : Store.Trail (pool.stores past moves) := by
  induction moves generalizing pool past with
  | nil => exact h
  | cons move moves ih =>
    refine ih ?_
    split
    · next heq =>
      rw [heq]
      exact h
    · next hne => exact h.stepped ((pool.store_step move).resolve_left hne)

/-- The latest of the stores is the one that the moves lead to. -/
lemma stores_eq_cons (pool : Pool O V N) (past : List Store) (moves : List (Move O V N)) :
    ∃ earlier, pool.stores past moves = (pool.follow moves).state.store :: earlier := by
  induction moves generalizing pool past with
  | nil => exact ⟨past, rfl⟩
  | cons move moves ih => exact ih (pool.after move) _

/-- A move leads from a reachable store to a reachable one. -/
lemma reachable_after (h : pool.state.store.Reachable) (move : Move O V N) :
    (pool.after move).state.store.Reachable := by
  obtain ⟨past, htrail⟩ := h
  rcases pool.store_step move with heq | hstep
  · rw [heq]
    exact ⟨past, htrail⟩
  · exact ⟨_, htrail.stepped hstep⟩

/-- Moves lead from a reachable store to a reachable one. -/
lemma reachable_follow (h : pool.state.store.Reachable) (moves : List (Move O V N)) :
    (pool.follow moves).state.store.Reachable := by
  induction moves generalizing pool with
  | nil => exact h
  | cons move moves ih => exact ih (pool.reachable_after h move)

/-- The store of a reachable pool is reachable. -/
theorem Reachable.store (h : pool.Reachable rule) : pool.state.store.Reachable := by
  induction h with
  | created h =>
    obtain ⟨store, hs, -, rfl, -⟩ := create_eq_ok h
    exact ⟨[], .created hs⟩
  | moved h admitted ih => exact reachable_after ih _

end Pool

/-! ## A small market

A pool with one reserve and one collection, on which general statements can be tried. -/

namespace SmallMarket

/-- The founder, who also lays down collateral terms. -/
def founder : Account := Id.fill 0x01

/-- An account that supplies. -/
def supplier : Account := Id.fill 0x02

/-- An account that borrows. -/
def borrower : Account := Id.fill 0x03

/-- The asset that is lent. -/
def coin : Asset := Id.fill 0xA0

/-- The collection that is accepted as collateral. -/
def art : Collection := Id.fill 0xC0

/-- The wrapped collection of `art`. -/
def wrappedArt : Collection := Id.fill 0xC1

/-- Prices of one base unit for the asset and a thousand for each token. -/
def feeds : PriceFeeds :=
  { PriceFeeds.create founder 0 with
    assets := SortedMap.insert ∅ coin ⟨wad, 0⟩
    floors := SortedMap.insert ∅ art ⟨1000 * wad, 0⟩ }

/-- The venue, which pays 500 for every token. -/
def venue : FlatVenue := { account := Id.fill 0x7F, proceeds := 500 }

/-- The pool as it is founded. -/
def founded : Pool PriceFeeds NoVault FlatVenue where
  prices := feeds
  state := {
    store := {
      settings := {}
      ledger := { treasury := Id.fill 0xDD }
      collateral := {}
      loans := {}
      board := {}
      wrappers := {} }
    roles := .found founder 0
    pause := {}
    custody := {} }
  vault := {}
  venue
  busy := false
  log := []

/-- The founder opens the reserve and accepts the collection; supplies of 1000 and a token of the
borrower come from outside. -/
def setUp : List (Move PriceFeeds NoVault FlatVenue) :=
  [.call ⟨founder, 0, .operator (.grantRole founder .riskManager)⟩,
    .call ⟨founder, 0, .operator (.openReserve coin { decimals := 0 })⟩,
    .call ⟨founder, 0, .operator (.configureCollateral art none {})⟩,
    .call ⟨founder, 0, .operator (.registerWrapper art wrappedArt)⟩,
    .fund coin supplier 1000,
    .mint ⟨art, 1⟩ borrower]

/-- The supplier deposits its funds and the borrower takes 300 of them on its token. -/
def lending : List (Move PriceFeeds NoVault FlatVenue) :=
  [.call ⟨supplier, 0, .user (.deposit coin 1000 supplier 0)⟩,
    .call ⟨borrower, 0, .user (.borrow coin 300 ⟨art, 1⟩ borrower 0)⟩]

/-- The pool with a loan of 300. -/
def lent : Pool PriceFeeds NoVault FlatVenue := founded.follow (setUp ++ lending)

/-- The founded pool is a new pool. -/
lemma founded_created :
    Pool.create feeds ({} : NoVault) venue founder {} 0 = .ok founded := by
  decide +kernel

/-- Any moves lead from the founded pool to a reachable one. -/
lemma founded_reachable (moves : List (Move PriceFeeds NoVault FlatVenue)) :
    (founded.follow moves).Reachable fun _ _ => True :=
  (Pool.Reachable.created founded_created).follow (Pool.obeys_true _ _)

/-- The pool with the loan is reachable. -/
lemma lent_reachable : lent.Reachable fun _ _ => True := founded_reachable _

/-- Any moves lead from the pool with the loan to a reachable one. -/
lemma lent_follow_reachable (moves : List (Move PriceFeeds NoVault FlatVenue)) :
    (lent.follow moves).Reachable fun _ _ => True :=
  lent_reachable.follow (Pool.obeys_true _ _)

/-- The stores that moves of the founded pool go through are a run, which ends with the store that
they lead to. -/
lemma founded_trail (moves : List (Move PriceFeeds NoVault FlatVenue)) :
    ∃ past, founded.stores [] moves = (founded.follow moves).state.store :: past ∧
      Store.Trail ((founded.follow moves).state.store :: past) := by
  have hcreated : Store.create {} = .ok founded.state.store := by decide +kernel
  have htrail := Pool.trail_stores (.created hcreated) moves
  obtain ⟨past, hstores⟩ := founded.stores_eq_cons [] moves
  rw [hstores] at htrail
  exact ⟨past, hstores, htrail⟩

end SmallMarket

end PooledCredit
