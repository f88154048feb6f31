import PooledCredit.Proofs.Custody
import PooledCredit.Proofs.Runs
import PooledCredit.Yield.Scripted

/-!
# Calls take effect wholly or not at all

`Pool.Executes` says what a call can do to a pool, with one constructor for each way it can end:
the pool is busy, the action is refused or breaks off, one of its transfers cannot be honoured
after those before it were carried out, or everything is committed. A refused call changes
nothing, whichever point it reached. A committed one changes the pool as the action left its
working copies, carries out the transfers in their order and adds exactly its events to the log.
After a call that broke off, the pool is as it was but busy, and then it stays as it is for good.
-/

namespace PooledCredit

/-! ## Transfers, one after the other -/

namespace Custody

/-- Transfers lead from one custody to another when each of them is carried out on what those
before it left. -/
inductive Carries : Custody → List Transfer → Custody → Prop where
  | done (custody : Custody) : Carries custody [] custody
  | next {custody middle custody' : Custody} {transfer : Transfer} {transfers : List Transfer}
      (first : custody.apply transfer = .ok middle) (rest : Carries middle transfers custody') :
      Carries custody (transfer :: transfers) custody'

variable {custody custody' : Custody} {transfers : List Transfer}

/-- A list of transfers succeeds when they lead from one custody to another. -/
lemma carries_of_applyAll (h : custody.applyAll transfers = .ok custody') :
    custody.Carries transfers custody' := by
  induction transfers generalizing custody with
  | nil =>
    obtain rfl := applyAll_nil.mp h
    exact .done custody
  | cons transfer transfers ih =>
    obtain ⟨middle, hfirst, hrest⟩ := applyAll_cons.mp h
    exact .next hfirst (ih hrest)

/-- A transfer is carried out, or it is refused for no reason of timing; it does not break off. -/
lemma failsOnly_apply (custody : Custody) (transfer : Transfer) :
    FailsOnly (fun e => ∃ cause, e = .refused cause ∧ cause.category ≠ .timing)
      (custody.apply transfer) := by
  cases transfer with
  | pay asset source target amount =>
    refine FailsOnly.bind (failsOnly_require fun _ => ⟨_, rfl, nofun⟩) fun _ _ => ?_
    exact (failsOnly_fitAmount ⟨_, rfl, nofun⟩ _).bind fun _ _ => failsOnly_pure _
  | hand item source target =>
    exact FailsOnly.bind (failsOnly_require fun _ => ⟨_, rfl, nofun⟩) fun _ _ => failsOnly_pure _
  | mint item target =>
    exact FailsOnly.bind (failsOnly_require fun _ => ⟨_, rfl, nofun⟩) fun _ _ => failsOnly_pure _
  | burn item =>
    exact FailsOnly.bind (failsOnly_require fun _ => ⟨_, rfl, nofun⟩) fun _ _ => failsOnly_pure _

/-- A list of transfers that fails is refused at its first transfer that cannot be honoured. -/
lemma applyAll_eq_error {e : Failure} (h : custody.applyAll transfers = .error e) :
    ∃ before transfer after middle cause, transfers = before ++ transfer :: after ∧
      custody.Carries before middle ∧ middle.apply transfer = .error e ∧ e = .refused cause := by
  induction transfers generalizing custody with
  | nil => cases h
  | cons transfer transfers ih =>
    cases hfirst : custody.apply transfer with
    | error e' =>
      have hstops : custody.applyAll (transfer :: transfers) = .error e' := by
        rw [applyAll, List.foldlM_cons, hfirst]
        rfl
      obtain rfl := Except.error.inj (hstops.symm.trans h)
      obtain ⟨cause, rfl, -⟩ := failsOnly_apply custody transfer e' hfirst
      exact ⟨[], transfer, transfers, custody, cause, rfl, .done custody, hfirst, rfl⟩
    | ok next =>
      have hrest : next.applyAll transfers = .error e := by
        rw [applyAll, List.foldlM_cons, hfirst] at h
        exact h
      obtain ⟨before, stop, after, middle, cause, rfl, hcarries, hstop, rfl⟩ := ih hrest
      exact ⟨transfer :: before, stop, after, middle, cause, rfl, .next hfirst hcarries, hstop, rfl⟩

end Custody

/-! ## What a call can do -/

namespace Pool

variable {O V N : Type} [PriceSource O] [Vault V] [Venue N]

/-- The ways in which a call can end: what it answers and the pool it leaves. -/
inductive Executes (pool : Pool O V N) (call : Call) : Result Reply → Pool O V N → Prop where
  /-- While an action is under way, every call is refused. -/
  | busy (held : pool.busy = true) : Executes pool call (.error (.refused .busy)) pool
  /-- The action is refused. -/
  | refused {cause : Refusal} (free : pool.busy = false)
      (runs : pool.run call = .error (.refused cause)) :
      Executes pool call (.error (.refused cause)) pool
  /-- The action succeeds, but one of its transfers cannot be honoured. -/
  | stopped {commit : Commit V N} {before after : List Transfer} {transfer : Transfer}
      {middle : Custody} {cause : Refusal} (free : pool.busy = false)
      (runs : pool.run call = .ok commit)
      (asks : commit.effects.transfers = before ++ transfer :: after)
      (carries : pool.state.custody.Carries before middle)
      (stops : middle.apply transfer = .error (.refused cause)) :
      Executes pool call (.error (.refused cause)) pool
  /-- The action breaks off. -/
  | brokeOff {cause : Fault} (free : pool.busy = false)
      (runs : pool.run call = .error (.fault cause)) :
      Executes pool call (.error (.fault cause)) { pool with busy := true }
  /-- The action succeeds and its transfers are carried out. -/
  | committed {commit : Commit V N} {custody : Custody} (free : pool.busy = false)
      (runs : pool.run call = .ok commit)
      (carries : pool.state.custody.Carries commit.effects.transfers custody) :
      Executes pool call (.ok commit.reply) { pool with
        state := { commit.state with custody }
        vault := commit.vault
        venue := commit.venue
        log := pool.log ++ commit.effects.events }

/-- An action leaves custody to its transfers. -/
lemma run_custody {pool : Pool O V N} {call : Call} {commit : Commit V N}
    (h : pool.run call = .ok commit) : commit.state.custody = pool.state.custody := by
  unfold run at h
  split at h
  · simp only [bind_eq_ok, pure_eq_ok, Prod.exists] at h
    obtain ⟨_, -, reply, facility, effects, -, rfl⟩ := h
    rfl
  · simp only [bind_eq_ok, pure_eq_ok, Prod.exists] at h
    obtain ⟨reply, state, vault, events, ha, rfl⟩ := h
    obtain ⟨-, -, -, hcustody, -⟩ := OperatorAction.run_eq_ok ha
    exact hcustody

/-- A call is attempted in three stages: it waits for no other call, its action runs, and the
transfers are carried out in custody. -/
lemma attempt_of_free {pool : Pool O V N} (hfree : pool.busy = false) (call : Call) :
    pool.attempt call = do
      let commit ← pool.run call
      let custody ← commit.state.custody.applyAll commit.effects.transfers
      return { commit with state := { commit.state with custody } } := by
  unfold attempt
  rw [hfree]
  rfl

/-- While the pool is busy, a call is refused and changes nothing. -/
lemma execute_of_busy {pool : Pool O V N} (hbusy : pool.busy = true) (call : Call) :
    pool.execute call = (.error (.refused .busy), pool) := by
  have hattempt : pool.attempt call = .error (.refused .busy) := by
    unfold attempt
    rw [hbusy]
    rfl
  rw [execute, hattempt]

/-- Every call ends in one of these ways. -/
theorem execute_executes (pool : Pool O V N) (call : Call) :
    pool.Executes call (pool.execute call).1 (pool.execute call).2 := by
  cases hbusy : pool.busy with
  | true =>
    rw [execute_of_busy hbusy]
    exact .busy hbusy
  | false =>
    have hattempt := attempt_of_free hbusy call
    cases hrun : pool.run call with
    | error e =>
      rw [hrun] at hattempt
      have hfails : pool.attempt call = .error e := hattempt
      rw [execute, hfails]
      cases e with
      | refused cause => exact .refused hbusy hrun
      | fault cause => exact .brokeOff hbusy hrun
    | ok commit =>
      rw [hrun] at hattempt
      cases hall : commit.state.custody.applyAll commit.effects.transfers with
      | error e =>
        have hfails : pool.attempt call = .error e := by
          refine hattempt.trans ?_
          simp only [Bind.bind, Except.bind, hall]
        rw [run_custody hrun] at hall
        obtain ⟨before, transfer, after, middle, cause, hasks, hcarries, hstops, rfl⟩ :=
          Custody.applyAll_eq_error hall
        rw [execute, hfails]
        exact .stopped hbusy hrun hasks hcarries hstops
      | ok custody =>
        have hdone : pool.attempt call =
            .ok { commit with state := { commit.state with custody } } := by
          refine hattempt.trans ?_
          simp only [Bind.bind, Except.bind, hall]
          rfl
        rw [run_custody hrun] at hall
        have hcommits := Executes.committed hbusy hrun (Custody.carries_of_applyAll hall)
        rw [execute, hdone]
        exact hcommits

/-! ## After a call that broke off -/

variable {pool : Pool O V N}

/-- A call that breaks off found the pool free, broke off in its action and leaves the pool as it was
but busy. -/
lemma execute_of_fault {call : Call} {cause : Fault}
    (h : (pool.execute call).1 = .error (.fault cause)) :
    pool.busy = false ∧ pool.run call = .error (.fault cause) ∧
      (pool.execute call).2 = { pool with busy := true } := by
  have hexecutes := pool.execute_executes call
  rw [h] at hexecutes
  generalize (pool.execute call).2 = left at hexecutes ⊢
  cases hexecutes with
  | brokeOff free runs => exact ⟨free, runs, rfl⟩

/-- A move leaves a busy pool busy. -/
lemma after_busy (hbusy : pool.busy = true) (move : Move O V N) :
    (pool.after move).busy = true := by
  cases move with
  | call call =>
    show (pool.execute call).2.busy = true
    rw [execute_of_busy hbusy]
    exact hbusy
  | fund asset account amount =>
    cases hf : pool.fund asset account amount with
    | ok funded =>
      simp only [after, hf]
      simp only [fund, bind_eq_ok, pure_eq_ok] at hf
      obtain ⟨custody, -, rfl⟩ := hf
      exact hbusy
    | error e =>
      simp only [after, hf]
      exact hbusy
  | mint item owner => exact hbusy
  | turn prices vault venue => exact hbusy

/-- Moves leave a busy pool busy. -/
lemma follow_busy (hbusy : pool.busy = true) (moves : List (Move O V N)) :
    (pool.follow moves).busy = true := by
  induction moves generalizing pool with
  | nil => exact hbusy
  | cons move moves ih => exact ih (after_busy hbusy move)

/-- Calls leave a busy pool as it is. -/
lemma follow_calls_of_busy (hbusy : pool.busy = true) (calls : List Call) :
    pool.follow (calls.map .call) = pool := by
  induction calls with
  | nil => rfl
  | cons call calls ih =>
    have hafter : pool.after (.call call) = pool := congrArg Prod.snd (execute_of_busy hbusy call)
    calc pool.follow ((call :: calls).map .call)
      _ = (pool.after (.call call)).follow (calls.map .call) := rfl
      _ = pool.follow (calls.map .call) := by rw [hafter]
      _ = pool := ih

/-- A call that is refused leaves the whole pool as it was. A call that is answered takes effect as
its action left the working copies, with the transfers carried out in their order on custody as it
was, and adds exactly the events of its action to the log. When the action breaks off, the pool is
as it was but busy: whatever happens then, every later call is refused and changes nothing, and
any number of calls leaves the pool as it is. -/
theorem execute_atomic (pool : Pool O V N) (call : Call) :
    (∀ cause, (pool.execute call).1 = .error (.refused cause) → (pool.execute call).2 = pool) ∧
    (∀ reply, (pool.execute call).1 = .ok reply →
      ∃ commit custody, pool.run call = .ok commit ∧ reply = commit.reply ∧
        pool.state.custody.Carries commit.effects.transfers custody ∧
        (pool.execute call).2 = { pool with
          state := { commit.state with custody }
          vault := commit.vault
          venue := commit.venue
          log := pool.log ++ commit.effects.events }) ∧
    ∀ cause, (pool.execute call).1 = .error (.fault cause) →
      pool.run call = .error (.fault cause) ∧ (pool.execute call).2 = { pool with busy := true } ∧
      (∀ (moves : List (Move O V N)) (later : Call),
        ((pool.execute call).2.follow moves).execute later =
          (.error (.refused .busy), (pool.execute call).2.follow moves)) ∧
      ∀ calls : List Call, (pool.execute call).2.follow (calls.map .call) =
        { pool with busy := true } := by
  have hexecutes := pool.execute_executes call
  generalize (pool.execute call).1 = result, (pool.execute call).2 = pool' at hexecutes ⊢
  cases hexecutes with
  | busy | refused | stopped => exact ⟨fun _ _ => rfl, nofun, nofun⟩
  | @committed commit custody free runs carries =>
    refine ⟨nofun, fun reply hreply => ?_, nofun⟩
    exact ⟨commit, custody, runs, (Except.ok.inj hreply).symm, carries, rfl⟩
  | @brokeOff cause free runs =>
    refine ⟨nofun, nofun, fun cause' hcause => ?_⟩
    obtain rfl := Failure.fault.inj (Except.error.inj hcause)
    refine ⟨runs, rfl, fun moves later => ?_, fun calls => follow_calls_of_busy rfl calls⟩
    exact execute_of_busy (follow_busy rfl moves) later

end Pool

namespace SmallMarket

/-- The pool with a loan of 300 and a vault that breaks off when it is asked for liquidity. -/
def strained : Pool PriceFeeds ScriptedVault FlatVenue where
  prices := feeds
  state := lent.state
  vault := { answers := [.breakOff], reported := ⟨0, 0⟩, depositFails := false }
  venue := SmallMarket.venue
  busy := false
  log := []

/-- The founder places half of the liquidity of 700 in the vault. -/
def investing : List (Move PriceFeeds ScriptedVault FlatVenue) :=
  [.call ⟨founder, 0, .operator (.setVaultShare coin 5000)⟩,
    .call ⟨founder, 0, .operator (.rebalance coin)⟩]

/-- The supplier takes an amount out. -/
def taking (amount : Nat) : Call := ⟨supplier, 0, .user (.withdraw coin amount supplier)⟩

/-- More than the supplier has is refused without a trace; 300, which the reserve has at hand, are
paid out; but for 600 the vault is asked and breaks off, after which no pause, nor anything else, is
ever accepted. -/
theorem investing_atomic :
    let pool := strained.follow investing
    (pool.execute (taking 1200)).2 = pool ∧
    (∃ commit, pool.run (taking 300) = .ok commit ∧
      (pool.execute (taking 300)).2.log = pool.log ++ commit.effects.events ∧
      (pool.execute (taking 300)).2.state.custody.balanceOf coin supplier = 300) ∧
    (pool.execute (taking 600)).2 = { pool with busy := true } ∧
    ∀ (moves : List (Move PriceFeeds ScriptedVault FlatVenue)) (now : Nat),
      (((pool.execute (taking 600)).2.follow moves).execute
        ⟨founder, now, .operator (.setPause true)⟩).1 = .error (.refused .busy) := by
  intro pool
  have hrefused : (pool.execute (taking 1200)).1 = .error (.refused (.balanceTooLow 1000 1200)) := by
    decide +kernel
  have hpaid : (pool.execute (taking 300)).1 = .ok (.amount 300) := by decide +kernel
  have hbroken : (pool.execute (taking 600)).1 =
      .error (.fault (.collaborator "strategy fault")) := by decide +kernel
  have hbalance : (pool.execute (taking 300)).2.state.custody.balanceOf coin supplier = 300 := by
    decide +kernel
  refine ⟨(Pool.execute_atomic pool (taking 1200)).1 _ hrefused, ?_, ?_⟩
  · obtain ⟨commit, custody, hrun, -, -, hleft⟩ :=
      (Pool.execute_atomic pool (taking 300)).2.1 _ hpaid
    have hlog := congrArg Pool.log hleft
    exact ⟨commit, hrun, hlog, hbalance⟩
  · obtain ⟨-, hleft, hlater, -⟩ := (Pool.execute_atomic pool (taking 600)).2.2 _ hbroken
    refine ⟨hleft, fun moves now => ?_⟩
    rw [hlater moves]

end SmallMarket

end PooledCredit
