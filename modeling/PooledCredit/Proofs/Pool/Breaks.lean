import PooledCredit.Proofs.Loans.Counts
import PooledCredit.Proofs.Pool.Atomicity
import PooledCredit.Proofs.Requests.Refusals
import PooledCredit.Yield.Simulated

/-!
# When a call breaks off

A pool whose vault and venue do not break off answers every call or refuses it, at any moment and
for any amount, with one exception: a liquidation, or a sale, of a loan whose bid window is still
open and ends with the last moment of the clock. The caller would be told the moment after it. The
exception is exact, and because a call that breaks off leaves the pool busy, after it the pool
refuses every call for good.
-/

namespace PooledCredit

/-- A failure that is a refusal: nothing broke off. -/
def Failure.IsRefusal (failure : Failure) : Prop := ∃ cause, failure = .refused cause

/-- What fails only with refusals fails only as every refusal is allowed to. -/
lemma FailsOnly.of_refusal {α : Type} {p : Failure → Prop} {x : Result α}
    (h : FailsOnly Failure.IsRefusal x) (hp : ∀ cause : Refusal, p (.refused cause)) :
    FailsOnly p x := by
  intro e he
  obtain ⟨cause, rfl⟩ := h e he
  exact hp cause

/-! ## Partners that answer -/

/-- What is asked of the vault and the venue of a pool is done or refused. -/
structure Pool.PartnersAnswer {O V N : Type} [Vault V] [Venue N] (pool : Pool O V N) : Prop where
  place : ∀ asset amount, FailsOnly Failure.IsRefusal (Vault.place pool.vault asset amount)
  release : ∀ asset amount, FailsOnly Failure.IsRefusal (Vault.release pool.vault asset amount)
  sell : ∀ item asset least, FailsOnly Failure.IsRefusal (Venue.sell pool.venue item asset least)

/-- The simulated vault takes what it is given, as long as it fits. -/
lemma SimulatedVault.failsOnly_place (vault : SimulatedVault) (asset : Asset) (amount : Nat) :
    FailsOnly Failure.IsRefusal (Vault.place vault asset amount) :=
  (failsOnly_addAmount ⟨_, rfl⟩ _ _).bind fun _ _ => failsOnly_pure _

/-- The simulated vault gives back no more than it is asked for and than it holds, and realizes no
more than its pending losses. -/
lemma SimulatedVault.failsOnly_release (vault : SimulatedVault) (asset : Asset) (amount : Nat) :
    FailsOnly Failure.IsRefusal (Vault.release vault asset amount) := by
  refine FailsOnly.bind ?_ fun _ _ => failsOnly_pure _
  refine (failsOnly_bareSub (Nat.min_le_left _ _)).bind fun _ _ => ?_
  refine (failsOnly_bareSub ((Nat.min_le_right _ _).trans (Nat.min_le_left _ _))).bind fun _ _ => ?_
  refine (failsOnly_bareSub (Nat.min_le_right _ _)).bind fun _ _ => ?_
  exact (failsOnly_addAmount ⟨_, rfl⟩ _ _).bind fun _ _ => failsOnly_pure _

/-- The venue of quotes sells or refuses to. -/
lemma QuotedVenue.failsOnly_sell (venue : QuotedVenue) (item : Item) (asset : Asset) (least : Nat) :
    FailsOnly Failure.IsRefusal (Venue.sell venue item asset least) := by
  refine FailsOnly.bind (failsOnly_require fun _ => ⟨_, rfl⟩) fun _ _ => ?_
  refine FailsOnly.bind (failsOnly_orRefuse fun _ => ⟨_, rfl⟩) fun _ _ => ?_
  exact FailsOnly.bind (failsOnly_require fun _ => ⟨_, rfl⟩) fun _ _ => failsOnly_pure _

namespace Pool

/-- A simulated vault and a venue of quotes answer. -/
lemma partnersAnswer_simulated {O : Type} (pool : Pool O SimulatedVault QuotedVenue) :
    pool.PartnersAnswer where
  place := pool.vault.failsOnly_place
  release := pool.vault.failsOnly_release
  sell := pool.venue.failsOnly_sell

/-- The absent vault and a venue of one price answer. -/
lemma partnersAnswer_flat {O : Type} (pool : Pool O NoVault FlatVenue) : pool.PartnersAnswer where
  place _ _ := failsOnly_refuse ⟨_, rfl⟩
  release _ _ := failsOnly_ok _
  sell _ _ _ := failsOnly_ok _

/-! ## Calls that break off -/

variable {O V N : Type} [PriceSource O] [Vault V] [Venue N] {pool : Pool O V N}
variable {rule : Pool O V N → Move O V N → Prop}

/-- A call is to settle a loan while its bid window is open, and the window ends with the clock. -/
def SettlesAtClockEnd (pool : Pool O V N) (call : Call) : Prop :=
  ∃ action, call.action = .user action ∧
    action.SettlesAtClockEnd pool.prices pool.state.store call.now

/-- In a reachable pool whose partners answer, the action of a call is done or refused, unless it
is to settle a loan at the end of the clock. -/
lemma Reachable.failsOnly_run {p : Failure → Prop} (hp : ∀ cause : Refusal, p (.refused cause))
    (h : pool.Reachable rule) (hpartners : pool.PartnersAnswer) {call : Call}
    (hend : pool.SettlesAtClockEnd call → p (.fault .addition)) : FailsOnly p (pool.run call) := by
  have hledger := h.store.sound
  have hplace (asset : Asset) (amount : Nat) := (hpartners.place asset amount).of_refusal hp
  have hrelease (asset : Asset) (amount : Nat) := (hpartners.release asset amount).of_refusal hp
  have hsell (item : Item) (asset : Asset) (least : Nat) :=
    (hpartners.sell item asset least).of_refusal hp
  unfold run
  split
  · next action haction =>
    have hrun := UserAction.refuses_run hp hledger h.store.collateral_valid h.store.inStep hrelease
      hsell call.caller fun hsettles => hend ⟨action, haction, hsettles⟩
    refine FailsOnly.bind (failsOnly_require fun _ => hp _) fun _ _ => ?_
    exact hrun.bind fun _ _ => failsOnly_pure _
  · next action haction =>
    have hrun := action.refuses_run hp hledger hplace hrelease call.caller call.now
    exact hrun.bind fun _ _ => failsOnly_pure _

/-- In a reachable pool whose partners answer, nothing but a sum breaks off, and only in settling a
loan at the end of the clock. -/
lemma Reachable.of_fault (h : pool.Reachable rule) (hpartners : pool.PartnersAnswer) {call : Call}
    {cause : Fault} (hrun : pool.run call = .error (.fault cause)) :
    cause = .addition ∧ pool.SettlesAtClockEnd call := by
  have honly : FailsOnly
      (fun e => ∀ cause, e = .fault cause → cause = .addition ∧ pool.SettlesAtClockEnd call)
      (pool.run call) := by
    refine h.failsOnly_run ?_ hpartners fun hsettles cause hsum => ?_
    · intro _ _ hfault
      cases hfault
    obtain rfl := Failure.fault.inj hsum
    exact ⟨rfl, hsettles⟩
  exact honly _ hrun cause rfl

/-- In a pool that is not paused, a call to settle a loan at the end of the clock breaks off. -/
lemma SettlesAtClockEnd.run_eq {call : Call} (h : pool.SettlesAtClockEnd call)
    (hrunning : pool.state.pause.paused = false) : pool.run call = .error (.fault .addition) := by
  obtain ⟨action, haction, hsettles⟩ := h
  have hgoes : pool.state.pause.requireRunning = .ok () := require_eq_ok.mpr hrunning
  simp only [run, haction, hgoes, hsettles.run_eq, Bind.bind, Except.bind]

/-- The action of a user breaks off only while the pool is not paused. -/
lemma running_of_fault {call : Call} {action : UserAction} {cause : Fault}
    (haction : call.action = .user action) (h : pool.run call = .error (.fault cause)) :
    pool.state.pause.paused = false := by
  by_contra hpaused
  have hstops : pool.state.pause.requireRunning = .error (.refused .paused) := if_neg hpaused
  simp only [run, haction, hstops, Bind.bind, Except.bind] at h
  cases h

/-- In a reachable pool whose vault and venue do not break off, a call breaks off exactly when it
comes to a pool that is neither busy nor paused and is to settle a loan whose bid window is still
open and ends with the last moment of the clock; what breaks it off is the sum with which it would
be told the next moment. After such a call the pool refuses every call, whatever happens in
between. -/
theorem Reachable.breaksOff_iff (h : pool.Reachable rule) (hpartners : pool.PartnersAnswer)
    (call : Call) :
    (∀ cause, (pool.execute call).1 = .error (.fault cause) ↔
      cause = .addition ∧ pool.busy = false ∧ pool.state.pause.paused = false ∧
        pool.SettlesAtClockEnd call) ∧
    (pool.busy = false → pool.state.pause.paused = false → pool.SettlesAtClockEnd call →
      ∀ (moves : List (Move O V N)) (later : Call),
        (((pool.execute call).2.follow moves).execute later).1 = .error (.refused .busy)) := by
  have hbreaks (hfree : pool.busy = false) (hrunning : pool.state.pause.paused = false)
      (hsettles : pool.SettlesAtClockEnd call) :
      (pool.execute call).1 = .error (.fault .addition) := by
    have hattempt : pool.attempt call = .error (.fault .addition) := by
      rw [attempt_of_free hfree, hsettles.run_eq hrunning]
      rfl
    rw [execute, hattempt]
  refine ⟨fun cause => ⟨fun hfault => ?_, ?_⟩, fun hfree hrunning hsettles moves later => ?_⟩
  · obtain ⟨hfree, hrun, -⟩ := execute_of_fault hfault
    obtain ⟨rfl, action, haction, hsettles⟩ := h.of_fault hpartners hrun
    have hrunning := running_of_fault haction hrun
    exact ⟨rfl, hfree, hrunning, action, haction, hsettles⟩
  · rintro ⟨rfl, hfree, hrunning, hsettles⟩
    exact hbreaks hfree hrunning hsettles
  · obtain ⟨-, -, hleft⟩ := execute_of_fault (hbreaks hfree hrunning hsettles)
    have hbusy : (pool.execute call).2.busy = true := by rw [hleft]
    rw [execute_of_busy (follow_busy hbusy moves)]

end Pool

namespace SmallMarket

/-- A moment from which a bid window of the usual length ends with the clock. -/
def lateHour : Nat := maxClock - ({} : CollateralTerms).bidWindow

/-- The prices of the small market, published late; a token is worth the given amount. -/
def lateFeeds (floor : Nat) : PriceFeeds :=
  { feeds with
    assets := SortedMap.insert ∅ coin ⟨wad, lateHour⟩
    floors := SortedMap.insert ∅ art ⟨floor * wad, lateHour⟩ }

/-- Late on, the founder sets up the market, the borrower takes 300 on its token, the price of the
token falls, and the supplier bids what is owed. -/
def lateAuction : List (Move PriceFeeds NoVault FlatVenue) :=
  [.turn (lateFeeds 1000) {} SmallMarket.venue,
    .call ⟨founder, lateHour, .operator (.grantRole founder .riskManager)⟩,
    .call ⟨founder, lateHour, .operator (.openReserve coin { decimals := 0 })⟩,
    .call ⟨founder, lateHour, .operator (.configureCollateral art none {})⟩,
    .call ⟨founder, lateHour, .operator (.registerWrapper art wrappedArt)⟩,
    .fund coin supplier 1300,
    .mint ⟨art, 1⟩ borrower,
    .call ⟨supplier, lateHour, .user (.deposit coin 1000 supplier 0)⟩,
    .call ⟨borrower, lateHour, .user (.borrow coin 300 ⟨art, 1⟩ borrower 0)⟩,
    .turn (lateFeeds 300) {} SmallMarket.venue,
    .call ⟨supplier, lateHour, .user (.bid ⟨art, 1⟩ 300 supplier)⟩]

/-- Somebody wants the loan settled right after the bid. -/
def settlingLate : Call := ⟨founder, lateHour, .user (.liquidate ⟨art, 1⟩ 0)⟩

/-- The liquidation breaks off instead of being refused, and then not even the founder can pause the
pool, whatever happens. -/
theorem lateAuction_breaks_off :
    let pool := founded.follow lateAuction
    (pool.execute settlingLate).1 = .error (.fault .addition) ∧
      ∀ (moves : List (Move PriceFeeds NoVault FlatVenue)) (now : Nat),
        (((pool.execute settlingLate).2.follow moves).execute
          ⟨founder, now, .operator (.setPause true)⟩).1 = .error (.refused .busy) := by
  intro pool
  have hr : pool.Reachable fun _ _ => True := founded_reachable _
  have hfree : pool.busy = false ∧ pool.state.pause.paused = false := by decide +kernel
  obtain ⟨loan, hopen, hauction, hitem, bid, hbid, hstart⟩ := show
    ∃ loan ∈ pool.state.store.loans.openLoan? ⟨art, 1⟩, loan.status = .auction ∧
      loan.item = ⟨art, 1⟩ ∧ ∃ bid ∈ loan.bid, bid.startedAt = lateHour by decide +kernel
  have hconfig : pool.state.store.collateral.config loan.item =
      .ok ⟨{}, true, false, lateHour⟩ := by
    rw [hitem]
    decide +kernel
  have hcloses : pool.state.store.ClosesWithClock ⟨art, 1⟩ lateHour := by
    refine ⟨loan, bid, _, hopen, hauction, hbid, hconfig, ?_, ?_⟩
    · rw [hstart]
      decide
    · decide
  have hsettles : pool.SettlesAtClockEnd settlingLate := ⟨_, rfl, .liquidate hcloses⟩
  obtain ⟨hiff, hlater⟩ :=
    Pool.Reachable.breaksOff_iff hr pool.partnersAnswer_flat settlingLate
  refine ⟨(hiff .addition).mpr ⟨rfl, hfree.1, hfree.2, hsettles⟩, fun moves now => ?_⟩
  exact hlater hfree.1 hfree.2 hsettles moves _

end SmallMarket

end PooledCredit
