import Mathlib.Tactic.Ring
import PooledCredit.Proofs.Prices.Deviation

/-!
# Which prices are published

The feeds of assets, the floors and the appraisals are kept apart, but one rule decides about a
price for any of them: it comes from a publisher while the feeds are active, it is positive, and it
lies within the deviation bound of the price that it replaces. The distance is computed with
saturation; since the bound in force is at most the whole price, a distance that saturates is
refused. A price that is accepted changes its own feed and nothing else and is told with the price
before it, and so a feed that is not cleared is led from any price to a later one by the prices
accepted in between, each within its bound of the one before.
-/

namespace PooledCredit

/-! ## Feeds and their quotes -/

/-- A feed: of an asset, of the floor of a collection, or of the appraisal of a token. -/
inductive Feed where
  | asset (asset : Asset)
  | floor (collection : Collection)
  | appraisal (item : Item)
deriving DecidableEq

/-- What a publication in a feed tells. -/
def Feed.event (feed : Feed) (old price now : Nat) : Event :=
  match feed with
  | .asset a => .priceUpdated a none old price now
  | .floor c => .priceUpdated c none old price now
  | .appraisal item => .priceUpdated item.collection (some item.token) old price now

/-- The publication of a price in a feed. -/
def Feed.publication (feed : Feed) (price : Nat) : Publication :=
  match feed with
  | .asset a => .asset a price
  | .floor c => .floor c price
  | .appraisal item => .appraisal item price

namespace PriceFeeds

/-- The latest quote of a feed, whether or not the feeds are active. -/
def quote? (feeds : PriceFeeds) : Feed → Option Quote
  | .asset asset => feeds.assets.get? asset
  | .floor collection => feeds.floors.get? collection
  | .appraisal item => feeds.appraisals.get? item

/-- The latest price of a feed, which is zero for a new feed. -/
def priceOf (feeds : PriceFeeds) (feed : Feed) : Nat := (feeds.quote? feed).elim 0 Quote.price

/-- Writes a quote to a feed. -/
def setQuote (feeds : PriceFeeds) (feed : Feed) (quote : Quote) : PriceFeeds :=
  match feed with
  | .asset asset => { feeds with assets := feeds.assets.insert asset quote }
  | .floor collection => { feeds with floors := feeds.floors.insert collection quote }
  | .appraisal item => { feeds with appraisals := feeds.appraisals.insert item quote }

/-- Publishes a price in a feed. -/
def publishIn (feeds : PriceFeeds) (caller : Account) (feed : Feed) (price now : Nat) :
    Result (Event × PriceFeeds) :=
  match feed with
  | .asset asset => feeds.updateAsset caller asset price now
  | .floor collection => feeds.updateFloor caller collection price now
  | .appraisal item => feeds.updateAppraisal caller item price now

variable {feeds feeds' : PriceFeeds} {feed other : Feed} {quote : Quote} {caller : Account}
variable {price now : Nat} {event : Event}

/-- Writing to a feed gives it the quote and concerns no other feed. -/
lemma quote?_setQuote :
    (feeds.setQuote feed quote).quote? other =
      if other = feed then some quote else feeds.quote? other := by
  cases feed with
  | asset asset => cases other <;> simp [setQuote, quote?, SortedMap.get?_insert]
  | floor collection => cases other <;> simp [setQuote, quote?, SortedMap.get?_insert]
  | appraisal item => cases other <;> simp [setQuote, quote?, SortedMap.get?_insert]

@[simp] lemma setQuote_roles : (feeds.setQuote feed quote).roles = feeds.roles := by
  cases feed <;> rfl

@[simp] lemma setQuote_active : (feeds.setQuote feed quote).active = feeds.active := by
  cases feed <;> rfl

@[simp] lemma setQuote_maxDeviation :
    (feeds.setQuote feed quote).maxDeviation = feeds.maxDeviation := by
  cases feed <;> rfl

/-- The quotes of sound feeds have positive prices. -/
lemma Sound.quote_positive (hs : feeds.Sound) (h : feeds.quote? feed = some quote) :
    quote.price ≠ 0 := by
  cases feed with
  | asset asset => exact hs.assets asset quote h
  | floor collection => exact hs.floors collection quote h
  | appraisal item => exact hs.appraisals item quote h

/-- The deviation bound of sound feeds is below the largest number. -/
lemma Sound.maxDeviation_lt (hs : feeds.Sound) : feeds.maxDeviation < maxClock :=
  hs.bounded.trans_lt (by decide)

end PriceFeeds

/-! ## One publication -/

/-- How far the price of a later quote lies from that of an earlier one. -/
def Quote.apart (before after : Quote) : Nat :=
  (after.price - before.price) + (before.price - after.price)

/-- A deviation is within a bound below the largest number when it is computed without saturation
and the move itself is within the bound. -/
lemma Quote.deviation_le_iff {before after : Quote} {bound : Nat} (hbound : bound < maxClock) :
    deviation before.price after.price ≤ bound ↔
      before.apart after * fullShare < amountBound ∧ before.movedTo after ≤ bound := by
  constructor
  · intro h
    refine ⟨?_, movedTo_le_of_deviation h hbound⟩
    by_contra hlarge
    have hsaturated : deviation before.price after.price = maxClock := if_neg hlarge
    exact absurd hbound (Nat.not_lt.mpr (hsaturated ▸ h))
  · rintro ⟨hfits, hmoved⟩
    have hexact : deviation before.price after.price = min (before.movedTo after) maxClock :=
      if_pos hfits
    exact hexact ▸ (Nat.min_le_left _ _).trans hmoved

/-- When a price is published in a set of feeds, and what is written then. -/
lemma publish_eq_ok_iff {κ : Type} [Ord κ] [Std.TransOrd κ] {quotes quotes' : SortedMap κ Quote}
    {key : κ} {price now bound old : Nat} :
    publish quotes key price now bound = .ok (old, quotes') ↔
      price ≠ 0 ∧
      (∀ before, quotes.get? key = some before →
        before.price = 0 ∨ deviation before.price price ≤ bound) ∧
      (quotes.get? key).elim 0 Quote.price = old ∧ quotes.insert key ⟨price, now⟩ = quotes' := by
  simp only [publish, bind_eq_ok, require_eq_ok, exists_const, pure_eq_ok, Prod.mk.injEq]
  cases quotes.get? key with
  | none => simp
  | some before => simp

namespace PriceFeeds

variable {feeds feeds' : PriceFeeds} {feed other : Feed} {quote : Quote} {caller : Account}
variable {price now : Nat} {event : Event}

/-- A caller passes as a publisher when it may publish and the feeds are active. -/
lemma requirePublisher_eq_ok {u : Unit} :
    feeds.requirePublisher caller = .ok u ↔
      feeds.roles.hasPermission caller .updatePrice = true ∧ feeds.active = true := by
  simp only [requirePublisher, RoleRegister.requirePermission, bind_eq_ok, require_eq_ok,
    exists_const]

/-- When a publisher's price gets into one of the sets of feeds, and what is told and put there. -/
lemma publisher_eq_ok {κ : Type} [Ord κ] [Std.TransOrd κ] (quotes : SortedMap κ Quote) (key : κ)
    (tell : Nat → Event) (put : SortedMap κ Quote → PriceFeeds) :
    (do
      feeds.requirePublisher caller
      let (old, quotes) ← publish quotes key price now feeds.maxDeviation
      return (tell old, put quotes) : Result (Event × PriceFeeds)) = .ok (event, feeds') ↔
    (feeds.roles.hasPermission caller .updatePrice = true ∧ feeds.active = true ∧ price ≠ 0 ∧
      ∀ before, quotes.get? key = some before →
        before.price = 0 ∨ deviation before.price price ≤ feeds.maxDeviation) ∧
    tell ((quotes.get? key).elim 0 Quote.price) = event ∧
      put (quotes.insert key ⟨price, now⟩) = feeds' := by
  simp only [bind_eq_ok, requirePublisher_eq_ok, exists_const, pure_eq_ok, Prod.exists,
    publish_eq_ok_iff, Prod.mk.injEq]
  constructor
  · rintro ⟨⟨hpermitted, hactive⟩, _, _, ⟨hprice, hnear, rfl, rfl⟩, htold, hput⟩
    exact ⟨⟨hpermitted, hactive, hprice, hnear⟩, htold, hput⟩
  · rintro ⟨⟨hpermitted, hactive, hprice, hnear⟩, htold, hput⟩
    exact ⟨⟨hpermitted, hactive⟩, _, _, ⟨hprice, hnear, rfl, rfl⟩, htold, hput⟩

/-- One rule decides about a price for any feed. -/
lemma publishIn_eq_ok :
    feeds.publishIn caller feed price now = .ok (event, feeds') ↔
      (feeds.roles.hasPermission caller .updatePrice = true ∧ feeds.active = true ∧ price ≠ 0 ∧
        ∀ before, feeds.quote? feed = some before →
          before.price = 0 ∨ deviation before.price price ≤ feeds.maxDeviation) ∧
      feed.event (feeds.priceOf feed) price now = event ∧
        feeds.setQuote feed ⟨price, now⟩ = feeds' := by
  cases feed with
  | asset asset =>
    exact publisher_eq_ok feeds.assets asset (Feed.event (.asset asset) · price now)
      fun assets => { feeds with assets }
  | floor collection =>
    exact publisher_eq_ok feeds.floors collection (Feed.event (.floor collection) · price now)
      fun floors => { feeds with floors }
  | appraisal item =>
    exact publisher_eq_ok feeds.appraisals item (Feed.event (.appraisal item) · price now)
      fun appraisals => { feeds with appraisals }

/-- Whether a publisher's price gets into a feed: it is positive, its distance to the price that it
replaces does not saturate, and it is within the deviation bound of that price. -/
def Admits (feeds : PriceFeeds) (caller : Account) (feed : Feed) (quote : Quote) : Prop :=
  feeds.roles.hasPermission caller .updatePrice = true ∧ feeds.active = true ∧ quote.price ≠ 0 ∧
    ∀ before, feeds.quote? feed = some before →
      before.apart quote * fullShare < amountBound ∧ before.movedTo quote ≤ feeds.maxDeviation

/-- Sound feeds take the prices that they admit. -/
lemma Sound.publishIn_eq_ok (hs : feeds.Sound) :
    feeds.publishIn caller feed price now = .ok (event, feeds') ↔
      feeds.Admits caller feed ⟨price, now⟩ ∧
      feed.event (feeds.priceOf feed) price now = event ∧
        feeds.setQuote feed ⟨price, now⟩ = feeds' := by
  have hnear : ∀ before, feeds.quote? feed = some before →
      ((before.price = 0 ∨ deviation before.price price ≤ feeds.maxDeviation) ↔
        before.apart ⟨price, now⟩ * fullShare < amountBound ∧
          before.movedTo ⟨price, now⟩ ≤ feeds.maxDeviation) := by
    intro before hbefore
    rw [or_iff_right (hs.quote_positive hbefore)]
    exact @Quote.deviation_le_iff before ⟨price, now⟩ _ hs.maxDeviation_lt
  rw [PriceFeeds.publishIn_eq_ok, Admits, forall₂_congr hnear]

/-- Publishing in a feed is one of the publications of a publisher. -/
lemma accept_publication :
    feeds.accept caller now (feed.publication price) =
      Prod.snd <$> feeds.publishIn caller feed price now := by
  cases feed <;> rfl

/-- A publication in a feed leads from reachable feeds to reachable ones. -/
lemma Reachable.published (hr : feeds.Reachable)
    (h : feeds.publishIn caller feed price now = .ok (event, feeds')) : feeds'.Reachable := by
  have haccepted : feeds.accept caller now (feed.publication price) = .ok feeds' := by
    rw [accept_publication, h]
    rfl
  exact hr.accepted haccepted

end PriceFeeds

/-! ## Calls on a board -/

/-- What is asked of price feeds. -/
inductive FeedRequest where
  | hire (account : Account)
  | dismiss (account : Account)
  | switch (active : Bool)
  | bound (bps : Nat)
  | publish (feed : Feed) (price : Nat)
  | clear (item : Item)
deriving DecidableEq

/-- A request of a caller at a moment. -/
structure FeedCall where
  caller : Account
  now : Nat
  request : FeedRequest
deriving DecidableEq

/-- Carries out a call; only publications are told. -/
def PriceFeeds.perform (feeds : PriceFeeds) (call : FeedCall) : Result (EventLog × PriceFeeds) :=
  match call.request with
  | .hire account => Prod.mk [] <$> feeds.addOperator call.caller account call.now
  | .dismiss account => Prod.mk [] <$> feeds.removeOperator call.caller account call.now
  | .switch active => Prod.mk [] <$> feeds.setActive call.caller active
  | .bound bps => Prod.mk [] <$> feeds.setMaxDeviation call.caller bps
  | .publish feed price =>
    Prod.map (fun event => [event]) id <$> feeds.publishIn call.caller feed price call.now
  | .clear item => Prod.mk [] <$> feeds.clearAppraisal call.caller item

namespace PriceFeeds

variable {feeds feeds' : PriceFeeds} {call : FeedCall} {events : EventLog}

/-- A step that tells nothing succeeds as the step itself does. -/
lemma silent_eq_ok {step : Result PriceFeeds} :
    Prod.mk ([] : EventLog) <$> step = .ok (events, feeds) ↔ step = .ok feeds ∧ events = [] := by
  simp only [map_eq_ok, Prod.mk.injEq]
  constructor
  · rintro ⟨_, h, rfl, rfl⟩
    exact ⟨h, rfl⟩
  · rintro ⟨h, rfl⟩
    exact ⟨feeds, h, rfl, rfl⟩

/-- A step that tells one event succeeds as the step itself does. -/
lemma told_eq_ok {step : Result (Event × PriceFeeds)} :
    Prod.map (fun event => [event]) id <$> step = .ok (events, feeds') ↔
      ∃ event, step = .ok (event, feeds') ∧ [event] = events := by
  simp only [map_eq_ok, Prod.exists, Prod.map_apply, id, Prod.mk.injEq]
  constructor
  · rintro ⟨event, _, h, rfl, rfl⟩
    exact ⟨event, h, rfl⟩
  · rintro ⟨event, h, rfl⟩
    exact ⟨event, feeds', h, rfl, rfl⟩

/-- What a call that is carried out makes of the feeds: those who manage them touch no quote, and
what is published or cleared is one quote. -/
inductive Turns (feeds : PriceFeeds) (call : FeedCall) : PriceFeeds → Prop where
  | managed (roles : RoleRegister) (active : Bool) (maxDeviation : Nat)
      (manages : ∀ feed price, call.request ≠ .publish feed price) :
      Turns feeds call { feeds with roles, active, maxDeviation }
  | published {feed : Feed} {price : Nat} (publishes : call.request = .publish feed price) :
      Turns feeds call (feeds.setQuote feed ⟨price, call.now⟩)
  | cleared {item : Item} (clears : call.request = .clear item) :
      Turns feeds call { feeds with appraisals := feeds.appraisals.erase item }

/-- A call that is carried out turns the feeds. -/
lemma perform_turns (h : feeds.perform call = .ok (events, feeds')) : feeds.Turns call feeds' := by
  obtain ⟨caller, now, request⟩ := call
  cases request with
  | hire account =>
    obtain ⟨h, -⟩ := silent_eq_ok.mp h
    simp only [addOperator, bind_eq_ok, pure_eq_ok] at h
    obtain ⟨roles, -, rfl⟩ := h
    exact .managed roles _ _ fun _ _ heq => by cases heq
  | dismiss account =>
    obtain ⟨h, -⟩ := silent_eq_ok.mp h
    simp only [removeOperator, bind_eq_ok, pure_eq_ok] at h
    obtain ⟨roles, -, rfl⟩ := h
    exact .managed roles _ _ fun _ _ heq => by cases heq
  | switch active =>
    obtain ⟨h, -⟩ := silent_eq_ok.mp h
    simp only [setActive, bind_eq_ok, pure_eq_ok] at h
    obtain ⟨_, -, rfl⟩ := h
    exact .managed _ active _ fun _ _ heq => by cases heq
  | bound bps =>
    obtain ⟨h, -⟩ := silent_eq_ok.mp h
    simp only [setMaxDeviation, bind_eq_ok, pure_eq_ok] at h
    obtain ⟨_, -, _, -, rfl⟩ := h
    exact .managed _ _ bps fun _ _ heq => by cases heq
  | publish feed price =>
    obtain ⟨_, h, -⟩ := told_eq_ok.mp h
    obtain ⟨-, -, rfl⟩ := publishIn_eq_ok.mp h
    exact .published rfl
  | clear item =>
    obtain ⟨h, -⟩ := silent_eq_ok.mp h
    simp only [clearAppraisal, bind_eq_ok, pure_eq_ok] at h
    obtain ⟨_, -, _, -, rfl⟩ := h
    exact .cleared rfl

/-- A call that is carried out leads from reachable feeds to reachable ones. -/
lemma Reachable.performed (hr : feeds.Reachable) (h : feeds.perform call = .ok (events, feeds')) :
    feeds'.Reachable := by
  obtain ⟨caller, now, request⟩ := call
  cases request with
  | hire account => exact hr.hired (silent_eq_ok.mp h).1
  | dismiss account => exact hr.dismissed (silent_eq_ok.mp h).1
  | switch active => exact hr.switched (silent_eq_ok.mp h).1
  | bound bps => exact hr.bounded (silent_eq_ok.mp h).1
  | publish feed price =>
    obtain ⟨_, h, -⟩ := told_eq_ok.mp h
    exact hr.published h
  | clear item =>
    have haccepted : feeds.accept caller now (.clearing item) = .ok feeds' :=
      (silent_eq_ok.mp h).1
    exact hr.accepted haccepted

end PriceFeeds

/-- Price feeds and the log of what was published. -/
structure PriceBoard where
  feeds : PriceFeeds
  log : EventLog
deriving DecidableEq

namespace PriceBoard

/-- Carries out a call on the board itself: how that ends, and the board that is left. -/
def serve (board : PriceBoard) (call : FeedCall) : Result Unit × PriceBoard :=
  match board.feeds.perform call with
  | .ok (events, feeds) => (.ok (), ⟨feeds, board.log ++ events⟩)
  | .error failure => (.error failure, board)

/-- Whether a call succeeds. -/
def Takes (board : PriceBoard) (call : FeedCall) : Prop := (board.serve call).1 = .ok ()

instance (board : PriceBoard) (call : FeedCall) : Decidable (board.Takes call) :=
  inferInstanceAs (Decidable ((board.serve call).1 = .ok ()))

/-- The board after a call, whether it succeeds or fails. -/
def after (board : PriceBoard) (call : FeedCall) : PriceBoard := (board.serve call).2

/-- The board after calls that are made one after the other. -/
def follow (board : PriceBoard) (calls : List FeedCall) : PriceBoard := calls.foldl after board

/-- Whether a call clears a feed. -/
def Clears (board : PriceBoard) (feed : Feed) (call : FeedCall) : Prop :=
  board.Takes call ∧ ∃ item, call.request = .clear item ∧ feed = .appraisal item

/-- No call of a list clears a feed where it is made. -/
def Spares (board : PriceBoard) (feed : Feed) : List FeedCall → Prop
  | [] => True
  | call :: calls => ¬ board.Clears feed call ∧ (board.after call).Spares feed calls

/-- What a call publishes in a feed if it succeeds, behind the deviation bound in force. -/
def published (board : PriceBoard) (feed : Feed) (call : FeedCall) : Option (Nat × Quote) :=
  match call.request with
  | .publish target price =>
    if target = feed ∧ board.Takes call then some (board.feeds.maxDeviation, ⟨price, call.now⟩)
    else none
  | _ => none

/-- What a list of calls publishes in a feed, in order. -/
def publications (board : PriceBoard) (feed : Feed) : List FeedCall → List (Nat × Quote)
  | [] => []
  | call :: calls =>
    (board.published feed call).toList ++ (board.after call).publications feed calls

variable {board : PriceBoard} {call : FeedCall} {feed : Feed} {caller : Account} {price now : Nat}

/-- A call that fails leaves the board as it was. -/
lemma after_of_not_takes (h : ¬ board.Takes call) : board.after call = board := by
  unfold Takes serve at h
  unfold after serve
  cases hp : board.feeds.perform call with
  | error failure => rfl
  | ok outcome =>
    rw [hp] at h
    exact absurd rfl h

/-- A call that succeeds was carried out, and what it tells ends the log. -/
lemma Takes.cases (h : board.Takes call) :
    ∃ events feeds, board.feeds.perform call = .ok (events, feeds) ∧
      board.after call = ⟨feeds, board.log ++ events⟩ := by
  unfold Takes serve at h
  unfold after serve
  cases hp : board.feeds.perform call with
  | error failure =>
    rw [hp] at h
    cases h
  | ok outcome => exact ⟨_, _, rfl, rfl⟩

/-- A call that can be carried out succeeds. -/
lemma takes_of_perform {events : EventLog} {feeds : PriceFeeds}
    (h : board.feeds.perform call = .ok (events, feeds)) : board.Takes call := by
  unfold Takes serve
  rw [h]

/-- Calls keep feeds reachable. -/
lemma reachable_after (hr : board.feeds.Reachable) (call : FeedCall) :
    (board.after call).feeds.Reachable := by
  by_cases htakes : board.Takes call
  · obtain ⟨events, feeds, hperform, hafter⟩ := htakes.cases
    rw [hafter]
    exact hr.performed hperform
  · rw [after_of_not_takes htakes]
    exact hr

/-- A price for a feed is taken when the feeds admit it. -/
lemma takes_publish_iff (hs : board.feeds.Sound) :
    board.Takes ⟨caller, now, .publish feed price⟩ ↔
      board.feeds.Admits caller feed ⟨price, now⟩ := by
  constructor
  · intro htakes
    obtain ⟨_, _, hperform, -⟩ := htakes.cases
    obtain ⟨_, h, -⟩ := PriceFeeds.told_eq_ok.mp hperform
    exact (hs.publishIn_eq_ok.mp h).1
  · intro hadmits
    have hpublished := hs.publishIn_eq_ok.mpr ⟨hadmits, rfl, rfl⟩
    exact takes_of_perform (PriceFeeds.told_eq_ok.mpr ⟨_, hpublished, rfl⟩)

/-- A price that is taken is written to its feed and told with the price before it. -/
lemma after_publish (h : board.Takes ⟨caller, now, .publish feed price⟩) :
    board.after ⟨caller, now, .publish feed price⟩ =
      ⟨board.feeds.setQuote feed ⟨price, now⟩,
        board.log ++ [feed.event (board.feeds.priceOf feed) price now]⟩ := by
  obtain ⟨_, _, hperform, hafter⟩ := h.cases
  obtain ⟨_, h, rfl⟩ := PriceFeeds.told_eq_ok.mp hperform
  obtain ⟨-, rfl, rfl⟩ := PriceFeeds.publishIn_eq_ok.mp h
  exact hafter

/-! ## Calls one after the other -/

/-- A call that fails publishes nothing. -/
lemma published_of_not_takes (h : ¬ board.Takes call) : board.published feed call = none := by
  unfold published
  split
  · exact if_neg fun htakes => h htakes.2
  · rfl

/-- A call that does not clear a feed leaves it as it was, unless it publishes in it. -/
lemma after_quote? (h : ¬ board.Clears feed call) :
    (board.after call).feeds.quote? feed =
      ((board.published feed call).map Prod.snd).or (board.feeds.quote? feed) := by
  by_cases htakes : board.Takes call
  · obtain ⟨events, feeds, hperform, hafter⟩ := htakes.cases
    rw [hafter, published]
    cases PriceFeeds.perform_turns hperform with
    | managed roles active maxDeviation manages =>
      split
      · next heq => exact absurd heq (manages _ _)
      · cases feed <;> rfl
    | @published target price publishes =>
      rw [publishes, PriceFeeds.quote?_setQuote]
      by_cases htarget : feed = target
      · simp [htarget, htakes]
      · simp [htarget, Ne.symm htarget]
    | @cleared item clears =>
      -- only the appraisal of another token can be the one that is cleared
      have hother : feed ≠ .appraisal item := fun heq => h ⟨htakes, item, clears, heq⟩
      rw [clears]
      cases feed with
      | asset asset => rfl
      | floor collection => rfl
      | appraisal kept =>
        exact SortedMap.get?_erase_of_ne _ fun heq => hother (congrArg Feed.appraisal heq)
  · rw [after_of_not_takes htakes, published_of_not_takes htakes]
    rfl

end PriceBoard

/-- One quote leads to another by way of quotes that each lie within a bound of their own of the
quote before. -/
inductive Quote.Steps : Quote → List (Nat × Quote) → Quote → Prop where
  | nil (quote : Quote) : Steps quote [] quote
  | cons {before next after : Quote} {bound : Nat} {steps : List (Nat × Quote)}
      (positive : before.price ≠ 0) (within : before.movedTo next ≤ bound)
      (rest : Steps next steps after) : Steps before ((bound, next) :: steps) after

namespace Quote

variable {before after : Quote} {bound : Nat} {steps : List (Nat × Quote)}

/-- A move within a bound is a move by less than the next basis point. -/
lemma apart_lt_of_movedTo (hpositive : before.price ≠ 0) (h : before.movedTo after ≤ bound) :
    before.apart after * fullShare < (bound + 1) * before.price := by
  have hlt : before.apart after * fullShare / before.price < bound + 1 := Nat.lt_succ_of_le h
  exact (Nat.div_lt_iff_lt_mul (Nat.pos_of_ne_zero hpositive)).mp hlt

/-- One step raises a price by less than the basis point above its bound. -/
lemma raised_le_of_movedTo (hpositive : before.price ≠ 0) (h : before.movedTo after ≤ bound) :
    after.price * fullShare ≤ before.price * (fullShare + (bound + 1)) := by
  have hapart := apart_lt_of_movedTo hpositive h
  have hraised : after.price ≤ before.price + before.apart after := by
    unfold apart
    omega
  calc after.price * fullShare
      ≤ (before.price + before.apart after) * fullShare := Nat.mul_le_mul_right _ hraised
    _ = before.price * fullShare + before.apart after * fullShare := Nat.add_mul _ _ _
    _ ≤ before.price * fullShare + (bound + 1) * before.price :=
        Nat.add_le_add_left hapart.le _
    _ = before.price * (fullShare + (bound + 1)) := by ring

/-- One step lowers a price by less than the basis point above its bound. -/
lemma lowered_le_of_movedTo (hpositive : before.price ≠ 0) (h : before.movedTo after ≤ bound) :
    before.price * (fullShare - (bound + 1)) ≤ after.price * fullShare := by
  have hapart := apart_lt_of_movedTo hpositive h
  have hlowered : before.price ≤ after.price + before.apart after := by
    unfold apart
    omega
  have hshare : before.price * fullShare ≤
      after.price * fullShare + before.price * (bound + 1) := by
    calc before.price * fullShare
        ≤ (after.price + before.apart after) * fullShare := Nat.mul_le_mul_right _ hlowered
      _ = after.price * fullShare + before.apart after * fullShare := Nat.add_mul _ _ _
      _ ≤ after.price * fullShare + (bound + 1) * before.price :=
          Nat.add_le_add_left hapart.le _
      _ = after.price * fullShare + before.price * (bound + 1) := by rw [Nat.mul_comm (bound + 1)]
  rw [Nat.mul_sub]
  exact Nat.sub_le_of_le_add hshare

/-- Steps within a common bound add up to no more than that many moves by the basis point above
it. -/
lemma Steps.compounded (h : Steps before steps after) (hbound : ∀ step ∈ steps, step.1 ≤ bound) :
    after.price * fullShare ^ steps.length ≤
      before.price * (fullShare + (bound + 1)) ^ steps.length ∧
    before.price * (fullShare - (bound + 1)) ^ steps.length ≤
      after.price * fullShare ^ steps.length := by
  induction h with
  | nil quote => simp
  | @cons before next after first steps positive within rest ih =>
    have hwithin := within.trans (hbound _ List.mem_cons_self)
    obtain ⟨hraised, hlowered⟩ := ih fun step hstep => hbound step (List.mem_cons_of_mem _ hstep)
    rw [List.length_cons]
    generalize steps.length = count at hraised hlowered ⊢
    constructor
    · calc after.price * fullShare ^ (count + 1)
          = after.price * fullShare ^ count * fullShare := by ring
        _ ≤ next.price * (fullShare + (bound + 1)) ^ count * fullShare :=
            Nat.mul_le_mul_right _ hraised
        _ = next.price * fullShare * (fullShare + (bound + 1)) ^ count := by ring
        _ ≤ before.price * (fullShare + (bound + 1)) * (fullShare + (bound + 1)) ^ count :=
            Nat.mul_le_mul_right _ (raised_le_of_movedTo positive hwithin)
        _ = before.price * (fullShare + (bound + 1)) ^ (count + 1) := by ring
    · calc before.price * (fullShare - (bound + 1)) ^ (count + 1)
          = before.price * (fullShare - (bound + 1)) * (fullShare - (bound + 1)) ^ count := by ring
        _ ≤ next.price * fullShare * (fullShare - (bound + 1)) ^ count :=
            Nat.mul_le_mul_right _ (lowered_le_of_movedTo positive hwithin)
        _ = next.price * (fullShare - (bound + 1)) ^ count * fullShare := by ring
        _ ≤ after.price * fullShare ^ count * fullShare := Nat.mul_le_mul_right _ hlowered
        _ = after.price * fullShare ^ (count + 1) := by ring

end Quote

namespace PriceBoard

variable {board : PriceBoard} {call : FeedCall} {feed : Feed} {before after : Quote}
variable {bound : Nat}

/-- What is published in a feed lies within the bound in force of the quote before it. -/
lemma published_within (hs : board.feeds.Sound)
    (h : board.published feed call = some (bound, after))
    (hbefore : board.feeds.quote? feed = some before) :
    bound = board.feeds.maxDeviation ∧ before.movedTo after ≤ bound := by
  obtain ⟨caller, now, request⟩ := call
  unfold published at h
  split at h
  · next target price hrequest =>
    obtain ⟨⟨rfl, htakes⟩, heq⟩ := Option.ite_none_right_eq_some.mp h
    obtain ⟨rfl, rfl⟩ := Prod.mk.inj (Option.some.inj heq)
    obtain rfl : request = .publish target price := hrequest
    obtain ⟨-, -, -, hnear⟩ := (takes_publish_iff hs).mp htakes
    exact ⟨rfl, (hnear before hbefore).2⟩
  · cases h

/-- As long as a feed is not cleared, what is published in it leads from its quote at the start to
its quote at the end. -/
lemma publications_lead (hr : board.feeds.Reachable)
    (hbefore : board.feeds.quote? feed = some before) {calls : List FeedCall}
    (hspared : board.Spares feed calls) :
    ∃ after, (board.follow calls).feeds.quote? feed = some after ∧
      before.Steps (board.publications feed calls) after ∧
      ∀ step ∈ board.publications feed calls, step.1 ≤ fullShare := by
  -- by induction on the calls; the board and the quote that they start from vary
  induction calls generalizing board before with
  | nil => exact ⟨before, hbefore, .nil before, nofun⟩
  | cons call calls ih =>
    have hnext := after_quote? hspared.1
    cases hpublished : board.published feed call with
    | none =>
      rw [hpublished, hbefore] at hnext
      obtain ⟨after, hafter, hsteps, hbounds⟩ := ih (reachable_after hr call) hnext hspared.2
      simp only [publications, hpublished, Option.toList_none, List.nil_append]
      exact ⟨after, hafter, hsteps, hbounds⟩
    | some step =>
      obtain ⟨bound, next⟩ := step
      rw [hpublished] at hnext
      obtain ⟨after, hafter, hsteps, hbounds⟩ := ih (reachable_after hr call) hnext hspared.2
      obtain ⟨rfl, hwithin⟩ := published_within hr.sound hpublished hbefore
      simp only [publications, hpublished, Option.toList_some, List.singleton_append]
      refine ⟨after, hafter, .cons (hr.sound.quote_positive hbefore) hwithin hsteps, ?_⟩
      intro step hstep
      rcases List.mem_cons.mp hstep with rfl | hstep
      · exact hr.sound.bounded
      · exact hbounds step hstep

/-- Feeds take a price from a publisher while they are active when it is positive and either the
feed is new or the move, in whole basis points of the price before, is within the deviation bound;
this is so as long as the move fits the computation, and no larger move is taken. A price that is
taken becomes the quote of its feed and is told with the price before it, and nothing else changes;
a price that is not taken changes nothing. As long as a feed is not cleared, the prices taken for it
lead from its quote at the start to its quote at the end, each within the bound in force, which is
at most the whole, and so it moves no further than that many moves by the basis point above a common
bound. -/
theorem publication_within_bound (hr : board.feeds.Reachable) (caller : Account) (feed : Feed)
    (price now : Nat) :
    ((∀ before, board.feeds.quote? feed = some before →
        before.apart ⟨price, now⟩ * fullShare < amountBound) →
      (board.Takes ⟨caller, now, .publish feed price⟩ ↔
        board.feeds.roles.hasPermission caller .updatePrice = true ∧
        board.feeds.active = true ∧ price ≠ 0 ∧
        ∀ before, board.feeds.quote? feed = some before →
          before.movedTo ⟨price, now⟩ ≤ board.feeds.maxDeviation)) ∧
    (∀ before, board.feeds.quote? feed = some before →
      amountBound ≤ before.apart ⟨price, now⟩ * fullShare →
        ¬ board.Takes ⟨caller, now, .publish feed price⟩) ∧
    (board.Takes ⟨caller, now, .publish feed price⟩ →
      let next := board.after ⟨caller, now, .publish feed price⟩
      (∀ other, next.feeds.quote? other =
        if other = feed then some ⟨price, now⟩ else board.feeds.quote? other) ∧
      next.feeds.roles = board.feeds.roles ∧ next.feeds.active = board.feeds.active ∧
      next.feeds.maxDeviation = board.feeds.maxDeviation ∧
      next.log = board.log ++ [feed.event (board.feeds.priceOf feed) price now]) ∧
    (¬ board.Takes ⟨caller, now, .publish feed price⟩ →
      board.after ⟨caller, now, .publish feed price⟩ = board) ∧
    ∀ before calls, board.feeds.quote? feed = some before → board.Spares feed calls →
      ∃ after, (board.follow calls).feeds.quote? feed = some after ∧
        before.Steps (board.publications feed calls) after ∧
        (∀ step ∈ board.publications feed calls, step.1 ≤ fullShare) ∧
        ∀ bound, (∀ step ∈ board.publications feed calls, step.1 ≤ bound) →
          after.price * fullShare ^ (board.publications feed calls).length ≤
            before.price * (fullShare + (bound + 1)) ^ (board.publications feed calls).length ∧
          before.price * (fullShare - (bound + 1)) ^ (board.publications feed calls).length ≤
            after.price * fullShare ^ (board.publications feed calls).length := by
  refine ⟨?_, ?_, ?_, after_of_not_takes, ?_⟩
  · intro hfits
    rw [takes_publish_iff hr.sound, PriceFeeds.Admits]
    refine and_congr_right' (and_congr_right' (and_congr_right' (forall₂_congr ?_)))
    intro before hbefore
    exact and_iff_right (hfits before hbefore)
  · intro before hbefore hlarge htakes
    obtain ⟨-, -, -, hnear⟩ := (takes_publish_iff hr.sound).mp htakes
    exact absurd (hnear before hbefore).1 (Nat.not_lt.mpr hlarge)
  · intro htakes
    rw [after_publish htakes]
    exact ⟨fun _ => PriceFeeds.quote?_setQuote, PriceFeeds.setQuote_roles,
      PriceFeeds.setQuote_active, PriceFeeds.setQuote_maxDeviation, rfl⟩
  · intro before calls hbefore hspared
    obtain ⟨after, hafter, hsteps, hbounds⟩ := publications_lead hr hbefore hspared
    exact ⟨after, hafter, hsteps, hbounds, fun _ hcommon => hsteps.compounded hcommon⟩

end PriceBoard

namespace SmallMarket

/-- The feeds of the market with an empty log. -/
def board : PriceBoard := ⟨feeds, []⟩

/-- The founder raises the floor from 1000 to 1500 and then allows moves of 10% only. Lowering the
floor back is refused after that, and lowering it to 1350 is not. -/
def tightening : List FeedCall :=
  [⟨founder, 5, .publish (.floor art) (1500 * wad)⟩, ⟨founder, 6, .bound 1000⟩,
    ⟨founder, 7, .publish (.floor art) (1000 * wad)⟩,
    ⟨founder, 8, .publish (.floor art) (1350 * wad)⟩]

/-- The feeds of the market come about by two publications. -/
lemma feeds_reachable : feeds.Reachable := by
  have hcoin : PriceFeeds.accept (.create founder 0) founder 0 (.asset coin wad) =
      .ok { PriceFeeds.create founder 0 with assets := SortedMap.insert ∅ coin ⟨wad, 0⟩ } := rfl
  have hart : PriceFeeds.accept
        { PriceFeeds.create founder 0 with assets := SortedMap.insert ∅ coin ⟨wad, 0⟩ }
        founder 0 (.floor art (1000 * wad)) = .ok feeds := rfl
  exact ((PriceFeeds.Reachable.created founder 0).accepted hcoin).accepted hart

/-- With a bound of 50% the floor is raised from 1000 to 1500 and not to 1501, and it goes on from
there by a move of 10%. -/
theorem floor_published_within_bound :
    board.feeds.Reachable ∧ board.feeds.quote? (.floor art) = some ⟨1000 * wad, 0⟩ ∧
      board.Takes ⟨founder, 5, .publish (.floor art) (1500 * wad)⟩ ∧
      ¬ board.Takes ⟨founder, 5, .publish (.floor art) (1501 * wad)⟩ ∧
      ¬ board.Takes ⟨founder, 5, .publish (.floor art) (amountBound - 1)⟩ ∧
      board.Spares (.floor art) tightening ∧
      (⟨1000 * wad, 0⟩ : Quote).Steps [(5000, ⟨1500 * wad, 5⟩), (1000, ⟨1350 * wad, 8⟩)]
        ⟨1350 * wad, 8⟩ := by
  have hbefore : board.feeds.quote? (.floor art) = some ⟨1000 * wad, 0⟩ := by decide +kernel
  have hfits : ∀ price, (⟨1000 * wad, 0⟩ : Quote).apart ⟨price, 5⟩ * fullShare < amountBound →
      ∀ before, board.feeds.quote? (.floor art) = some before →
        before.apart ⟨price, 5⟩ * fullShare < amountBound := by
    intro price hprice before h
    rw [hbefore] at h
    obtain rfl := Option.some.inj h
    exact hprice
  have hspared : board.Spares (.floor art) tightening := by
    simp [tightening, PriceBoard.Spares, PriceBoard.Clears]
  have hr : board.feeds.Reachable := feeds_reachable
  obtain ⟨h1500, -⟩ :=
    PriceBoard.publication_within_bound hr founder (.floor art) (1500 * wad) 5
  obtain ⟨h1501, -⟩ :=
    PriceBoard.publication_within_bound hr founder (.floor art) (1501 * wad) 5
  obtain ⟨-, hlargest, -, -, hruns⟩ :=
    PriceBoard.publication_within_bound hr founder (.floor art) (amountBound - 1) 5
  obtain ⟨after, hafter, hsteps, -⟩ := hruns _ tightening hbefore hspared
  refine ⟨hr, hbefore, ?_, ?_, ?_, hspared, ?_⟩
  · refine (h1500 (hfits _ (by decide +kernel))).mpr ⟨by decide, rfl, by decide, ?_⟩
    intro before h
    rw [hbefore] at h
    obtain rfl := Option.some.inj h
    decide +kernel
  · intro htakes
    obtain ⟨-, -, -, hnear⟩ := (h1501 (hfits _ (by decide +kernel))).mp htakes
    exact absurd (hnear _ hbefore) (by decide +kernel)
  · exact hlargest _ hbefore (by decide +kernel)
  · have hpublications : board.publications (.floor art) tightening =
        [(5000, ⟨1500 * wad, 5⟩), (1000, ⟨1350 * wad, 8⟩)] := by decide +kernel
    have hend : (board.follow tightening).feeds.quote? (.floor art) = some ⟨1350 * wad, 8⟩ := by
      decide +kernel
    obtain rfl := Option.some.inj (hend.symm.trans hafter)
    exact hpublications ▸ hsteps

end SmallMarket

end PooledCredit
