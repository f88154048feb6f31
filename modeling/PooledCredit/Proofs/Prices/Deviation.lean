import PooledCredit.Proofs.Results
import PooledCredit.Proofs.Runs

/-!
# How far one publication moves a price

A publication may move an existing feed by no more than the deviation bound. What is served for a
token is read off two feeds, its appraisal or else the floor of its collection, so the bound carries
over to the served price as long as the same feed answers. A first appraisal and the clearing of an
appraisal change which feed answers; then the bound does not apply, and with these two requests a
publisher has any price served.
-/

namespace PooledCredit

/-- How far the price of a later quote lies from that of an earlier one, in basis points of the
earlier one, rounded down. -/
def Quote.movedTo (before after : Quote) : Nat :=
  ((after.price - before.price) + (before.price - after.price)) * fullShare / before.price

/-- What a publisher can ask of price feeds. -/
inductive Publication where
  | asset (asset : Asset) (price : Nat)
  | floor (collection : Collection) (price : Nat)
  | appraisal (item : Item) (price : Nat)
  | clearing (item : Item)
deriving DecidableEq

/-- Carries out the publication of a caller at a moment. -/
def PriceFeeds.accept (feeds : PriceFeeds) (caller : Account) (now : Nat) :
    Publication → Result PriceFeeds
  | .asset asset price => Prod.snd <$> feeds.updateAsset caller asset price now
  | .floor collection price => Prod.snd <$> feeds.updateFloor caller collection price now
  | .appraisal item price => Prod.snd <$> feeds.updateAppraisal caller item price now
  | .clearing item => feeds.clearAppraisal caller item

/-! ## Single feeds -/

/-- A deviation below the largest number was computed exactly. -/
lemma movedTo_le_of_deviation {before after : Quote} {bound : Nat}
    (h : deviation before.price after.price ≤ bound) (hbound : bound < maxClock) :
    before.movedTo after ≤ bound := by
  simp only [deviation] at h
  unfold Quote.movedTo
  split at h
  · rcases min_le_iff.mp h with hexact | hlargest
    · exact hexact
    · exact absurd (Nat.lt_of_le_of_lt hlargest hbound) (Nat.lt_irrefl _)
  · exact absurd (Nat.lt_of_le_of_lt h hbound) (Nat.lt_irrefl _)

/-- A quote lies at no distance from itself. -/
lemma Quote.movedTo_self (quote : Quote) : quote.movedTo quote = 0 := by simp [movedTo]

section Publish

variable {κ : Type} [Ord κ] [Std.TransOrd κ] {feeds feeds' : SortedMap κ Quote} {key : κ}
variable {price now bound old : Nat}

/-- A publication that succeeds stores a positive price, within the deviation bound of the price
that it replaces. -/
lemma publish_eq_ok (h : publish feeds key price now bound = .ok (old, feeds')) :
    price ≠ 0 ∧ feeds' = feeds.insert key ⟨price, now⟩ ∧
      ∀ before, feeds.get? key = some before →
        before.price = 0 ∨ deviation before.price price ≤ bound := by
  simp only [publish, bind_eq_ok, require_eq_ok, exists_const, pure_eq_ok, Prod.mk.injEq] at h
  obtain ⟨hprice, hjump, -, rfl⟩ := h
  refine ⟨hprice, rfl, fun before hbefore => ?_⟩
  rw [hbefore] at hjump
  exact hjump

/-- A price that fits is published. -/
lemma publish_new (hprice : price ≠ 0) (hnew : feeds.get? key = none) :
    publish feeds key price now bound = .ok (0, feeds.insert key ⟨price, now⟩) := by
  have hold : (feeds.get? key).elim 0 Quote.price = 0 := by rw [hnew]; rfl
  simp [publish, require, hprice, hold, bind, Except.bind, pure, Except.pure]

variable [Std.LawfulEqOrd κ] [DecidableEq κ]

/-- A publication moves every existing feed by at most the deviation bound. -/
lemma publish_within (h : publish feeds key price now bound = .ok (old, feeds'))
    (hbound : bound < maxClock) {key' : κ} {before after : Quote}
    (hbefore : feeds.get? key' = some before) (hafter : feeds'.get? key' = some after)
    (hpositive : before.price ≠ 0) : before.movedTo after ≤ bound := by
  obtain ⟨-, rfl, hjump⟩ := publish_eq_ok h
  rw [SortedMap.get?_insert] at hafter
  split at hafter
  · next hkey =>
    obtain rfl := Option.some.inj hafter
    rw [hkey] at hbefore
    exact movedTo_le_of_deviation ((hjump before hbefore).resolve_left hpositive) hbound
  · rw [hbefore] at hafter
    obtain rfl := Option.some.inj hafter
    rw [Quote.movedTo_self]
    exact Nat.zero_le bound

/-- A publication gives a quote to no other feed than its own, and takes none away. -/
lemma publish_get? (h : publish feeds key price now bound = .ok (old, feeds')) (key' : κ) :
    feeds'.get? key' = if key' = key then some ⟨price, now⟩ else feeds.get? key' := by
  obtain ⟨-, rfl, -⟩ := publish_eq_ok h
  exact SortedMap.get?_insert _ _ _ _

/-- A publication keeps all prices positive. -/
lemma publish_positive (h : publish feeds key price now bound = .ok (old, feeds'))
    (hpositive : ∀ key quote, feeds.get? key = some quote → quote.price ≠ 0) {key' : κ}
    {quote : Quote} (hquote : feeds'.get? key' = some quote) : quote.price ≠ 0 := by
  obtain ⟨hprice, rfl, -⟩ := publish_eq_ok h
  rw [SortedMap.get?_insert] at hquote
  split at hquote
  · obtain rfl := Option.some.inj hquote
    exact hprice
  · exact hpositive key' quote hquote

end Publish

/-! ## Publications -/

namespace PriceFeeds

variable {feeds feeds' : PriceFeeds} {caller : Account} {now price : Nat} {item : Item}
variable {request : Publication} {before after : Quote}

/-- What an accepted publication makes of the feeds: it publishes one price, or it drops an
appraisal. -/
inductive Accepts (feeds : PriceFeeds) (now : Nat) : Publication → PriceFeeds → Prop where
  | asset {asset : Asset} {price old : Nat} {assets : SortedMap Asset Quote}
      (h : publish feeds.assets asset price now feeds.maxDeviation = .ok (old, assets)) :
      Accepts feeds now (.asset asset price) { feeds with assets }
  | floor {collection : Collection} {price old : Nat} {floors : SortedMap Collection Quote}
      (h : publish feeds.floors collection price now feeds.maxDeviation = .ok (old, floors)) :
      Accepts feeds now (.floor collection price) { feeds with floors }
  | appraisal {item : Item} {price old : Nat} {appraisals : SortedMap Item Quote}
      (h : publish feeds.appraisals item price now feeds.maxDeviation = .ok (old, appraisals)) :
      Accepts feeds now (.appraisal item price) { feeds with appraisals }
  | clearing {item : Item} :
      Accepts feeds now (.clearing item) { feeds with appraisals := feeds.appraisals.erase item }

/-- A publication that succeeds was accepted from a publisher while the feeds were active. -/
lemma accept_eq_ok (h : feeds.accept caller now request = .ok feeds') :
    feeds.requirePublisher caller = .ok () ∧ feeds.Accepts now request feeds' := by
  cases request with
  | asset asset price =>
    simp only [accept, updateAsset, map_eq_ok, bind_eq_ok, pure_eq_ok, Prod.exists] at h
    obtain ⟨_, _, ⟨_, hpublisher, _, _, hp, heq⟩, rfl⟩ := h
    obtain ⟨-, rfl⟩ := Prod.mk.inj heq
    exact ⟨hpublisher, .asset hp⟩
  | floor collection price =>
    simp only [accept, updateFloor, map_eq_ok, bind_eq_ok, pure_eq_ok, Prod.exists] at h
    obtain ⟨_, _, ⟨_, hpublisher, _, _, hp, heq⟩, rfl⟩ := h
    obtain ⟨-, rfl⟩ := Prod.mk.inj heq
    exact ⟨hpublisher, .floor hp⟩
  | appraisal item price =>
    simp only [accept, updateAppraisal, map_eq_ok, bind_eq_ok, pure_eq_ok, Prod.exists] at h
    obtain ⟨_, _, ⟨_, hpublisher, _, _, hp, heq⟩, rfl⟩ := h
    obtain ⟨-, rfl⟩ := Prod.mk.inj heq
    exact ⟨hpublisher, .appraisal hp⟩
  | clearing item =>
    simp only [accept, clearAppraisal, bind_eq_ok, require_eq_ok, exists_const, pure_eq_ok] at h
    obtain ⟨_, hpublisher, -, rfl⟩ := h
    exact ⟨hpublisher, .clearing⟩

/-- What is served for a token while the feeds are active: its appraisal, or else the floor of its
collection. -/
lemma itemQuote_eq_some {quote : Quote} :
    PriceSource.itemQuote feeds item = some quote ↔
      feeds.active = true ∧ (feeds.appraisals.get? item = some quote ∨
        feeds.appraisals.get? item = none ∧ feeds.floors.get? item.collection = some quote) := by
  show (if feeds.active then feeds.recorded item else none) = some quote ↔ _
  cases feeds.active <;> simp [recorded, Option.or_eq_some_iff]

/-- While the same feed answers for a token, the served price moves no further than its feed. -/
lemma movedTo_le_of_source
    (hsource : (feeds'.appraisals.get? item).isSome = (feeds.appraisals.get? item).isSome)
    (happraisal : ∀ quote quote', feeds.appraisals.get? item = some quote →
      feeds'.appraisals.get? item = some quote' → quote.price ≠ 0 →
        quote.movedTo quote' ≤ feeds.maxDeviation)
    (hfloor : ∀ quote quote', feeds.floors.get? item.collection = some quote →
      feeds'.floors.get? item.collection = some quote' → quote.price ≠ 0 →
        quote.movedTo quote' ≤ feeds.maxDeviation)
    (hbefore : PriceSource.itemQuote feeds item = some before)
    (hafter : PriceSource.itemQuote feeds' item = some after) (hpositive : before.price ≠ 0) :
    before.movedTo after ≤ feeds.maxDeviation := by
  obtain ⟨-, hb | ⟨hb, hb'⟩⟩ := itemQuote_eq_some.mp hbefore
  · obtain ⟨-, ha | ⟨ha, -⟩⟩ := itemQuote_eq_some.mp hafter
    · exact happraisal before after hb ha hpositive
    · rw [hb, ha] at hsource
      cases hsource
  · obtain ⟨-, ha | ⟨-, ha'⟩⟩ := itemQuote_eq_some.mp hafter
    · rw [hb, ha] at hsource
      cases hsource
    · exact hfloor before after hb' ha' hpositive

/-- A feed that stays as it is does not move. -/
lemma movedTo_le_of_same {κ : Type} [Ord κ] {quotes quotes' : SortedMap κ Quote} {key : κ}
    {bound : Nat} (hsame : quotes'.get? key = quotes.get? key) :
    ∀ quote quote', quotes.get? key = some quote → quotes'.get? key = some quote' →
      quote.price ≠ 0 → quote.movedTo quote' ≤ bound := by
  intro quote quote' hquote hquote' _
  rw [hsame, hquote] at hquote'
  obtain rfl := Option.some.inj hquote'
  rw [Quote.movedTo_self]
  exact Nat.zero_le bound

/-- An appraisal moves the price that is served for a token by at most the deviation bound, unless it
is the first one of that token. -/
lemma appraisal_within {appraised : Item} {old : Nat} {appraisals : SortedMap Item Quote}
    (h : publish feeds.appraisals appraised price now feeds.maxDeviation = .ok (old, appraisals))
    (hbound : feeds.maxDeviation < maxClock)
    (hbefore : PriceSource.itemQuote feeds item = some before)
    (hafter : PriceSource.itemQuote { feeds with appraisals } item = some after)
    (hpositive : before.price ≠ 0) :
    before.movedTo after ≤ feeds.maxDeviation ∨
      appraised = item ∧ feeds.appraisals.get? item = none ∧ after = ⟨price, now⟩ := by
  have hserved := publish_get? h item
  by_cases hfirst : appraised = item ∧ feeds.appraisals.get? item = none
  · obtain ⟨rfl, hnone⟩ := hfirst
    rw [if_pos rfl] at hserved
    obtain ⟨-, ha | ⟨ha, -⟩⟩ := itemQuote_eq_some.mp hafter
    · exact .inr ⟨rfl, hnone, Option.some.inj (ha.symm.trans hserved)⟩
    · exact nomatch ha.symm.trans hserved
  · -- the token had an appraisal before, or another token is appraised
    left
    refine movedTo_le_of_source ?_ ?_ ?_ hbefore hafter hpositive
    · show Option.isSome _ = _
      rw [hserved]
      split
      · next heq =>
        rw [Option.isSome_some, eq_comm, Option.isSome_iff_ne_none]
        exact fun hnone => hfirst ⟨heq.symm, hnone⟩
      · rfl
    · exact fun _ _ hq hq' => publish_within h hbound hq hq'
    · exact movedTo_le_of_same rfl

/-- Dropping an appraisal leaves the price that is served for a token, unless it was the appraisal of
that token. -/
lemma clearing_within {cleared : Item}
    (hbefore : PriceSource.itemQuote feeds item = some before)
    (hafter : PriceSource.itemQuote
      { feeds with appraisals := feeds.appraisals.erase cleared } item = some after)
    (hpositive : before.price ≠ 0) :
    before.movedTo after ≤ feeds.maxDeviation ∨
      cleared = item ∧ feeds.appraisals.get? item = some before ∧
        feeds.floors.get? item.collection = some after := by
  by_cases hitem : item = cleared
  · subst hitem
    have herased : (feeds.appraisals.erase item).get? item = none :=
      SortedMap.get?_erase_self _ _
    obtain ⟨-, ha | ⟨-, ha⟩⟩ := itemQuote_eq_some.mp hafter
    · exact nomatch herased.symm.trans ha
    · obtain ⟨-, hb | ⟨-, hb⟩⟩ := itemQuote_eq_some.mp hbefore
      · exact .inr ⟨rfl, hb, ha⟩
      · -- the floor answers before and after
        exact .inl (movedTo_le_of_same rfl before after hb ha hpositive)
  · have hsame : (feeds.appraisals.erase cleared).get? item = feeds.appraisals.get? item :=
      SortedMap.get?_erase_of_ne _ hitem
    left
    refine movedTo_le_of_source (congrArg Option.isSome hsame) ?_ ?_ hbefore hafter hpositive
    · exact movedTo_le_of_same hsame
    · exact movedTo_le_of_same rfl

/-- One publication moves the price that is served for a token by at most the deviation bound,
unless it is the first appraisal of that token, which is then served as published, or it clears the
appraisal of that token, so that the floor is served as it stands. -/
theorem served_within (h : feeds.accept caller now request = .ok feeds')
    (hbound : feeds.maxDeviation < maxClock)
    (hbefore : PriceSource.itemQuote feeds item = some before)
    (hafter : PriceSource.itemQuote feeds' item = some after) (hpositive : before.price ≠ 0) :
    before.movedTo after ≤ feeds.maxDeviation ∨
    (∃ price, request = .appraisal item price ∧ feeds.appraisals.get? item = none ∧
      after = ⟨price, now⟩) ∨
    (request = .clearing item ∧ feeds.appraisals.get? item = some before ∧
      feeds.floors.get? item.collection = some after) := by
  cases (accept_eq_ok h).2 with
  | asset hp =>
    left
    refine movedTo_le_of_source ?_ ?_ ?_ hbefore hafter hpositive
    · rfl
    · exact movedTo_le_of_same rfl
    · exact movedTo_le_of_same rfl
  | floor hp =>
    left
    refine movedTo_le_of_source ?_ ?_ ?_ hbefore hafter hpositive
    · rfl
    · exact movedTo_le_of_same rfl
    · exact fun _ _ hq hq' => publish_within hp hbound hq hq'
  | @appraisal _ price _ _ hp =>
    rcases appraisal_within hp hbound hbefore hafter hpositive with hwithin | ⟨rfl, hnone, hserved⟩
    · exact .inl hwithin
    · exact .inr (.inl ⟨price, rfl, hnone, hserved⟩)
  | clearing =>
    rcases clearing_within hbefore hafter hpositive with hwithin | ⟨rfl, hcleared, hfloor⟩
    · exact .inl hwithin
    · exact .inr (.inr ⟨rfl, hcleared, hfloor⟩)

end PriceFeeds

namespace SmallMarket

/-- The founder raises the floor of the collection from 1000 to 1400, and the price of a token moves
by 40%. -/
theorem floor_served_within :
    (⟨1000 * wad, 0⟩ : Quote).movedTo ⟨1400 * wad, 5⟩ = 4000 ∧ 4000 ≤ feeds.maxDeviation := by
  have haccepted : ∃ feeds', feeds.accept founder 5 (.floor art (1400 * wad)) = .ok feeds' ∧
      PriceSource.itemQuote feeds' ⟨art, 1⟩ = some ⟨1400 * wad, 5⟩ :=
    ⟨_, rfl, by decide +kernel⟩
  have hbefore : PriceSource.itemQuote feeds ⟨art, 1⟩ = some ⟨1000 * wad, 0⟩ := by decide +kernel
  have hmoved : (⟨1000 * wad, 0⟩ : Quote).movedTo ⟨1400 * wad, 5⟩ = 4000 := by decide +kernel
  obtain ⟨feeds', h, hafter⟩ := haccepted
  rcases PriceFeeds.served_within h (by decide) hbefore hafter (by decide) with
    hwithin | ⟨_, hrequest, -⟩ | ⟨hrequest, -⟩
  · exact ⟨hmoved, hmoved ▸ hwithin⟩
  · cases hrequest
  · cases hrequest

/-- With a bound of 50%, the first appraisal of a token has eight times the floor served, which is a
move of 700%, and clearing it has the floor served again, which is a move of 87.5%. A bound as large
as the largest number bounds no move of a floor. -/
theorem first_appraisal_leaps :
    feeds.maxDeviation = 5000 ∧
    (∃ appraised cleared,
      feeds.accept founder 1 (.appraisal ⟨art, 9⟩ (8000 * wad)) = .ok appraised ∧
      PriceSource.itemQuote feeds ⟨art, 9⟩ = some ⟨1000 * wad, 0⟩ ∧
      PriceSource.itemQuote appraised ⟨art, 9⟩ = some ⟨8000 * wad, 1⟩ ∧
      (⟨1000 * wad, 0⟩ : Quote).movedTo ⟨8000 * wad, 1⟩ = 70000 ∧
      appraised.accept founder 2 (.clearing ⟨art, 9⟩) = .ok cleared ∧
      PriceSource.itemQuote cleared ⟨art, 9⟩ = some ⟨1000 * wad, 0⟩ ∧
      (⟨8000 * wad, 1⟩ : Quote).movedTo ⟨1000 * wad, 0⟩ = 8750) ∧
    ∃ leapt : PriceFeeds,
      PriceFeeds.accept { feeds with maxDeviation := maxClock } founder 1
        (.floor art (2 ^ 51 * 1000 * wad)) = .ok leapt ∧
      PriceSource.itemQuote leapt ⟨art, 1⟩ = some ⟨2 ^ 51 * 1000 * wad, 1⟩ ∧
      maxClock < (⟨1000 * wad, 0⟩ : Quote).movedTo ⟨2 ^ 51 * 1000 * wad, 1⟩ := by
  refine ⟨by decide, ⟨_, _, rfl, ?_, ?_, ?_, rfl, ?_, ?_⟩, _, rfl, ?_, ?_⟩
  all_goals decide +kernel

end SmallMarket

namespace PriceFeeds

/-! ### What escapes the bound -/

variable {feeds feeds' : PriceFeeds} {caller : Account} {now price : Nat} {item : Item}
variable {request : Publication} {before : Quote}

/-- A publisher gives a token without an appraisal any first one, whatever the floor is. -/
lemma accept_first (hpublisher : feeds.requirePublisher caller = .ok ()) (hprice : price ≠ 0)
    (hnone : feeds.appraisals.get? item = none) :
    feeds.accept caller now (.appraisal item price) =
      .ok { feeds with appraisals := feeds.appraisals.insert item ⟨price, now⟩ } := by
  simp only [accept, updateAppraisal, hpublisher, publish_new hprice hnone, Bind.bind, Except.bind,
    pure, Except.pure, Functor.map, Except.map]

/-- A publisher clears any appraisal. -/
lemma accept_clearing (hpublisher : feeds.requirePublisher caller = .ok ())
    (hpresent : feeds.appraisals.get? item = some before) :
    feeds.accept caller now (.clearing item) =
      .ok { feeds with appraisals := feeds.appraisals.erase item } := by
  have hcontains : feeds.appraisals.contains item = true := by
    rw [SortedMap.contains, hpresent]
    rfl
  simp only [accept, clearAppraisal, hpublisher, hcontains, require, if_true, Bind.bind,
    Except.bind, pure, Except.pure]

/-- Carries out publications of a caller at a moment, one after the other. -/
def acceptAll (feeds : PriceFeeds) (caller : Account) (now : Nat) (requests : List Publication) :
    Result PriceFeeds :=
  requests.foldlM (fun feeds request => feeds.accept caller now request) feeds

/-- With at most two publications at one moment a publisher has any positive price served for any
token, whatever the deviation bound is. -/
theorem any_price_served (hpublisher : feeds.requirePublisher caller = .ok ())
    (hprice : price ≠ 0) (now : Nat) (item : Item) :
    ∃ requests feeds', requests.length ≤ 2 ∧ feeds.acceptAll caller now requests = .ok feeds' ∧
      PriceSource.itemQuote feeds' item = some ⟨price, now⟩ := by
  have hactive : feeds.active = true := by
    simp only [requirePublisher, bind_eq_ok, require_eq_ok] at hpublisher
    obtain ⟨-, -, hactive⟩ := hpublisher
    exact hactive
  cases hpresent : feeds.appraisals.get? item with
  | none =>
    refine ⟨[.appraisal item price],
      { feeds with appraisals := feeds.appraisals.insert item ⟨price, now⟩ }, Nat.le_succ 1, ?_,
      itemQuote_eq_some.mpr ⟨hactive, .inl (SortedMap.get?_insert_self _ _ _)⟩⟩
    simp only [acceptAll, List.foldlM_cons, accept_first hpublisher hprice hpresent]
    rfl
  | some quote =>
    -- the appraisal is cleared first, so that the next one is a first one again
    have hnone : (feeds.appraisals.erase item).get? item = none := SortedMap.get?_erase_self _ _
    have hfirst : PriceFeeds.accept { feeds with appraisals := feeds.appraisals.erase item } caller
        now (.appraisal item price) = .ok { feeds with
          appraisals := (feeds.appraisals.erase item).insert item ⟨price, now⟩ } :=
      accept_first hpublisher hprice hnone
    refine ⟨[.clearing item, .appraisal item price],
      { feeds with appraisals := (feeds.appraisals.erase item).insert item ⟨price, now⟩ },
      Nat.le_refl 2, ?_,
      itemQuote_eq_some.mpr ⟨hactive, .inl (SortedMap.get?_insert_self _ _ _)⟩⟩
    simp only [acceptAll, List.foldlM_cons, accept_clearing hpublisher hpresent, Bind.bind,
      Except.bind, hfirst]
    rfl

/-! ## Feeds over time -/

/-- The feeds that come about from empty ones by publications and by the requests of those who
manage the operators. -/
inductive Reachable : PriceFeeds → Prop where
  | created (founder : Account) (now : Nat) : Reachable (create founder now)
  | hired {feeds feeds' : PriceFeeds} {caller account : Account} {now : Nat}
      (hr : Reachable feeds) (h : feeds.addOperator caller account now = .ok feeds') :
      Reachable feeds'
  | dismissed {feeds feeds' : PriceFeeds} {caller account : Account} {now : Nat}
      (hr : Reachable feeds) (h : feeds.removeOperator caller account now = .ok feeds') :
      Reachable feeds'
  | switched {feeds feeds' : PriceFeeds} {caller : Account} {active : Bool}
      (hr : Reachable feeds) (h : feeds.setActive caller active = .ok feeds') : Reachable feeds'
  | bounded {feeds feeds' : PriceFeeds} {caller : Account} {bps : Nat}
      (hr : Reachable feeds) (h : feeds.setMaxDeviation caller bps = .ok feeds') :
      Reachable feeds'
  | accepted {feeds feeds' : PriceFeeds} {caller : Account} {now : Nat} {request : Publication}
      (hr : Reachable feeds) (h : feeds.accept caller now request = .ok feeds') :
      Reachable feeds'

/-- What holds of feeds over time: the deviation bound is at most the whole price, and every price
is positive. -/
structure Sound (feeds : PriceFeeds) : Prop where
  bounded : feeds.maxDeviation ≤ fullShare
  assets : ∀ asset quote, feeds.assets.get? asset = some quote → quote.price ≠ 0
  floors : ∀ collection quote, feeds.floors.get? collection = some quote → quote.price ≠ 0
  appraisals : ∀ item quote, feeds.appraisals.get? item = some quote → quote.price ≠ 0

/-- An accepted publication keeps feeds sound. -/
lemma Sound.accept (hs : feeds.Sound) (h : feeds.accept caller now request = .ok feeds') :
    feeds'.Sound := by
  cases (accept_eq_ok h).2 with
  | asset hp => exact { hs with assets := fun _ _ => publish_positive hp hs.assets }
  | floor hp => exact { hs with floors := fun _ _ => publish_positive hp hs.floors }
  | appraisal hp => exact { hs with appraisals := fun _ _ => publish_positive hp hs.appraisals }
  | @clearing cleared =>
    refine { hs with appraisals := fun item quote hquote => ?_ }
    by_cases hitem : item = cleared
    · subst hitem
      exact nomatch (SortedMap.get?_erase_self _ _).symm.trans hquote
    · exact hs.appraisals item quote ((SortedMap.get?_erase_of_ne _ hitem).symm.trans hquote)

/-- Feeds stay sound over time. -/
theorem Reachable.sound (hr : feeds.Reachable) : feeds.Sound := by
  induction hr with
  | created founder now =>
    refine ⟨?_, ?_, ?_, ?_⟩
    · exact (by decide : defaultDeviation ≤ fullShare)
    all_goals exact fun _ _ h => nomatch h
  | hired _ h ih | dismissed _ h ih =>
    simp only [addOperator, removeOperator, bind_eq_ok, pure_eq_ok] at h
    obtain ⟨_, -, rfl⟩ := h
    exact { ih with }
  | switched _ h ih =>
    simp only [setActive, bind_eq_ok, pure_eq_ok] at h
    obtain ⟨_, -, rfl⟩ := h
    exact { ih with }
  | bounded _ h ih =>
    simp only [setMaxDeviation, bind_eq_ok, require_eq_ok, exists_const, pure_eq_ok] at h
    obtain ⟨-, -, ⟨-, hbps⟩, rfl⟩ := h
    exact { ih with bounded := hbps }
  | accepted _ h ih => exact ih.accept h

end PriceFeeds

end PooledCredit
