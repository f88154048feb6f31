import Mathlib.Tactic.IntervalCases
import PooledCredit.Proofs.Wire.Canonical
import PooledCredit.Wire.Events

/-!
# Every event has one written form

An event is written as the place of its kind and its fields, so its codec is canonical when the
branches are: each opens just the events that it makes, and no event is made by two of them, as each
makes events of a kind of its own. Events whose numbers are in range are therefore told apart by
their written forms, and no other bytes are read as an event.
-/

namespace PooledCredit

/-- The numbers of an event are in the ranges of what they stand for. -/
def Event.InRange : Event → Prop
  -- reserves
  | deposited _ _ _ amount referral time =>
    amount < amountBound ∧ referral < Bytes.span 2 ∧ time < clockBound
  | withdrawn _ _ _ amount time => amount < amountBound ∧ time < clockBound
  | reserveUpdated _ supplyRate borrowRate supplyIndex debtIndex time =>
    supplyRate < amountBound ∧ borrowRate < amountBound ∧ supplyIndex < amountBound ∧
      debtIndex < amountBound ∧ time < clockBound
  | reserveOpened _ decimals time => decimals < Bytes.span 1 ∧ time < clockBound
  | reserveConfigured _ _ _ _ factor time => factor < clockBound ∧ time < clockBound
  | vaultMoved _ invested divested loss time =>
    invested < amountBound ∧ divested < amountBound ∧ loss < amountBound ∧ time < clockBound
  -- loans
  | borrowed _ _ _ amount item loan borrowRate referral time =>
    amount < amountBound ∧ item.token < clockBound ∧ loan < clockBound ∧
      borrowRate < amountBound ∧ referral < Bytes.span 2 ∧ time < clockBound
  | repaid _ _ _ amount item loan _ time =>
    amount < amountBound ∧ item.token < clockBound ∧ loan < clockBound ∧ time < clockBound
  | bidPlaced _ _ price _ item _ loan time =>
    price < amountBound ∧ item.token < clockBound ∧ loan < clockBound ∧ time < clockBound
  | redeemed _ _ paid fine item _ loan time =>
    paid < amountBound ∧ fine < amountBound ∧ item.token < clockBound ∧ loan < clockBound ∧
      time < clockBound
  | liquidated _ _ paid surplus loss item _ loan time =>
    paid < amountBound ∧ surplus < amountBound ∧ loss < amountBound ∧
      item.token < clockBound ∧ loan < clockBound ∧ time < clockBound
  | sold _ _ proceeds paid surplus loss item _ loan time =>
    proceeds < amountBound ∧ paid < amountBound ∧ surplus < amountBound ∧
      loss < amountBound ∧ item.token < clockBound ∧ loan < clockBound ∧ time < clockBound
  | mandateSet _ _ _ time => time < clockBound
  -- collateral
  | termsSet _ token ltv threshold bonus time =>
    (∀ number ∈ token, number < clockBound) ∧ ltv < clockBound ∧ threshold < clockBound ∧
      bonus < clockBound ∧ time < clockBound
  | collateralSwitched _ _ _ time => time < clockBound
  -- resale of debt
  | debtListed _ item _ _ price endsAt time =>
    item.token < clockBound ∧ price < amountBound ∧ endsAt < clockBound ∧ time < clockBound
  | debtSold _ item _ _ price time | debtClaimed _ item _ _ price time =>
    item.token < clockBound ∧ price < amountBound ∧ time < clockBound
  | debtBid _ item _ amount time =>
    item.token < clockBound ∧ amount < amountBound ∧ time < clockBound
  | listingCancelled _ item refunded time =>
    item.token < clockBound ∧ refunded < amountBound ∧ time < clockBound
  -- governance
  | paused _ time | unpaused _ time | roleGranted _ _ _ time | roleRevoked _ _ _ time =>
    time < clockBound
  | priceUpdated _ token oldPrice newPrice time =>
    (∀ number ∈ token, number < clockBound) ∧ oldPrice < amountBound ∧ newPrice < amountBound ∧
      time < clockBound

namespace Codec

/-! ## The parts of an event -/

instance : Canonical item := record_canonical (fun _ => rfl) fun _ => rfl

instance : Canonical saleKind := choice_canonical (by decide) (by decide)

instance : Canonical role := choice_canonical (by decide) (by decide)

/-! ## The branches of an event -/

variable {i : Nat} {branch : Branch Event} {e : Event}

/-- A branch is lawful when its codec is canonical, it opens what it makes and it makes again what
it opens. -/
lemma Branch.lawful {α : Type} {branch : Branch α} (hcanonical : Canonical branch.codec)
    (hopen : ∀ payload, branch.open? (branch.make payload) = some payload)
    (hmake : ∀ a payload, branch.open? a = some payload → branch.make payload = a) :
    branch.Lawful where
  canonical := hcanonical
  open_iff {a payload} := ⟨hmake a payload, fun h => h ▸ hopen payload⟩

/-- Every branch of an event is lawful. -/
lemma eventBranches_lawful : ∀ branch ∈ eventBranches, branch.Lawful := by
  simp only [eventBranches, List.forall_mem_cons, List.not_mem_nil, false_implies, implies_true,
    and_true]
  repeat' apply And.intro
  all_goals
    refine Branch.lawful inferInstance (fun _ => rfl) fun e payload hopen => ?_
    -- a branch opens only events of its own form
    dsimp only at hopen
    split at hopen
    · cases hopen
      rfl
    · cases hopen

/-- The events that a branch makes are of the kind in its place. -/
lemma kind_make (hget : eventBranches[i]? = some branch) (payload : branch.Payload) :
    EventKind.all[i]? = some (branch.make payload).kind := by
  obtain ⟨hplace, rfl⟩ := List.getElem?_eq_some_iff.mp hget
  have hplace : i < 25 := hplace
  interval_cases i <;> rfl

/-- No event is made by two branches, for no kind has two places. -/
lemma eventBranches_apart : Apart eventBranches := by
  intro i j branch branch' payload payload' hget hget' hmakes
  have hkind := kind_make hget payload
  have hkind' := kind_make hget' payload'
  rw [← hmakes] at hkind'
  obtain ⟨hi, hkind⟩ := List.getElem?_eq_some_iff.mp hkind
  obtain ⟨hj, hkind'⟩ := List.getElem?_eq_some_iff.mp hkind'
  have hnodup : EventKind.all.Nodup := by decide
  exact (List.getElem_inj hnodup).mp (hkind.trans hkind'.symm)

/-- The codec of events is canonical. -/
instance event_canonical : Canonical event :=
  oneOf_canonical eventBranches_lawful eventBranches_apart (by decide)

/-- The branch in the place of its kind opens an event. -/
lemma event_opens (e : Event) : ∃ branch payload,
    eventBranches[EventKind.all.idxOf e.kind]? = some branch ∧ branch.open? e = some payload := by
  cases e <;> exact ⟨_, _, rfl, rfl⟩

/-- Every kind of sale fits. -/
lemma fits_saleKind (kind : SaleKind) : saleKind.Fits kind := by
  cases kind <;> simp [saleKind, choice]

/-- Every role fits. -/
lemma fits_role (r : Role) : role.Fits r := by
  cases r <;> simp [role, choice]

/-- Both flags fit. -/
lemma fits_flag (b : Bool) : flag.Fits b := by
  cases b <;> simp [flag, choice]

/-- An optional value fits when the value that there is does. -/
lemma fits_optional {α : Type} {codec : Codec α} {value : Option α} :
    (optional codec).Fits value ↔ ∀ a ∈ value, codec.Fits a := by
  cases value <;> simp [optional]

/-- An event fits exactly when its numbers are in range. -/
lemma event_fits_iff : event.Fits e ↔ e.InRange := by
  have hfits {branch payload} (hget : eventBranches[EventKind.all.idxOf e.kind]? = some branch)
      (hopen : branch.open? e = some payload) : event.Fits e ↔ branch.codec.Fits payload := by
    have hlawful := eventBranches_lawful branch (List.mem_of_getElem? hget)
    obtain rfl := hlawful.open_iff.mp hopen
    exact fits_make eventBranches_lawful eventBranches_apart hget
  cases e
  all_goals
    refine (hfits rfl rfl).trans ?_
    simp [Event.InRange, pair, number, byte, clock, amount, id, item, record, fits_flag,
      fits_saleKind, fits_role, fits_optional, amountBound, clockBound]

/-! ## The written form of an event -/

/-- What is written of an event starts with the place of its kind. -/
lemma event_write_head (e : Event) :
    (event.write e).head? = some (UInt8.ofNat (EventKind.all.idxOf e.kind)) := by
  obtain ⟨branch, payload, hget, hopen⟩ := event_opens e
  have hlawful := eventBranches_lawful branch (List.mem_of_getElem? hget)
  obtain rfl := hlawful.open_iff.mp hopen
  have hwrite := write_make eventBranches_lawful eventBranches_apart hget payload
  exact congrArg List.head? hwrite

/-- The first byte of what is decoded as an event is the place of its kind. -/
lemma event_tag {tag : UInt8} {payload : Bytes} (h : event.decode (tag :: payload) = some e) :
    EventKind.all[tag.toNat]? = some e.kind := by
  obtain ⟨left, bytes, branch, fields, heq, hget, -, rfl⟩ := read_oneOf.mp (decode_eq_some.mp h)
  obtain ⟨rfl, rfl⟩ := List.cons.inj heq
  exact kind_make hget fields

/-- Events whose numbers are in range have exactly one written form each. Such an event is decoded
from what is written of it, and bytes are decoded as an event only if they are what is written of
it, and then its numbers are in range. So no two events share a written form, and a written form is
not decoded when it is cut off or has bytes after it. Its first byte is the place of the kind of the
event: with another first byte, it is not decoded as an event of that kind, nor at all if no kind
has that place. -/
theorem event_written_once :
    (∀ e : Event, e.InRange → event.decode (event.write e) = some e) ∧
    (∀ bytes e, event.decode bytes = some e → e.InRange ∧ event.write e = bytes) ∧
    (∀ e e' : Event, e.InRange → e'.InRange → event.write e = event.write e' → e = e') ∧
    (∀ e : Event, e.InRange → ∀ n < (event.write e).length,
      event.decode ((event.write e).take n) = none) ∧
    (∀ e : Event, e.InRange → ∀ extra ≠ [], event.decode (event.write e ++ extra) = none) ∧
    (∀ e : Event, (event.write e).head? = some (UInt8.ofNat (EventKind.all.idxOf e.kind))) ∧
    (∀ tag payload e, event.decode (tag :: payload) = some e →
      EventKind.all[tag.toNat]? = some e.kind) ∧
    ∀ tag payload, EventKind.all.length ≤ tag.toNat → event.decode (tag :: payload) = none := by
  refine ⟨?exact, ?only, ?apart, ?cut, ?extended, event_write_head, fun _ _ _ => event_tag,
    ?unknown⟩
  case exact => exact fun e he => decode_iff.mpr ⟨event_fits_iff.mpr he, rfl⟩
  case only =>
    intro bytes e hdecode
    obtain ⟨hfits, hbytes⟩ := decode_iff.mp hdecode
    exact ⟨event_fits_iff.mp hfits, hbytes.symm⟩
  case apart =>
    exact fun e e' he he' => write_injective (event_fits_iff.mpr he) (event_fits_iff.mpr he')
  case cut => exact fun e he n hn => decode_truncated (event_fits_iff.mpr he) hn
  case extended => exact fun e he extra hextra => decode_extended (event_fits_iff.mpr he) hextra
  case unknown =>
    intro tag payload htag
    refine Option.eq_none_iff_forall_ne_some.mpr fun e hdecode => ?_
    have hkind := event_tag hdecode
    rw [List.getElem?_eq_none htag] at hkind
    cases hkind

/-- A debt that is offered at auction. -/
def offered : Event :=
  .debtListed (Id.fill 0x09) ⟨Id.fill 0xC0, 1⟩ (Id.fill 0x03) .auction 150 3600 7

/-- The offer is decoded from what is written of it, and no longer when the last byte of that is
missing, when another byte follows, or when the place of its kind is changed to one of no kind; with
the place of another kind it is not decoded as the offer. -/
theorem offered_written_once :
    offered.InRange ∧ event.decode (event.write offered) = some offered ∧
    event.decode ((event.write offered).take 137) = none ∧
    event.decode (event.write offered ++ [0]) = none ∧
    event.decode (25 :: (event.write offered).tail) = none ∧
    event.decode (16 :: (event.write offered).tail) ≠ some offered := by
  obtain ⟨hexact, -, -, hcut, hextended, -, htag, hunknown⟩ := event_written_once
  have hrange : offered.InRange := by
    simp only [Event.InRange, offered]
    decide
  have hlength : 137 < (event.write offered).length := by decide +kernel
  refine ⟨hrange, hexact offered hrange, hcut offered hrange 137 hlength,
    hextended offered hrange [0] (by decide), hunknown 25 _ (by decide), fun hdecode => ?_⟩
  have hkind : EventKind.all[16]? = some offered.kind := htag 16 _ offered hdecode
  revert hkind
  decide

end Codec

end PooledCredit
