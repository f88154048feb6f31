import PooledCredit.Event
import PooledCredit.Wire.State

/-!
# The written form of events

An event is written as its place among the events and its fields in the order in which the event
lists them; the kind of an event is written as its number.
-/

namespace PooledCredit

namespace Codec

/-- The branches of an event. -/
def eventBranches : List (Branch Event) :=
  [ .mk _
      (id.pair <| id.pair <| id.pair <| amount.pair <| (number 2).pair clock)
      (fun (asset, user, beneficiary, amount, referral, time) =>
        .deposited asset user beneficiary amount referral time)
      (fun
        | .deposited asset user beneficiary amount referral time =>
          some (asset, user, beneficiary, amount, referral, time)
        | _ => none),
    .mk _
      (id.pair <| id.pair <| id.pair <| amount.pair clock)
      (fun (asset, user, recipient, amount, time) => .withdrawn asset user recipient amount time)
      (fun
        | .withdrawn asset user recipient amount time => some (asset, user, recipient, amount, time)
        | _ => none),
    .mk _
      (id.pair <| amount.pair <| amount.pair <| amount.pair <| amount.pair clock)
      (fun (asset, supplyRate, borrowRate, supplyIndex, debtIndex, time) =>
        .reserveUpdated asset supplyRate borrowRate supplyIndex debtIndex time)
      (fun
        | .reserveUpdated asset supplyRate borrowRate supplyIndex debtIndex time =>
          some (asset, supplyRate, borrowRate, supplyIndex, debtIndex, time)
        | _ => none),
    .mk _
      (id.pair <| byte.pair clock)
      (fun (asset, decimals, time) => .reserveOpened asset decimals time)
      (fun
        | .reserveOpened asset decimals time => some (asset, decimals, time)
        | _ => none),
    .mk _
      (id.pair <| flag.pair <| flag.pair <| flag.pair <| clock.pair clock)
      (fun (asset, active, frozen, borrowing, factor, time) =>
        .reserveConfigured asset active frozen borrowing factor time)
      (fun
        | .reserveConfigured asset active frozen borrowing factor time =>
          some (asset, active, frozen, borrowing, factor, time)
        | _ => none),
    .mk _
      (id.pair <| amount.pair <| amount.pair <| amount.pair clock)
      (fun (asset, invested, divested, loss, time) => .vaultMoved asset invested divested loss time)
      (fun
        | .vaultMoved asset invested divested loss time =>
          some (asset, invested, divested, loss, time)
        | _ => none),
    .mk _
      (id.pair <| id.pair <| id.pair <| amount.pair <| item.pair <| clock.pair <| amount.pair <|
        (number 2).pair clock)
      (fun (asset, user, debtor, amount, item, loan, borrowRate, referral, time) =>
        .borrowed asset user debtor amount item loan borrowRate referral time)
      (fun
        | .borrowed asset user debtor amount item loan borrowRate referral time =>
          some (asset, user, debtor, amount, item, loan, borrowRate, referral, time)
        | _ => none),
    .mk _
      (id.pair <| id.pair <| id.pair <| amount.pair <| item.pair <| clock.pair <| flag.pair clock)
      (fun (asset, user, debtor, amount, item, loan, closed, time) =>
        .repaid asset user debtor amount item loan closed time)
      (fun
        | .repaid asset user debtor amount item loan closed time =>
          some (asset, user, debtor, amount, item, loan, closed, time)
        | _ => none),
    .mk _
      (id.pair <| id.pair <| amount.pair <| id.pair <| item.pair <| id.pair <| clock.pair clock)
      (fun (asset, user, price, bidder, item, debtor, loan, time) =>
        .bidPlaced asset user price bidder item debtor loan time)
      (fun
        | .bidPlaced asset user price bidder item debtor loan time =>
          some (asset, user, price, bidder, item, debtor, loan, time)
        | _ => none),
    .mk _
      (id.pair <| id.pair <| amount.pair <| amount.pair <| item.pair <| id.pair <| clock.pair clock)
      (fun (asset, user, repaid, fine, item, debtor, loan, time) =>
        .redeemed asset user repaid fine item debtor loan time)
      (fun
        | .redeemed asset user repaid fine item debtor loan time =>
          some (asset, user, repaid, fine, item, debtor, loan, time)
        | _ => none),
    .mk _
      (id.pair <| id.pair <| amount.pair <| amount.pair <| amount.pair <| item.pair <| id.pair <|
        clock.pair clock)
      (fun (asset, user, repaid, surplus, loss, item, debtor, loan, time) =>
        .liquidated asset user repaid surplus loss item debtor loan time)
      (fun
        | .liquidated asset user repaid surplus loss item debtor loan time =>
          some (asset, user, repaid, surplus, loss, item, debtor, loan, time)
        | _ => none),
    .mk _
      (id.pair <| id.pair <| amount.pair <| amount.pair <| amount.pair <| amount.pair <| item.pair
        <| id.pair <| clock.pair clock)
      (fun (asset, user, proceeds, repaid, surplus, loss, item, debtor, loan, time) =>
        .sold asset user proceeds repaid surplus loss item debtor loan time)
      (fun
        | .sold asset user proceeds repaid surplus loss item debtor loan time =>
          some (asset, user, proceeds, repaid, surplus, loss, item, debtor, loan, time)
        | _ => none),
    .mk _
      (id.pair <| id.pair <| flag.pair clock)
      (fun (delegator, delegatee, approved, time) => .mandateSet delegator delegatee approved time)
      (fun
        | .mandateSet delegator delegatee approved time =>
          some (delegator, delegatee, approved, time)
        | _ => none),
    .mk _
      (id.pair <| (optional clock).pair <| clock.pair <| clock.pair <| clock.pair clock)
      (fun (collection, token, ltv, threshold, bonus, time) =>
        .termsSet collection token ltv threshold bonus time)
      (fun
        | .termsSet collection token ltv threshold bonus time =>
          some (collection, token, ltv, threshold, bonus, time)
        | _ => none),
    .mk _
      (id.pair <| flag.pair <| flag.pair clock)
      (fun (collection, active, frozen, time) => .collateralSwitched collection active frozen time)
      (fun
        | .collateralSwitched collection active frozen time =>
          some (collection, active, frozen, time)
        | _ => none),
    .mk _
      (id.pair <| item.pair <| id.pair <| saleKind.pair <| amount.pair <| clock.pair clock)
      (fun (listing, item, seller, kind, price, endsAt, time) =>
        .debtListed listing item seller kind price endsAt time)
      (fun
        | .debtListed listing item seller kind price endsAt time =>
          some (listing, item, seller, kind, price, endsAt, time)
        | _ => none),
    .mk _
      (id.pair <| item.pair <| id.pair <| id.pair <| amount.pair clock)
      (fun (listing, item, seller, buyer, price, time) =>
        .debtSold listing item seller buyer price time)
      (fun
        | .debtSold listing item seller buyer price time =>
          some (listing, item, seller, buyer, price, time)
        | _ => none),
    .mk _
      (id.pair <| item.pair <| id.pair <| amount.pair clock)
      (fun (listing, item, bidder, amount, time) => .debtBid listing item bidder amount time)
      (fun
        | .debtBid listing item bidder amount time => some (listing, item, bidder, amount, time)
        | _ => none),
    .mk _
      (id.pair <| item.pair <| id.pair <| id.pair <| amount.pair clock)
      (fun (listing, item, seller, buyer, price, time) =>
        .debtClaimed listing item seller buyer price time)
      (fun
        | .debtClaimed listing item seller buyer price time =>
          some (listing, item, seller, buyer, price, time)
        | _ => none),
    .mk _
      (id.pair <| item.pair <| amount.pair clock)
      (fun (listing, item, refunded, time) => .listingCancelled listing item refunded time)
      (fun
        | .listingCancelled listing item refunded time => some (listing, item, refunded, time)
        | _ => none),
    .mk _
      (id.pair clock)
      (fun (account, time) => .paused account time)
      (fun
        | .paused account time => some (account, time)
        | _ => none),
    .mk _
      (id.pair clock)
      (fun (account, time) => .unpaused account time)
      (fun
        | .unpaused account time => some (account, time)
        | _ => none),
    .mk _
      (id.pair <| role.pair <| id.pair clock)
      (fun (account, role, grantor, time) => .roleGranted account role grantor time)
      (fun
        | .roleGranted account role grantor time => some (account, role, grantor, time)
        | _ => none),
    .mk _
      (id.pair <| role.pair <| id.pair clock)
      (fun (account, role, revoker, time) => .roleRevoked account role revoker time)
      (fun
        | .roleRevoked account role revoker time => some (account, role, revoker, time)
        | _ => none),
    .mk _
      (id.pair <| (optional clock).pair <| amount.pair <| amount.pair clock)
      (fun (feed, token, oldPrice, newPrice, time) =>
        .priceUpdated feed token oldPrice newPrice time)
      (fun
        | .priceUpdated feed token oldPrice newPrice time =>
          some (feed, token, oldPrice, newPrice, time)
        | _ => none)]

/-- An event. -/
def event : Codec Event := oneOf eventBranches

end Codec

namespace EventKind

/-- The written form of a kind. -/
def bytes (kind : EventKind) : Bytes := [kind.code]

end EventKind

end PooledCredit
