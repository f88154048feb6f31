import PooledCredit.Document.Labels
import PooledCredit.Effect

/-!
# Events and transfers

An event is told under the label of its kind, as a record whose last field is its time; a
transfer is told under the label of what it does.
-/

namespace PooledCredit

open Document

/-- The fields of an event, without its time. -/
def Event.fields : Event → List (String × Document)
  | .deposited asset user beneficiary amount referral _ =>
    [field "asset" asset, field "user" user, field "on_behalf_of" beneficiary,
      field "amount" amount, field "referral" referral]
  | .withdrawn asset user recipient amount _ =>
    [field "asset" asset, field "user" user, field "to" recipient, field "amount" amount]
  | .reserveUpdated asset supplyRate borrowRate supplyIndex debtIndex _ =>
    [field "asset" asset, field "liquidity_rate" supplyRate,
      field "variable_borrow_rate" borrowRate, field "liquidity_index" supplyIndex,
      field "variable_borrow_index" debtIndex]
  | .reserveOpened asset decimals _ => [field "asset" asset, field "decimals" decimals]
  | .reserveConfigured asset active frozen borrowing factor _ =>
    [field "asset" asset, field "is_active" active, field "is_frozen" frozen,
      field "borrowing_enabled" borrowing, field "reserve_factor_bps" factor]
  | .vaultMoved asset invested divested loss _ =>
    [field "asset" asset, field "invested" invested, field "divested" divested,
      field "loss" loss]
  | .borrowed asset user debtor amount item loan borrowRate referral _ =>
    [field "asset" asset, field "user" user, field "on_behalf_of" debtor, field "amount" amount,
      field "nft" item, field "loan_id" loan, field "borrow_rate" borrowRate,
      field "referral" referral]
  | .repaid asset user debtor amount item loan closed _ =>
    [field "asset" asset, field "user" user, field "borrower" debtor, field "amount" amount,
      field "nft" item, field "loan_id" loan, field "closed" closed]
  | .bidPlaced asset user price bidder item debtor loan _ =>
    [field "asset" asset, field "user" user, field "bid_price" price,
      field "on_behalf_of" bidder, field "nft" item, field "borrower" debtor,
      field "loan_id" loan]
  | .redeemed asset user paid fine item debtor loan _ =>
    [field "asset" asset, field "user" user, field "repay_amount" paid,
      field "fine_amount" fine, field "nft" item, field "borrower" debtor,
      field "loan_id" loan]
  | .liquidated asset user paid surplus loss item debtor loan _ =>
    [field "asset" asset, field "user" user, field "repay_amount" paid,
      field "remain_amount" surplus, field "loss_amount" loss, field "nft" item,
      field "borrower" debtor, field "loan_id" loan]
  | .sold asset user proceeds paid surplus loss item debtor loan _ =>
    [field "asset" asset, field "user" user, field "sale_price" proceeds,
      field "repay_amount" paid, field "remain_amount" surplus, field "loss_amount" loss,
      field "nft" item, field "borrower" debtor, field "loan_id" loan]
  | .mandateSet delegator delegatee approved _ =>
    [field "delegator" delegator, field "delegatee" delegatee, field "approved" approved]
  | .termsSet collection token ltv threshold bonus _ =>
    [field "collection" collection, field "token_id" token, field "ltv_bps" ltv,
      field "liquidation_threshold_bps" threshold, field "liquidation_bonus_bps" bonus]
  | .collateralSwitched collection active frozen _ =>
    [field "collection" collection, field "active" active, field "frozen" frozen]
  | .debtListed listing item seller kind price endsAt _ =>
    [field "listing_id" listing, field "nft" item, field "seller" seller,
      field "sell_type" kind, field "price" price, field "auction_end" endsAt]
  | .debtSold listing item seller buyer price _ | .debtClaimed listing item seller buyer price _ =>
    [field "listing_id" listing, field "nft" item, field "seller" seller, field "buyer" buyer,
      field "price" price]
  | .debtBid listing item bidder amount _ =>
    [field "listing_id" listing, field "nft" item, field "bidder" bidder,
      field "amount" amount]
  | .listingCancelled listing item refunded _ =>
    [field "listing_id" listing, field "nft" item, field "refunded" refunded]
  | .paused account _ | .unpaused account _ => [field "by" account]
  | .roleGranted account role operator _ | .roleRevoked account role operator _ =>
    [field "account" account, field "role" role, field "by" operator]
  | .priceUpdated feed token oldPrice newPrice _ =>
    [field "feed" feed, field "token_id" token, field "old_price" oldPrice,
      field "new_price" newPrice]

instance : ToDocument Event where
  toDocument event := .record
    [(label event.kind, .record (event.fields ++ [field "timestamp" event.time]))]

instance : ToDocument Transfer where
  toDocument
    | .pay asset source target amount => .record
      [("Token", .record
        [field "asset" asset, field "from" source, field "to" target, field "amount" amount])]
    | .hand item source target => .record
      [("Nft", .record [field "nft" item, field "from" source, field "to" target])]
    | .mint item target => .record
      [("MintWrapped", .record [field "nft" item, field "to" target])]
    | .burn item => .record [("BurnWrapped", .record [field "nft" item])]

end PooledCredit
