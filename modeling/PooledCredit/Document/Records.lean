import PooledCredit.Document.Labels
import PooledCredit.Pool.State
import PooledCredit.Price.Quote
import PooledCredit.View
import PooledCredit.Yield.Simulated

/-!
# Records

The named fields under which everything that a pool keeps, answers and shows is told.
-/

namespace PooledCredit

open Document

/-! ### Terms and settings -/

instance : ToDocument Settings where
  toDocument settings := .record
    [field "pool_account" settings.poolAccount,
      field "treasury" settings.treasury,
      field "max_price_age" settings.maxPriceAge,
      field "debt_dust" settings.debtDust,
      field "min_bid_increment_bps" settings.bidIncrement,
      field "max_redeem_bps" settings.maxRedeemShare,
      field "debt_market_min_increment_bps" settings.debtBidIncrement,
      field "debt_market_max_auction" settings.maxDebtAuction]

instance : ToDocument RateModel where
  toDocument model := .record
    [field "optimal_utilization" model.optimal,
      field "base_rate" model.base,
      field "slope1" model.slope1,
      field "slope2" model.slope2]

instance : ToDocument Rates where
  toDocument rates := .record
    [field "liquidity_rate" rates.supply, field "borrow_rate" rates.borrow]

instance : ToDocument ReserveTerms where
  toDocument terms := .record
    [field "decimals" terms.decimals,
      field "reserve_factor_bps" terms.factor,
      field "rate_strategy" terms.model,
      field "vault_debt_ratio_bps" terms.vaultShare]

instance : ToDocument CollateralTerms where
  toDocument terms := .record
    [field "ltv_bps" terms.ltv,
      field "liquidation_threshold_bps" terms.threshold,
      field "liquidation_bonus_bps" terms.bonus,
      field "redeem_duration" terms.redeemWindow,
      field "auction_duration" terms.bidWindow,
      field "redeem_fine_bps" terms.fine,
      field "redeem_threshold_bps" terms.redeemThreshold,
      field "min_bid_fine" terms.minFine,
      field "max_supply" terms.maxLoans,
      field "max_token_id" terms.maxToken]

/-! ### State -/

instance : ToDocument Reserve where
  toDocument reserve := .record
    [field "asset" reserve.asset,
      field "decimals" reserve.decimals,
      field "liquidity_index" reserve.supplyIndex,
      field "variable_borrow_index" reserve.debtIndex,
      field "current_liquidity_rate" reserve.supplyRate,
      field "current_variable_borrow_rate" reserve.borrowRate,
      field "total_scaled_supply" reserve.scaledSupply,
      field "total_scaled_variable_debt" reserve.scaledDebt,
      field "available_liquidity" reserve.idle,
      field "invested_liquidity" reserve.invested,
      field "vault_debt_ratio_bps" reserve.vaultShare,
      field "total_protocol_loss" reserve.losses,
      field "last_update_timestamp" reserve.updatedAt,
      field "reserve_factor_bps" reserve.factor,
      field "is_active" reserve.active,
      field "is_frozen" reserve.frozen,
      field "borrowing_enabled" reserve.borrowing,
      field "rate_strategy" reserve.model]

instance : ToDocument CollateralConfig where
  toDocument config := .record
    [field "params" config.terms,
      field "active" config.active,
      field "frozen" config.frozen,
      field "config_timestamp" config.changedAt]

instance : ToDocument Bid where
  toDocument bid := .record
    [field "bidder" bid.bidder,
      field "payer" bid.payer,
      field "bid_price" bid.price,
      field "bid_borrow_amount" bid.debt,
      field "bid_fine" bid.fine,
      field "bid_start_timestamp" bid.startedAt]

instance : ToDocument Loan where
  toDocument loan := .record
    [field "id" loan.id,
      field "borrower" loan.debtor,
      field "initiator" loan.initiator,
      field "nft" loan.item,
      field "wrapped" loan.wrapped,
      field "reserve_asset" loan.asset,
      field "scaled_amount" loan.scaled,
      field "state" loan.status,
      field "bid" loan.bid,
      field "created_at" loan.createdAt,
      field "updated_at" loan.updatedAt]

instance : ToDocument Listing where
  toDocument listing := .record
    [field "id" listing.id,
      field "nft" listing.item,
      field "loan_id" listing.loan,
      field "sell_type" listing.kind,
      field "seller" listing.seller,
      field "price" listing.price,
      field "auction_end" listing.endsAt,
      field "current_bidder" listing.bidder,
      field "current_bid" listing.bid,
      field "state" listing.status,
      field "created_at" listing.createdAt]

instance : ToDocument Quote where
  toDocument quote := .record [field "price" quote.price, field "updated_at" quote.updatedAt]

instance : ToDocument VaultPosition where
  toDocument position := .record
    [field "balance" position.balance,
      field "pending_loss" position.pendingLoss,
      field "total_loss" position.totalLoss,
      field "liquid_limit" position.liquidLimit]

instance : ToDocument Appointment where
  toDocument appointment := .record
    [field "address" appointment.account,
      field "role" appointment.role,
      field "granted_at" appointment.grantedAt,
      field "granted_by" appointment.grantedBy]

instance : ToDocument RoleRegister where
  toDocument register := .record
    [field "super_admin" register.founder,
      field "assignments" register.appointments,
      field "last_update" register.updatedAt]

instance : ToDocument PauseRecord where
  toDocument record := .record
    [field "paused_by" record.pausedBy,
      field "paused_at" record.pausedAt,
      field "unpaused_by" record.liftedBy,
      field "unpaused_at" record.liftedAt]

instance : ToDocument PauseSwitch where
  toDocument switch := .record
    [field "paused" switch.paused,
      field "pause_history" switch.history,
      field "last_update" switch.updatedAt]

/-! ### Answers -/

instance : ToDocument Accrual where
  toDocument accrual := .record
    [field "interest" accrual.interest, field "treasury_scaled" accrual.treasuryScaled]

instance : ToDocument Repayment where
  toDocument repayment := .record
    [field "paid" repayment.paid,
      field "scaled_burned" repayment.burned,
      field "scaled_remaining" repayment.remaining]

instance : ToDocument Withdrawal where
  toDocument withdrawal := .record
    [field "actual" withdrawal.actual, field "loss" withdrawal.loss]

instance : ToDocument VaultReport where
  toDocument report := .record
    [field "total_debt" report.held, field "total_loss" report.lost]

instance : ToDocument Movement where
  toDocument movement := .record
    [field "invested" movement.invested,
      field "divested" movement.divested,
      field "loss" movement.loss,
      field "empty" movement.isEmpty]

instance : ToDocument RepayReply where
  toDocument reply := .record [field "paid" reply.paid, field "closed" reply.closed]

instance : ToDocument RedeemReply where
  toDocument reply := .record
    [field "repaid" reply.repaid, field "fine" reply.fine, field "closed" reply.closed]

instance : ToDocument Settlement where
  toDocument settlement := .record
    [field "loan_id" settlement.loan,
      field "repay_amount" settlement.repaid,
      field "remain_amount" settlement.surplus,
      field "loss_amount" settlement.loss,
      field "state" settlement.status]

instance : ToDocument Reply where
  toDocument
    | .done => .nothing
    | .amount amount => toDocument amount
    | .loan id => toDocument id
    | .repaid reply => toDocument reply
    | .redeemed reply => toDocument reply
    | .settled settlement => toDocument settlement
    | .listed id => toDocument id
    | .passed debtor => toDocument debtor
    | .moved movement => toDocument movement

instance : ToDocument Failure where
  toDocument
    | .refused cause => .record [field "error" cause.code, field "message" cause.message]
    | .fault cause => .record [field "error" "panic", field "message" cause.message]

/-! ### Views -/

instance : ToDocument Valuation where
  toDocument valuation := .record
    [field "collateral_value" valuation.collateralValue,
      field "collateral_in_reserve" valuation.collateralAmount,
      field "debt" valuation.debt,
      field "debt_value" valuation.debtValue,
      field "reserve_price" valuation.price,
      field "ltv_bps" valuation.ltv,
      field "health_factor" valuation.health,
      field "available_borrows" valuation.capacity]

instance : ToDocument CollateralView where
  toDocument view := .record
    [field "total_collateral" view.collateral,
      field "available_borrows" view.capacity,
      field "ltv_bps" view.ltv,
      field "liquidation_threshold_bps" view.threshold,
      field "liquidation_bonus_bps" view.bonus]

instance : ToDocument DebtView where
  toDocument view := .record
    [field "loan_id" view.loan,
      field "reserve_asset" view.asset,
      field "borrower" view.debtor,
      field "state" view.status,
      field "total_collateral" view.collateral,
      field "total_debt" view.debt,
      field "available_borrows" view.capacity,
      field "health_factor" view.health]

instance : ToDocument AuctionView where
  toDocument view := .record
    [field "loan_id" view.loan,
      field "bidder" view.bidder,
      field "bid_price" view.price,
      field "bid_borrow_amount" view.debt,
      field "bid_fine" view.fine,
      field "bid_start_timestamp" view.startedAt,
      field "min_bid" view.minBid]

end PooledCredit
