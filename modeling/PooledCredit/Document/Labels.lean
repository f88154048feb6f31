import PooledCredit.Document.Basic
import PooledCredit.Event

/-!
# Labels

The labels by which statuses, roles, permissions and the kinds of things are told.
-/

namespace PooledCredit

instance : Labelled LoanStatus where
  all := [.active, .auction, .repaid, .defaulted]
  label := LoanStatus.name

instance : Labelled SaleKind where
  all := [.fixedPrice, .auction]
  label
    | .fixedPrice => "FixedPrice"
    | .auction => "Auction"

instance : Labelled ListingStatus where
  all := [.active, .sold, .cancelled]
  label
    | .active => "Active"
    | .sold => "Sold"
    | .cancelled => "Cancelled"

instance : Labelled Role where
  all := [.admin, .guardian, .riskManager, .publisher]
  label
    | .admin => "PoolAdmin"
    | .guardian => "EmergencyAdmin"
    | .riskManager => "LtvManager"
    | .publisher => "PriceManager"

instance : Labelled Permission where
  all := Permission.all
  label
    | .configureReserve => "ConfigureReserve"
    | .manageVault => "ManageVault"
    | .grantRole => "GrantRole"
    | .pause => "Pause"
    | .configureCollateral => "ConfigureCollateral"
    | .updatePrice => "UpdatePrice"

instance : Labelled Category where
  all :=
    [.authorization, .state, .solvency, .availability, .parameter, .timing, .oracle, .math]
  label
    | .authorization => "Authorization"
    | .state => "State"
    | .solvency => "Solvency"
    | .availability => "Availability"
    | .parameter => "Parameter"
    | .timing => "Timing"
    | .oracle => "Oracle"
    | .math => "Math"

instance : Labelled EventKind where
  all := EventKind.all
  label
    | .deposited => "Deposit"
    | .withdrawn => "Withdraw"
    | .reserveUpdated => "ReserveDataUpdated"
    | .reserveOpened => "ReserveInitialized"
    | .reserveConfigured => "ReserveConfigured"
    | .vaultMoved => "VaultRebalanced"
    | .borrowed => "Borrow"
    | .repaid => "Repay"
    | .bidPlaced => "Auction"
    | .redeemed => "Redeem"
    | .liquidated => "Liquidate"
    | .sold => "LiquidateNftx"
    | .mandateSet => "DelegationApproved"
    | .termsSet => "NftConfigured"
    | .collateralSwitched => "CollateralStatusChanged"
    | .debtListed => "DebtListingCreated"
    | .debtSold => "DebtSold"
    | .debtBid => "DebtBid"
    | .debtClaimed => "DebtClaimed"
    | .listingCancelled => "DebtListingCancelled"
    | .paused => "ProtocolPaused"
    | .unpaused => "ProtocolUnpaused"
    | .roleGranted => "RoleGranted"
    | .roleRevoked => "RoleRevoked"
    | .priceUpdated => "PriceUpdated"

end PooledCredit
