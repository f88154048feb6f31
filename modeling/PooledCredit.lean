import PooledCredit.Document.Effects
import PooledCredit.Document.Records
import PooledCredit.Pool.Basic
import PooledCredit.Price.Feeds
import PooledCredit.Proofs.Collateral.Limits
import PooledCredit.Proofs.Governance.Pauses
import PooledCredit.Proofs.Governance.Roles
import PooledCredit.Proofs.Loans.Deadlines
import PooledCredit.Proofs.Loans.Openings
import PooledCredit.Proofs.Loans.Redeems
import PooledCredit.Proofs.Loans.Settlements
import PooledCredit.Proofs.Pool.Bidding
import PooledCredit.Proofs.Pool.Breaks
import PooledCredit.Proofs.Pool.Escrow
import PooledCredit.Proofs.Pool.History
import PooledCredit.Proofs.Pool.Movements
import PooledCredit.Proofs.Pool.Paused
import PooledCredit.Proofs.Pool.Permissions
import PooledCredit.Proofs.Pool.Tokens
import PooledCredit.Proofs.Prices.Publishing
import PooledCredit.Proofs.Resale.Consent
import PooledCredit.Proofs.Resale.Listings
import PooledCredit.Proofs.Resale.Neutrality
import PooledCredit.Proofs.Resale.Recovery
import PooledCredit.Proofs.Reserves.Impairment
import PooledCredit.Proofs.Reserves.Operations
import PooledCredit.Proofs.Reserves.Rates
import PooledCredit.Proofs.Reserves.Rebalancing
import PooledCredit.Proofs.Wire.Events
import PooledCredit.Proofs.Wire.State
import PooledCredit.Settings.Text
import PooledCredit.Wire.Events
import PooledCredit.Yield.Scripted
import PooledCredit.Yield.Simulated
