import PooledCredit.Proofs.Runs
import PooledCredit.Proofs.Wire.Codec
import PooledCredit.Wire.State

/-!
# The written form of the state is lossless

Every record of the state is built again from its fields, so its codec is as lossless as those of
its fields. The state of a pool, put together from them, is read back from what was written of it;
and from any bytes that are read as a state, writing and reading lead to one form that they then
keep to.
-/

namespace PooledCredit

namespace Codec

/-! ## The parts of the state -/

instance : Lossless item := record_lossless (fun _ => rfl) fun _ h => h

instance : Lossless settings := record_lossless (fun _ => rfl) fun _ h => h

instance : Lossless rateModel := record_lossless (fun _ => rfl) fun _ h => h

instance : Lossless reserve := record_lossless (fun _ => rfl) fun _ h => h

instance : Lossless amounts := inferInstanceAs (Lossless (sortedMap _ _))

instance : Lossless ledger := record_lossless (fun _ => rfl) fun _ h => h

instance : Lossless terms := record_lossless (fun _ => rfl) fun _ h => h

instance : Lossless collateralConfig := record_lossless (fun _ => rfl) fun _ h => h

instance : Lossless tokenTerms := record_lossless (fun _ => rfl) fun _ h => h

instance : Lossless registry := record_lossless (fun _ => rfl) fun _ h => h

instance : Lossless loanStatus := choice_lossless (by decide)

instance : Lossless bid := record_lossless (fun _ => rfl) fun _ h => h

instance : Lossless loan := record_lossless (fun _ => rfl) fun _ h => h

instance : Lossless mandate := record_lossless (fun _ => rfl) fun _ h => h

instance : Lossless loanBook := record_lossless (fun _ => rfl) fun _ h => h

instance : Lossless saleKind := choice_lossless (by decide)

instance : Lossless listingStatus := choice_lossless (by decide)

instance : Lossless listing := record_lossless (fun _ => rfl) fun _ h => h

instance : Lossless board := record_lossless (fun _ => rfl) fun _ h => h

instance : Lossless wrappers := record_lossless (fun _ => rfl) fun _ h => h

instance : Lossless store := record_lossless (fun _ => rfl) fun _ h => h

instance : Lossless role := choice_lossless (by decide)

instance : Lossless appointment := record_lossless (fun _ => rfl) fun _ h => h

instance : Lossless roles := record_lossless (fun _ => rfl) fun _ h => h

instance : Lossless pauseRecord := record_lossless (fun _ => rfl) fun _ h => h

instance : Lossless pauseSwitch := record_lossless (fun _ => rfl) fun _ h => h

instance : Lossless custody := record_lossless (fun _ => rfl) fun _ h => h

instance : Lossless poolState := record_lossless (fun _ => rfl) fun _ h => h

instance : Lossless quote := record_lossless (fun _ => rfl) fun _ h => h

instance : Lossless feeds := record_lossless (fun _ => rfl) fun _ h => h

/-! ## The whole state -/

/-- The state of a pool is decoded exactly from what was written of it. And whatever bytes are
decoded as a state, in whatever order they give the entries of its maps, what is written of that
state is decoded as the same state, and is written again of whatever it is decoded as. With more
bytes after them they are not decoded. -/
theorem poolState_round_trip :
    (∀ state, poolState.Fits state → poolState.decode (poolState.write state) = some state) ∧
    ∀ bytes state, poolState.decode bytes = some state →
      poolState.Fits state ∧
      poolState.decode (poolState.write state) = some state ∧
      (poolState.decode (poolState.write state)).map poolState.write =
        some (poolState.write state) ∧
      ∀ extra, extra ≠ [] → poolState.decode (bytes ++ extra) = none := by
  refine ⟨fun state h => decode_write h, fun bytes state h => ?_⟩
  have hfits : poolState.Fits state := fits_of_decode h
  have hdecode : poolState.decode (poolState.write state) = some state := decode_write hfits
  refine ⟨hfits, hdecode, ?_, fun extra hextra => decode_append h hextra⟩
  rw [hdecode, Option.map_some]

end Codec

namespace SmallMarket

open Codec

/-- The state with the loan, with the owners of the tokens in descending order and preceded by a
former owner of the pledged token. -/
def reorderedBytes : Bytes :=
  store.write lent.state.store ++ roles.write lent.state.roles ++
    pauseSwitch.write lent.state.pause ++ amounts.write lent.state.custody.balances ++
    (list (item.pair id)).write
      ((⟨art, 1⟩, supplier) :: lent.state.custody.owners.entries.reverse)

/-- The reordered bytes are decoded as the state with the loan, although they are not what is
written of it; what is written of it is decoded as it too. -/
theorem lent_round_trip :
    poolState.decode reorderedBytes = some lent.state ∧
    poolState.write lent.state ≠ reorderedBytes ∧
    poolState.Fits lent.state ∧
    poolState.decode (poolState.write lent.state) = some lent.state ∧
    (poolState.decode (poolState.write lent.state)).map poolState.write =
      some (poolState.write lent.state) := by
  have hdecode : poolState.decode reorderedBytes = some lent.state := by decide +kernel
  have hlength : (poolState.write lent.state).length ≠ reorderedBytes.length := by decide +kernel
  obtain ⟨hexact, hagain⟩ := poolState_round_trip
  obtain ⟨hfits, -, hwrite, -⟩ := hagain reorderedBytes lent.state hdecode
  exact ⟨hdecode, fun h => hlength (congrArg List.length h), hfits, hexact lent.state hfits, hwrite⟩

end SmallMarket

end PooledCredit
