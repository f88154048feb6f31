import PooledCredit.Proofs.Requests.Resale

/-!
# The listing board stays consistent

The board keeps every listing under its name and leads from each token to its active listing.
`ListingBoard.Consistent` says that the two agree. Posting keeps this as long as the name of the
new listing is not taken. Names are hashes, so that is an assumption about the run; a taken name
is always a collision (`Consistent.collision`).
-/

namespace PooledCredit

namespace ListingBoard

/-- Listings are filed under their names, which are hashes that hold a number already handed out,
and each token leads exactly to its active listing. -/
structure Consistent (board : ListingBoard) : Prop where
  key : ∀ id listing, board.listing? id = some listing → listing.id = id
  named : ∀ id listing, board.listing? id = some listing →
    ∃ nonce < board.nonce, Listing.nameFor listing.item listing.loan nonce = id
  leads : ∀ item id, board.active.get? item = some id ↔
    ∃ listing, board.listing? id = some listing ∧ listing.item = item ∧ listing.status = .active

/-- After one entry is rewritten, that entry is found and the other listings stay. -/
lemma listing?_insert {board board' : ListingBoard} {id : ListingId} {listing : Listing}
    (h : board'.listings = board.listings.insert id listing) (other : ListingId) :
    board'.listing? other = if other = id then some listing else board.listing? other := by
  unfold listing?
  rw [h, SortedMap.get?_insert]

/-- A stored listing is found under its name, and the other listings stay. -/
lemma listing?_setListing (board : ListingBoard) (listing : Listing) (id : ListingId) :
    (board.setListing listing).listing? id =
      if id = listing.id then some listing else board.listing? id :=
  listing?_insert rfl id

/-- A listing that was ended is found with its final status, and the other listings stay. -/
lemma listing?_finish (board : ListingBoard) (listing : Listing) (status : ListingStatus)
    (id : ListingId) :
    (board.finish listing status).listing? id =
      if id = listing.id then some { listing with status } else board.listing? id :=
  listing?_insert rfl id

/-- An empty board is consistent. -/
lemma consistent_empty : ({} : ListingBoard).Consistent where
  key _ _ h := nomatch h
  named _ _ h := nomatch h
  leads item id := by
    constructor
    · intro h
      nomatch h
    · rintro ⟨_, h, -⟩
      nomatch h

namespace Consistent

variable {board : ListingBoard} {listing : Listing}

/-- The active listing found on a token is filed, on that token and active. -/
lemma of_activeListing? (hb : board.Consistent) {item : Item}
    (h : board.activeListing? item = some listing) :
    board.listing? listing.id = some listing ∧ listing.item = item ∧ listing.status = .active := by
  obtain ⟨id, hid, hlisting⟩ := Option.bind_eq_some_iff.mp h
  obtain ⟨found, hfound, hitem, hactive⟩ := (hb.leads item id).mp hid
  rw [hlisting] at hfound
  obtain rfl := Option.some.inj hfound
  rw [hb.key id listing hlisting]
  exact ⟨hlisting, hitem, hactive⟩

/-- When the name of a new listing is taken, the texts of two listings with different numbers have
the same hash. -/
lemma collision (hb : board.Consistent) {item : Item} {loan : LoanId}
    (h : board.listing? (Listing.nameFor item loan board.nonce) = some listing) :
    ∃ nonce < board.nonce,
      Listing.nameFor listing.item listing.loan nonce = Listing.nameFor item loan board.nonce :=
  hb.named _ _ h

/-- A token without an active listing leads nowhere. -/
lemma active_eq_none (hb : board.Consistent) {item : Item}
    (h : board.activeListing? item = none) : board.active.get? item = none := by
  cases hid : board.active.get? item with
  | none => rfl
  | some id =>
    obtain ⟨listing, hlisting, -⟩ := (hb.leads item id).mp hid
    rw [activeListing?, hid] at h
    exact absurd (h.symm.trans hlisting) (by simp)

/-- Rewriting a listing without moving or ending it keeps the board consistent. -/
lemma setListing (hb : board.Consistent) {old : Listing}
    (hold : board.listing? listing.id = some old) (hitem : listing.item = old.item)
    (hloan : listing.loan = old.loan) (hstatus : listing.status = old.status) :
    (board.setListing listing).Consistent where
  key id found h := by
    rw [listing?_setListing] at h
    split at h
    · next hid => rw [hid, Option.some.inj h]
    · exact hb.key id found h
  named id found h := by
    rw [listing?_setListing] at h
    split at h
    · next hid =>
      rw [hid, ← Option.some.inj h, hitem, hloan]
      exact hb.named listing.id old hold
    · exact hb.named id found h
  leads item id := by
    refine (hb.leads item id).trans ?_
    rw [listing?_setListing]
    by_cases hid : id = listing.id
    · subst hid
      simp [hold, hitem, hstatus]
    · simp [hid]

/-- Ending an active listing keeps the board consistent. -/
lemma finish (hb : board.Consistent) (status : ListingStatus)
    (hold : board.listing? listing.id = some listing) (hactive : listing.status = .active)
    (hstatus : status ≠ .active) : (board.finish listing status).Consistent where
  key id found h := by
    rw [listing?_insert rfl] at h
    split at h
    · next hid => rw [hid, ← Option.some.inj h]
    · exact hb.key id found h
  named id found h := by
    rw [listing?_insert rfl] at h
    split at h
    · next hid =>
      rw [hid, ← Option.some.inj h]
      exact hb.named listing.id listing hold
    · exact hb.named id found h
  leads item id := by
    have hid := (hb.leads listing.item listing.id).mpr ⟨listing, hold, rfl, hactive⟩
    rw [listing?_insert rfl]
    show (board.active.erase listing.item).get? item = some id ↔ _
    by_cases hitem : item = listing.item
    · rw [hitem, SortedMap.get?_erase_self]
      by_cases heq : id = listing.id
      · simp [heq, hstatus]
      · -- the ended listing was the only active one on its token
        simp only [heq, if_false, reduceCtorEq, false_iff]
        intro hother
        have hother := (hb.leads listing.item id).mpr hother
        rw [hid] at hother
        exact heq (Option.some.inj hother).symm
    · rw [SortedMap.get?_erase_of_ne _ hitem]
      refine (hb.leads item id).trans ?_
      by_cases heq : id = listing.id
      · subst heq
        simp [hold, hstatus, Ne.symm hitem]
      · simp [heq]

/-- Posting an active listing under a new name keeps the board consistent. -/
lemma post (hb : board.Consistent) {board' : ListingBoard} (h : board.post listing = .ok board')
    (hname : listing.id = Listing.nameFor listing.item listing.loan board.nonce)
    (hfresh : board.listing? listing.id = none) (hfree : board.activeListing? listing.item = none)
    (hactive : listing.status = .active) : board'.Consistent := by
  obtain rfl := post_eq_ok h
  have hnone := hb.active_eq_none hfree
  constructor
  · intro id found hf
    rw [listing?_insert rfl] at hf
    split at hf
    · next hid => rw [hid, ← Option.some.inj hf]
    · exact hb.key id found hf
  · intro id found hf
    rw [listing?_insert rfl] at hf
    split at hf
    · next hid =>
      rw [hid, ← Option.some.inj hf]
      exact ⟨board.nonce, Nat.lt_succ_self _, hname.symm⟩
    · obtain ⟨nonce, hlt, hnonce⟩ := hb.named id found hf
      exact ⟨nonce, Nat.lt_succ_of_lt hlt, hnonce⟩
  · intro item id
    rw [listing?_insert rfl, SortedMap.get?_insert]
    by_cases hitem : item = listing.item
    · subst hitem
      by_cases heq : id = listing.id
      · simp [heq, hactive]
      · -- no other listing was active on the token
        have hno := hb.leads listing.item id
        rw [hnone] at hno
        simpa [heq, Ne.symm heq] using hno
    · by_cases heq : id = listing.id
      · subst heq
        have hno := hb.leads item listing.id
        rw [hfresh] at hno
        simpa [hitem, Ne.symm hitem] using hno
      · simpa [hitem, heq] using hb.leads item id

end Consistent

end ListingBoard

end PooledCredit
