import Mathlib.Algebra.BigOperators.Intervals
import PooledCredit.Governance.Pause
import PooledCredit.Proofs.Results

/-!
# How long a pool has been paused

Anyone who may do so pauses the pool and lifts the pause, in any order; a call that asks for what is
the case already is refused. A pause is put on record when it begins, and its record is closed when
it is lifted. `Kept` says what this comes to: all records are closed, but for one more at the end
while the pool is paused.

Durations are cut off at zero and added up without regard to one another, so their sum means
something only when the calls come in the order of their times. Then two facts carry the whole run:
a call leaves the sum at its own time as it is, because a pause begins with no duration and a closed
record keeps the one that it has; and between calls the sum runs with the clock while the pool is
paused and stands still while it is not. The sum is therefore the number of the seconds during which
the pool was paused, as `pausedDuring` tells it from the flag alone.
-/

namespace PooledCredit

/-- A call that pauses the pool or lifts the pause. -/
structure PauseCall where
  caller : Account
  /-- Whether the pool is to be paused, and not the pause to be lifted. -/
  pauses : Bool
  now : Nat

/-- Why a call is refused that asks for what is the case already. -/
def PauseCall.refusal (call : PauseCall) : Refusal :=
  .inputInvalid "paused" (if call.pauses then "already paused" else "not paused")

/-! ## Records -/

namespace PauseRecord

variable {record : PauseRecord} {account : Account} {now : Nat}

/-- The pause on record is not lifted. -/
def IsOpen (record : PauseRecord) : Prop := record.liftedBy = none ∧ record.liftedAt = none

/-- The pause on record is lifted, by a known account at a known time. -/
def IsClosed (record : PauseRecord) : Prop :=
  record.liftedBy.isSome = true ∧ record.liftedAt.isSome = true

/-- No record is both open and closed. -/
lemma IsOpen.not_closed (h : record.IsOpen) : ¬ record.IsClosed := by
  rintro ⟨-, hlifted⟩
  rw [h.2] at hlifted
  cases hlifted

/-- Closing a record closes it. -/
lemma lift_closed : (record.lift account now).IsClosed := ⟨rfl, rfl⟩

/-- A record that is closed keeps its duration. -/
lemma IsClosed.duration_eq (h : record.IsClosed) (now now' : Nat) :
    record.duration now = record.duration now' := by
  obtain ⟨lifted, hlifted⟩ := Option.isSome_iff_exists.mp h.2
  simp only [duration, hlifted, Option.getD_some]

/-- The pause of an open record lasts until now. -/
lemma IsOpen.duration_eq (h : record.IsOpen) (now : Nat) :
    record.duration now = now - record.pausedAt := by
  rw [duration, h.2, Option.getD_none]

/-- Closing an open record keeps the duration that it has at the time. -/
lemma IsOpen.duration_lift (h : record.IsOpen) :
    (record.lift account now).duration now = record.duration now := by
  rw [h.duration_eq]
  rfl

/-- When the last record is open, it is the one that is closed. -/
lemma liftFirst_reverse (h : record.IsOpen) (earlier : List PauseRecord) :
    (liftFirst account now (earlier ++ [record]).reverse).reverse =
      earlier ++ [record.lift account now] := by
  have hopen : record.liftedAt.isNone = true := Option.isNone_iff_eq_none.mpr h.2
  rw [List.reverse_append, List.reverse_singleton, List.singleton_append, liftFirst, if_pos hopen,
    List.reverse_cons, List.reverse_reverse]

end PauseRecord

namespace PauseSwitch

/-! ## One call -/

/-- Pauses the pool on the switch itself, one write after the other. What is written before a
failure would stay. -/
def pauseInPlace (account : Account) (now : Nat) : ExceptT Failure (StateM PauseSwitch) Unit := do
  if (← get).paused then throw (.refused (.inputInvalid "paused" "already paused"))
  modify fun switch => { switch with paused := true }
  modify fun switch => { switch with history := switch.history ++ [⟨account, now, none, none⟩] }
  modify fun switch => { switch with updatedAt := now }

/-- Lifts the pause on the switch itself, one write after the other. -/
def liftInPlace (account : Account) (now : Nat) : ExceptT Failure (StateM PauseSwitch) Unit := do
  unless (← get).paused do throw (.refused (.inputInvalid "paused" "not paused"))
  modify fun switch => { switch with paused := false }
  modify fun switch =>
    { switch with history := (PauseRecord.liftFirst account now switch.history.reverse).reverse }
  modify fun switch => { switch with updatedAt := now }

/-- Carries out a call on the switch itself: how that ends, and the switch that is left. -/
def serve (switch : PauseSwitch) (call : PauseCall) : Result Unit × PauseSwitch :=
  if call.pauses then (pauseInPlace call.caller call.now).run.run switch
  else (liftInPlace call.caller call.now).run.run switch

/-- The switch after a call, whether it succeeds or fails. -/
def after (switch : PauseSwitch) (call : PauseCall) : PauseSwitch := (switch.serve call).2

/-- The switch after calls that are made one after the other. -/
def follow (switch : PauseSwitch) (calls : List PauseCall) : PauseSwitch := calls.foldl after switch

/-- Those of some calls that succeed when they are made one after the other. -/
def succeeded (switch : PauseSwitch) : List PauseCall → List PauseCall
  | [] => []
  | call :: calls =>
    if (switch.serve call).1.isOk then call :: (switch.after call).succeeded calls
    else (switch.after call).succeeded calls

variable {switch switch' : PauseSwitch} {call : PauseCall} {calls : List PauseCall} {now : Nat}

/-- A call on the switch itself ends like the request on a copy, and a failure leaves the switch as
it was. -/
lemma serve_eq (switch : PauseSwitch) (call : PauseCall) :
    switch.serve call =
      match (if call.pauses then switch.pause call.caller call.now
        else switch.lift call.caller call.now) with
      | .ok next => (.ok (), next)
      | .error failure => (.error failure, switch) := by
  obtain ⟨paused, history, updatedAt⟩ := switch
  obtain ⟨caller, pauses, now⟩ := call
  cases pauses <;> cases paused <;> rfl

/-- A call that asks for what is the case already is refused and changes nothing. -/
lemma serve_of_eq (h : switch.paused = call.pauses) :
    switch.serve call = (refuse call.refusal, switch) := by
  rw [serve_eq]
  cases hpauses : call.pauses with
  | true => simp [pause, require, refuse, PauseCall.refusal, Bind.bind, Except.bind, h, hpauses]
  | false => simp [lift, require, refuse, PauseCall.refusal, Bind.bind, Except.bind, h, hpauses]

/-- What a call that succeeds makes of the switch: the pause that begins is put on record, or the
record of the pause that ends is closed. -/
inductive Switches (call : PauseCall) : PauseSwitch → PauseSwitch → Prop where
  | begun {history : List PauseRecord} {updatedAt : Nat} (pauses : call.pauses = true) :
      Switches call ⟨false, history, updatedAt⟩
        ⟨true, history ++ [⟨call.caller, call.now, none, none⟩], call.now⟩
  | ended {earlier : List PauseRecord} {record : PauseRecord} {updatedAt : Nat}
      (lifts : call.pauses = false) (isOpen : record.IsOpen) :
      Switches call ⟨true, earlier ++ [record], updatedAt⟩
        ⟨false, earlier ++ [record.lift call.caller call.now], call.now⟩

/-- What holds of a switch at all times: while the pool is running every record is closed, and while
it is paused one open record follows the closed ones. -/
inductive Kept : PauseSwitch → Prop where
  | running {history : List PauseRecord} {updatedAt : Nat}
      (closed : ∀ record ∈ history, record.IsClosed) : Kept ⟨false, history, updatedAt⟩
  | paused {earlier : List PauseRecord} {record : PauseRecord} {updatedAt : Nat}
      (closed : ∀ record ∈ earlier, record.IsClosed) (isOpen : record.IsOpen) :
      Kept ⟨true, earlier ++ [record], updatedAt⟩

/-- The records of a new switch are in order. -/
lemma kept_new : Kept {} := .running nofun

/-- A call that asks for a change succeeds with it. -/
lemma Kept.serve_of_ne (hk : switch.Kept) (h : switch.paused ≠ call.pauses) :
    ∃ switch', switch.serve call = (.ok (), switch') ∧ Switches call switch switch' := by
  rw [serve_eq]
  cases hk with
  | running closed =>
    have hpauses : call.pauses = true := Bool.eq_true_of_not_eq_false h.symm
    rw [if_pos hpauses]
    exact ⟨_, rfl, .begun hpauses⟩
  | paused closed isOpen =>
    have hlifts : call.pauses = false := Bool.eq_false_of_not_eq_true h.symm
    rw [if_neg (Bool.eq_false_iff.mp hlifts)]
    refine ⟨_, rfl, ?_⟩
    show Switches call _ ⟨false, _, call.now⟩
    rw [PauseRecord.liftFirst_reverse isOpen]
    exact .ended hlifts isOpen

/-- A call is refused and changes nothing, or it succeeds with the change that it asks for. -/
lemma Kept.serve_cases (hk : switch.Kept) (call : PauseCall) :
    (switch.paused = call.pauses ∧ switch.serve call = (refuse call.refusal, switch)) ∨
      (switch.paused ≠ call.pauses ∧
        ∃ switch', switch.serve call = (.ok (), switch') ∧ Switches call switch switch') := by
  by_cases h : switch.paused = call.pauses
  · exact .inl ⟨h, serve_of_eq h⟩
  · exact .inr ⟨h, hk.serve_of_ne h⟩

/-- A change keeps the records in order. -/
lemma Switches.kept (h : Switches call switch switch') (hk : switch.Kept) : switch'.Kept := by
  cases h with
  | begun pauses =>
    cases hk with
    | running closed => exact .paused closed ⟨rfl, rfl⟩
  | @ended earlier record updatedAt lifts isOpen =>
    have hclosed : ∀ record ∈ earlier, record.IsClosed := by
      -- the open record at the end is the same in both readings of the history
      generalize hhistory : earlier ++ [record] = history at hk
      cases hk with
      | paused closed isOpen' =>
        obtain ⟨rfl, -⟩ := List.append_inj' hhistory rfl
        exact closed
    refine .running ?_
    intro other hother
    rcases List.mem_append.mp hother with hearlier | hlast
    · exact hclosed other hearlier
    · rw [List.mem_singleton.mp hlast]
      exact PauseRecord.lift_closed

/-- A change leaves the switch as the call asks. -/
lemma Switches.paused_eq (h : Switches call switch switch') : switch'.paused = call.pauses := by
  cases h with
  | begun pauses => exact pauses.symm
  | ended lifts isOpen => exact lifts.symm

/-- A change enters its own time when it begins a pause, and keeps the times at which the earlier
pauses began. -/
lemma Switches.map_pausedAt (h : Switches call switch switch') :
    switch'.history.map (·.pausedAt) =
      switch.history.map (·.pausedAt) ++ if call.pauses then [call.now] else [] := by
  cases h with
  | begun pauses => rw [if_pos pauses, List.map_append]; rfl
  | ended lifts isOpen =>
    rw [if_neg (Bool.eq_false_iff.mp lifts), List.append_nil, List.map_append, List.map_append]
    rfl

/-- Every record except the last is closed. -/
lemma Kept.closed_of_mem_dropLast (hk : switch.Kept) :
    ∀ record ∈ switch.history.dropLast, record.IsClosed := by
  cases hk with
  | running closed => exact fun record hrecord => closed record (List.mem_of_mem_dropLast hrecord)
  | paused closed isOpen =>
    rw [List.dropLast_concat]
    exact closed

/-- The last record is open exactly while the pool is paused. -/
lemma Kept.last_open_iff (hk : switch.Kept) :
    (∃ last, switch.history.getLast? = some last ∧ last.IsOpen) ↔ switch.paused = true := by
  cases hk with
  | running closed =>
    refine iff_of_false ?_ Bool.false_ne_true
    rintro ⟨last, hlast, hopen⟩
    exact hopen.not_closed (closed last (List.mem_of_getLast? hlast))
  | paused closed isOpen => exact iff_of_true ⟨_, List.getLast?_concat, isOpen⟩ rfl

/-- All records are closed exactly while the pool is running. -/
lemma Kept.all_closed_iff (hk : switch.Kept) :
    (∀ record ∈ switch.history, record.IsClosed) ↔ switch.paused = false := by
  cases hk with
  | running closed => exact iff_of_true closed rfl
  | paused closed isOpen =>
    refine iff_of_false ?_ Bool.noConfusion
    intro hclosed
    exact isOpen.not_closed (hclosed _ (List.mem_append_right _ List.mem_cons_self))

/-- After a call the switch is as it was, and that is what the call asks for, or it has changed. -/
lemma Kept.after_cases (hk : switch.Kept) (call : PauseCall) :
    (switch.paused = call.pauses ∧ switch.after call = switch) ∨
      Switches call switch (switch.after call) := by
  rcases hk.serve_cases call with ⟨h, hserve⟩ | ⟨-, switch', hserve, h⟩
  · exact .inl ⟨h, congrArg Prod.snd hserve⟩
  · rw [PauseSwitch.after, hserve]
    exact .inr h

/-- A call keeps the records in order. -/
lemma Kept.after (hk : switch.Kept) (call : PauseCall) : (switch.after call).Kept := by
  rcases hk.after_cases call with ⟨-, hsame⟩ | h
  · rw [hsame]
    exact hk
  · exact h.kept hk

/-- After a call, successful or not, the pool is paused exactly if the call asks for it. -/
lemma Kept.paused_after (hk : switch.Kept) (call : PauseCall) :
    (switch.after call).paused = call.pauses := by
  rcases hk.after_cases call with ⟨h, hsame⟩ | h
  · rw [hsame]
    exact h
  · exact h.paused_eq

/-- A call succeeds exactly if it asks for a change. -/
lemma Kept.isOk_iff (hk : switch.Kept) (call : PauseCall) :
    (switch.serve call).1.isOk = true ↔ switch.paused ≠ call.pauses := by
  rcases hk.serve_cases call with ⟨h, hserve⟩ | ⟨h, switch', hserve, -⟩
  · rw [hserve]
    exact iff_of_false Bool.false_ne_true (not_not.mpr h)
  · rw [hserve]
    exact iff_of_true rfl h

/-! ## All calls -/

/-- Calls keep the records in order. -/
lemma Kept.follow (hk : switch.Kept) (calls : List PauseCall) : (switch.follow calls).Kept := by
  induction calls generalizing switch with
  | nil => exact hk
  | cons call calls ih => exact ih (hk.after call)

/-- The last of some calls is made on the switch that the others leave. -/
lemma follow_concat (switch : PauseSwitch) (calls : List PauseCall) (call : PauseCall) :
    switch.follow (calls ++ [call]) = (switch.follow calls).after call := by
  rw [PauseSwitch.follow, List.foldl_concat]
  rfl

/-- A call that succeeds is among those that do. -/
lemma succeeded_cons_of_ok (h : switch.serve call = (.ok (), switch')) (calls : List PauseCall) :
    switch.succeeded (call :: calls) = call :: switch'.succeeded calls := by
  simp only [succeeded, after, h]
  rfl

/-- A call that is refused is not among those that succeed. -/
lemma succeeded_cons_of_refused {cause : Refusal}
    (h : switch.serve call = (refuse cause, switch')) (calls : List PauseCall) :
    switch.succeeded (call :: calls) = switch'.succeeded calls := by
  simp only [succeeded, after, h]
  rfl

/-- Only calls that are made succeed. -/
lemma succeeded_sublist (switch : PauseSwitch) (calls : List PauseCall) :
    (switch.succeeded calls).Sublist calls := by
  induction calls generalizing switch with
  | nil => exact List.Sublist.slnil
  | cons call calls ih =>
    rw [succeeded]
    split
    · exact (ih _).cons_cons call
    · exact (ih _).cons call

/-- The history has one record for each call that succeeds in pausing the pool, in their order and
with their times. -/
lemma Kept.map_pausedAt (hk : switch.Kept) (calls : List PauseCall) :
    (switch.follow calls).history.map (·.pausedAt) =
      switch.history.map (·.pausedAt) ++
        ((switch.succeeded calls).filter (·.pauses)).map (·.now) := by
  induction calls generalizing switch with
  | nil => exact (List.append_nil _).symm
  | cons call calls ih =>
    show ((switch.after call).follow calls).history.map (·.pausedAt) = _
    rw [ih (hk.after call), PauseSwitch.after]
    rcases hk.serve_cases call with ⟨-, hserve⟩ | ⟨-, switch', hserve, h⟩
    · rw [succeeded_cons_of_refused hserve, hserve]
    · rw [succeeded_cons_of_ok hserve, hserve, h.map_pausedAt, List.filter_cons,
        List.append_assoc]
      split <;> rfl

/-- The history is as long as there are successful pauses. -/
lemma length_history_follow (calls : List PauseCall) :
    (follow {} calls).history.length = (succeeded {} calls).countP (·.pauses) := by
  have hlength := congrArg List.length (kept_new.map_pausedAt calls)
  rw [List.length_map] at hlength
  rw [hlength, List.countP_eq_length_filter]
  exact List.length_map _

/-- Every pause on record began when one of the calls was made. -/
lemma mem_history_follow {record : PauseRecord} (h : record ∈ (follow {} calls).history) :
    ∃ call ∈ calls, call.now = record.pausedAt := by
  have hmem := List.mem_map_of_mem (f := PauseRecord.pausedAt) h
  rw [kept_new.map_pausedAt calls] at hmem
  obtain ⟨call, hcall, hnow⟩ := List.mem_map.mp (List.nil_append _ ▸ hmem)
  exact ⟨call, (succeeded_sublist _ _).subset (List.mem_filter.mp hcall).1, hnow⟩

/-- Without a call to pause it a running pool goes on running. -/
lemma Kept.paused_follow_eq_false (hk : switch.Kept) (hrunning : switch.paused = false)
    (hnone : ∀ call ∈ calls, call.pauses = false) : (switch.follow calls).paused = false := by
  rcases List.eq_nil_or_concat' calls with rfl | ⟨earlier, call, rfl⟩
  · exact hrunning
  · rw [follow_concat, (hk.follow earlier).paused_after]
    exact hnone call (List.mem_append_right _ List.mem_cons_self)

/-- On a running pool the first call to pause it succeeds. -/
lemma Kept.find?_succeeded (hk : switch.Kept) (hrunning : switch.paused = false)
    (calls : List PauseCall) :
    (switch.succeeded calls).find? (·.pauses) = calls.find? (·.pauses) := by
  induction calls with
  | nil => rfl
  | cons call calls ih =>
    rcases hk.serve_cases call with ⟨h, hserve⟩ | ⟨h, switch', hserve, -⟩
    · have hpauses : call.pauses = false := h.symm.trans hrunning
      rw [succeeded_cons_of_refused hserve,
        List.find?_cons_of_neg (Bool.eq_false_iff.mp hpauses)]
      exact ih
    · have hpauses : call.pauses = true := by
        rw [hrunning] at h
        exact Bool.eq_true_of_not_eq_false h.symm
      rw [succeeded_cons_of_ok hserve, List.find?_cons_of_pos hpauses,
        List.find?_cons_of_pos hpauses]

/-! ## The time on record -/

/-- The durations of all pauses on record up to now, taken together. -/
def recorded (switch : PauseSwitch) (now : Nat) : Nat :=
  (switch.history.map (·.duration now)).sum

/-- Adding up durations one after the other succeeds when their sum is a clock reading. -/
lemma foldlM_bareAdd {records : List PauseRecord} (total : Nat)
    (h : total + (records.map (·.duration now)).sum < clockBound) :
    records.foldlM (fun total record => bareAdd clockBound total (record.duration now)) total =
      .ok (total + (records.map (·.duration now)).sum) := by
  induction records generalizing total with
  | nil => rfl
  | cons record records ih =>
    rw [List.map_cons, List.sum_cons, ← Nat.add_assoc] at h ⊢
    have hadd : bareAdd clockBound total (record.duration now) =
        .ok (total + record.duration now) :=
      bareAdd_eq_ok.mpr ⟨Nat.lt_of_le_of_lt (Nat.le_add_right _ _) h, rfl⟩
    rw [List.foldlM_cons, hadd]
    exact ih _ h

/-- The time on record is told when it is a clock reading. -/
lemma totalPaused_of_recorded (h : switch.recorded now < clockBound) :
    switch.totalPaused now = .ok (switch.recorded now) := by
  have hsum := foldlM_bareAdd 0 (by rwa [Nat.zero_add])
  rwa [Nat.zero_add] at hsum

/-- Closed records have the same durations at all times. -/
lemma sum_duration_eq {records : List PauseRecord} (h : ∀ record ∈ records, record.IsClosed)
    (now now' : Nat) :
    (records.map (·.duration now)).sum = (records.map (·.duration now')).sum := by
  apply congrArg List.sum
  apply List.map_congr_left
  intro record hrecord
  exact (h record hrecord).duration_eq now now'

/-- The time on record runs with the clock while the pool is paused, and stands still while it is
running. -/
lemma Kept.recorded_eq (hk : switch.Kept) {now now' : Nat}
    (hbegun : ∀ record ∈ switch.history, record.pausedAt ≤ now) (hlater : now ≤ now') :
    switch.recorded now' = switch.recorded now + if switch.paused then now' - now else 0 := by
  cases hk with
  | running closed => exact sum_duration_eq closed now' now
  | @paused earlier record updatedAt closed isOpen =>
    have hrecord : record.pausedAt ≤ now :=
      hbegun record (List.mem_append_right _ List.mem_cons_self)
    simp only [recorded, List.map_append, List.map_cons, List.map_nil, List.sum_append,
      List.sum_singleton, isOpen.duration_eq, sum_duration_eq closed now' now, if_true]
    omega

/-- A change leaves the time on record as it is at the time of the change. -/
lemma Switches.recorded_eq (h : Switches call switch switch') :
    switch'.recorded call.now = switch.recorded call.now := by
  cases h with
  | begun pauses =>
    have hnew : (⟨call.caller, call.now, none, none⟩ : PauseRecord).duration call.now = 0 :=
      Nat.sub_self _
    simp only [recorded, List.map_append, List.map_cons, List.map_nil, List.sum_append,
      List.sum_singleton, hnew, Nat.add_zero]
  | ended lifts isOpen =>
    simp only [recorded, List.map_append, List.map_cons, List.map_nil, isOpen.duration_lift]

/-- A call leaves the time on record as it is at the time of the call. -/
lemma Kept.recorded_after (hk : switch.Kept) (call : PauseCall) :
    (switch.after call).recorded call.now = switch.recorded call.now := by
  rcases hk.after_cases call with ⟨-, hsame⟩ | h
  · rw [hsame]
  · exact h.recorded_eq

/-! ## The seconds during which the pool was paused -/

/-- Whether the pool was paused during the second that begins at a clock reading: whether it is
after the calls made up to then. -/
def pausedDuring (calls : List PauseCall) (second : Nat) : Bool :=
  (follow {} (calls.filter (·.now ≤ second))).paused

/-- How many of the seconds from one clock reading to another the pool was paused. -/
def secondsPaused (calls : List PauseCall) (start stop : Nat) : Nat :=
  ((Finset.Ico start stop).filter fun second => pausedDuring calls second = true).card

/-- Some calls are made in the order of their times, and none is made later than now. -/
structure Timely (calls : List PauseCall) (now : Nat) : Prop where
  ordered : calls.Pairwise fun call later => call.now ≤ later.now
  past : ∀ call ∈ calls, call.now ≤ now

/-- When the pool was first paused by some calls on a new switch, if it was. -/
def firstPause (calls : List PauseCall) : Option Nat :=
  ((succeeded {} calls).find? (·.pauses)).map (·.now)

/-- What was timely stays so. -/
lemma Timely.mono (h : Timely calls now) {now' : Nat} (hlater : now ≤ now') :
    Timely calls now' := by
  refine ⟨h.ordered, ?_⟩
  intro call hcall
  exact (h.past call hcall).trans hlater

/-- Timely calls are timely at the time of the last one. -/
lemma Timely.last (h : Timely (calls ++ [call]) now) : Timely (calls ++ [call]) call.now := by
  obtain ⟨-, -, hlast⟩ := List.pairwise_append.mp h.ordered
  refine ⟨h.ordered, ?_⟩
  intro other hother
  rcases List.mem_append.mp hother with hearlier | hother
  · exact hlast other hearlier call List.mem_cons_self
  · rw [List.mem_singleton.mp hother]

/-- The calls before the last one are timely as well. -/
lemma Timely.init (h : Timely (calls ++ [call]) now) : Timely calls now := by
  obtain ⟨hordered, -, -⟩ := List.pairwise_append.mp h.ordered
  refine ⟨hordered, ?_⟩
  intro other hother
  exact h.past other (List.mem_append_left _ hother)

/-- The pauses on record began no later than now when the calls are timely. -/
lemma Timely.begun (h : Timely calls now) :
    ∀ record ∈ (follow {} calls).history, record.pausedAt ≤ now := by
  intro record hrecord
  obtain ⟨call, hcall, hnow⟩ := mem_history_follow hrecord
  exact hnow ▸ h.past call hcall

/-- Before its time a call has no say in whether the pool is paused. -/
lemma pausedDuring_concat_of_lt {second : Nat} (h : second < call.now) :
    pausedDuring (calls ++ [call]) second = pausedDuring calls second := by
  have hlate : [call].filter (·.now ≤ second) = [] := by simpa using h
  rw [pausedDuring, List.filter_append, hlate, List.append_nil]
  rfl

/-- From its time on the last call says whether the pool is paused. -/
lemma pausedDuring_concat_of_le {second : Nat} (h : call.now ≤ second) :
    pausedDuring (calls ++ [call]) second = call.pauses := by
  have hmade : [call].filter (·.now ≤ second) = [call] := by simpa using h
  rw [pausedDuring, List.filter_append, hmade, follow_concat]
  exact (kept_new.follow _).paused_after call

/-- The seconds paused up to some time and from then on are those paused in all. -/
lemma secondsPaused_add (calls : List PauseCall) {start middle stop : Nat} (h : start ≤ middle)
    (h' : middle ≤ stop) :
    secondsPaused calls start middle + secondsPaused calls middle stop =
      secondsPaused calls start stop := by
  simp only [secondsPaused, Finset.card_filter]
  exact Finset.sum_Ico_consecutive _ h h'

/-- To count the seconds paused it is enough to know of every second whether it is one. -/
lemma secondsPaused_congr {during : Nat → Bool} {start stop : Nat}
    (h : ∀ second, start ≤ second → second < stop →
      pausedDuring calls second = during second) :
    secondsPaused calls start stop =
      ((Finset.Ico start stop).filter fun second => during second = true).card := by
  rw [secondsPaused]
  apply congrArg Finset.card
  apply Finset.filter_congr
  intro second hsecond
  obtain ⟨hstart, hstop⟩ := Finset.mem_Ico.mp hsecond
  rw [h second hstart hstop]

/-- When the pool is paused in all seconds of a time or in none, all of them count or none. -/
lemma secondsPaused_of_steady {start stop : Nat} (paused : Bool)
    (h : ∀ second, start ≤ second → second < stop → pausedDuring calls second = paused) :
    secondsPaused calls start stop = if paused then stop - start else 0 := by
  rw [secondsPaused_congr h]
  cases paused with
  | true => simp
  | false => simp

/-- No more seconds are paused than there are. -/
lemma secondsPaused_le (calls : List PauseCall) (start stop : Nat) :
    secondsPaused calls start stop ≤ stop - start :=
  (Finset.card_filter_le _ _).trans (Nat.card_Ico start stop).le

/-- Before it is first paused the pool is running. -/
lemma Timely.secondsPaused_before_first (h : Timely calls now) {first : Nat}
    (hfirst : firstPause calls = some first) : secondsPaused calls 0 first = 0 := by
  obtain ⟨call, hcall, rfl⟩ := Option.map_eq_some_iff.mp hfirst
  rw [kept_new.find?_succeeded rfl] at hcall
  obtain ⟨-, earlier, later, rfl, hearlier⟩ := List.find?_eq_some_iff_append.mp hcall
  obtain ⟨-, hlater, -⟩ := List.pairwise_append.mp h.ordered
  apply secondsPaused_of_steady false
  intro second _ hsecond
  apply kept_new.paused_follow_eq_false rfl
  intro other hother
  obtain ⟨hmem, hmade⟩ := List.mem_filter.mp hother
  have hmade : other.now ≤ second := of_decide_eq_true hmade
  rcases List.mem_append.mp hmem with hmem | hmem
  · simpa using hearlier other hmem
  · -- the first call to pause, and all after it, come too late for this second
    rcases List.mem_cons.mp hmem with rfl | hmem
    · omega
    · have := List.rel_of_pairwise_cons hlater hmem
      omega

/-- When the calls are timely, the time on record is the number of seconds paused. -/
lemma Timely.recorded_eq (h : Timely calls now) :
    (follow {} calls).recorded now = secondsPaused calls 0 now := by
  induction calls using List.reverseRecOn generalizing now with
  | nil => exact (secondsPaused_of_steady false fun _ _ _ => rfl).symm
  | append_singleton calls call ih =>
    have hmade : call.now ≤ now := h.past call (List.mem_append_right _ List.mem_cons_self)
    have hk : (follow {} calls).Kept := kept_new.follow calls
    -- up to the last call the calls before it decide, and from then on the last call alone
    have hbefore : secondsPaused (calls ++ [call]) 0 call.now = secondsPaused calls 0 call.now :=
      secondsPaused_congr fun _ _ hsecond => pausedDuring_concat_of_lt hsecond
    have hsince : secondsPaused (calls ++ [call]) call.now now =
        if call.pauses then now - call.now else 0 :=
      secondsPaused_of_steady call.pauses fun _ hsecond _ => pausedDuring_concat_of_le hsecond
    calc (follow {} (calls ++ [call])).recorded now
        = (follow {} (calls ++ [call])).recorded call.now +
            if (follow {} (calls ++ [call])).paused then now - call.now else 0 :=
          (kept_new.follow _).recorded_eq h.last.begun hmade
      _ = secondsPaused calls 0 call.now + if call.pauses then now - call.now else 0 := by
          rw [follow_concat, hk.recorded_after, hk.paused_after, ih h.last.init]
      _ = secondsPaused (calls ++ [call]) 0 call.now +
            secondsPaused (calls ++ [call]) call.now now := by
          rw [hbefore, hsince]
      _ = secondsPaused (calls ++ [call]) 0 now :=
          secondsPaused_add _ (Nat.zero_le _) hmade

/-- When the calls are timely, the time paused can be told, and it is the number of seconds
paused. -/
lemma Timely.totalPaused_eq (h : Timely calls now) (hnow : now < clockBound) :
    (follow {} calls).totalPaused now = .ok (secondsPaused calls 0 now) := by
  have hle : secondsPaused calls 0 now ≤ now := secondsPaused_le calls 0 now
  rw [← h.recorded_eq]
  refine totalPaused_of_recorded ?_
  rw [h.recorded_eq]
  omega

/-- A pool that was never paused was not paused for any second. -/
lemma Timely.secondsPaused_of_never (h : Timely calls now) (hnever : firstPause calls = none) :
    secondsPaused calls 0 now = 0 := by
  have hnone := Option.map_eq_none_iff.mp hnever
  rw [List.find?_eq_none] at hnone
  have hlength : (follow {} calls).history.length = 0 := by
    rw [length_history_follow, List.countP_eq_zero]
    exact hnone
  rw [← h.recorded_eq, recorded, List.eq_nil_of_length_eq_zero hlength]
  rfl

/-- All seconds paused come after the first pause. -/
lemma Timely.secondsPaused_of_first (h : Timely calls now) {first : Nat}
    (hfirst : firstPause calls = some first) :
    first ≤ now ∧ secondsPaused calls 0 now = secondsPaused calls first now := by
  have hle : first ≤ now := by
    obtain ⟨call, hcall, rfl⟩ := Option.map_eq_some_iff.mp hfirst
    exact h.past call ((succeeded_sublist _ _).subset (List.mem_of_find?_eq_some hcall))
  refine ⟨hle, ?_⟩
  rw [← secondsPaused_add calls (Nat.zero_le first) hle, h.secondsPaused_before_first hfirst,
    Nat.zero_add]

/-- Whatever calls pause the pool and lift the pause on a new switch: every record except the last
is closed, the last is open exactly while the pool is paused, and there are as many records as calls
that succeeded in pausing it. A call succeeds exactly if it asks for a change, and one that fails
changes nothing. When the calls are made in the order of their times and none of them later than
now, the time paused can be told: it is the number of seconds since the first pause during which the
pool was paused, and so no longer than the time since then. Told at a later time it is not shorter,
and it is the same if the pool is running. -/
theorem pauses_on_record (calls : List PauseCall) :
    (∀ record ∈ (follow {} calls).history.dropLast, record.IsClosed) ∧
    ((∃ last, (follow {} calls).history.getLast? = some last ∧ last.IsOpen) ↔
      (follow {} calls).paused = true) ∧
    ((∀ record ∈ (follow {} calls).history, record.IsClosed) ↔
      (follow {} calls).paused = false) ∧
    (follow {} calls).history.length = (succeeded {} calls).countP (·.pauses) ∧
    (∀ call, ((follow {} calls).serve call).1.isOk = true ↔
      (follow {} calls).paused ≠ call.pauses) ∧
    (∀ call failure, ((follow {} calls).serve call).1 = .error failure →
      ((follow {} calls).serve call).2 = follow {} calls) ∧
    ∀ now, now < clockBound → Timely calls now →
      ∃ total, (follow {} calls).totalPaused now = .ok total ∧
        (firstPause calls = none → total = 0) ∧
        (∀ first, firstPause calls = some first →
          total = secondsPaused calls first now ∧ first ≤ now ∧ total ≤ now - first) ∧
        ∀ now', now ≤ now' → now' < clockBound →
          ∃ total', (follow {} calls).totalPaused now' = .ok total' ∧ total ≤ total' ∧
            ((follow {} calls).paused = false → total' = total) := by
  have hk : (follow {} calls).Kept := kept_new.follow calls
  refine ⟨hk.closed_of_mem_dropLast, hk.last_open_iff, hk.all_closed_iff,
    length_history_follow calls, hk.isOk_iff, ?_, ?_⟩
  · intro call failure hfails
    rcases hk.serve_cases call with ⟨-, hserve⟩ | ⟨-, _, hserve, -⟩
    · rw [hserve]
    · rw [hserve] at hfails
      cases hfails
  · intro now hnow htimely
    refine ⟨secondsPaused calls 0 now, htimely.totalPaused_eq hnow,
      htimely.secondsPaused_of_never, ?_, ?_⟩
    · intro first hfirst
      obtain ⟨hle, hseconds⟩ := htimely.secondsPaused_of_first hfirst
      rw [hseconds]
      exact ⟨rfl, hle, secondsPaused_le calls first now⟩
    · intro now' hlater hnow'
      have htimely' := htimely.mono hlater
      have hruns := hk.recorded_eq htimely.begun hlater
      rw [htimely.recorded_eq, htimely'.recorded_eq] at hruns
      refine ⟨secondsPaused calls 0 now', htimely'.totalPaused_eq hnow', ?_, ?_⟩
      · rw [hruns]
        exact Nat.le_add_right _ _
      · intro hrunning
        rw [hruns, hrunning]
        rfl

/-- A guardian pauses the pool for fifty seconds and then again. Pausing it twice fails, and so does
lifting the pause twice. -/
def alarms : List PauseCall :=
  [⟨Id.fill 5, true, 100⟩, ⟨Id.fill 5, true, 120⟩, ⟨Id.fill 5, false, 150⟩,
    ⟨Id.fill 5, false, 150⟩, ⟨Id.fill 5, true, 200⟩]

/-- At 230 the pool has been paused for 80 seconds: for 50 up to 150, and for the 30 since 200. -/
theorem alarms_on_record :
    230 < clockBound ∧ Timely alarms 230 ∧ firstPause alarms = some 100 ∧
      (succeeded {} alarms).length = 3 ∧ (follow {} alarms).history.length = 2 ∧
      (follow {} alarms).totalPaused 230 = .ok 80 := by
  have hnow : 230 < clockBound := by decide +kernel
  have htimely : Timely alarms 230 := ⟨by decide, by decide⟩
  have hfirst : firstPause alarms = some 100 := by decide +kernel
  obtain ⟨-, -, -, hlength, -, -, htold⟩ := pauses_on_record alarms
  obtain ⟨total, htotal, -, hcounts, -⟩ := htold 230 hnow htimely
  have hseconds : total = 80 := by
    rw [(hcounts 100 hfirst).1]
    decide +kernel
  refine ⟨hnow, htimely, hfirst, by decide +kernel, ?_, hseconds ▸ htotal⟩
  rw [hlength]
  decide +kernel

end PauseSwitch

end PooledCredit
