import Mathlib.Data.List.Nodup
import PooledCredit.Price.Feeds
import PooledCredit.Proofs.Results

/-!
# Who holds a role

Administrators give roles and take them away, from one another and from themselves, in any order;
only the founder's administrator's role is out of their reach. A role is taken away by striking
every appointment of the account to it, and the request is refused when none was struck. No pair of
an account and a role is ever appointed twice, and so the register says of each pair what the last
request on it that succeeded decided, or else what the register was founded with.
-/

namespace PooledCredit

/-- A request to give a role to an account or to take it away. -/
structure RoleRequest where
  caller : Account
  account : Account
  role : Role
  /-- Whether the role is to be given, and not to be taken away. -/
  gives : Bool
  now : Nat
deriving DecidableEq

/-- What a request decides for an account and a role, if it is about them. -/
def RoleRequest.decides (request : RoleRequest) (account : Account) (role : Role) : Option Bool :=
  if request.account = account ∧ request.role = role then some request.gives else none

/-- What the last of some requests about an account and a role decides, if there is one. The latest
request comes first. -/
def lastDecision (past : List RoleRequest) (account : Account) (role : Role) : Option Bool :=
  past.findSome? (·.decides account role)

namespace RoleRegister

/-! ## One request -/

/-- Strikes every appointment of an account to a role. -/
def strike (register : RoleRegister) (account : Account) (role : Role) : RoleRegister :=
  { register with
    appointments :=
      register.appointments.filter fun a => !(a.account == account && a.role == role) }

/-- Takes a role away on the register itself: how that ends, and the register that is left. The
appointments are struck before it is known whether there are any. -/
def revokeInPlace (register : RoleRegister) (caller account : Account) (role : Role) (now : Nat) :
    Result Unit × RoleRegister :=
  if register.hasPermission caller .grantRole = false then
    (refuse (.permissionMissing caller Permission.grantRole.name), register)
  else if account = register.founder ∧ role = .admin then
    (refuse (.unauthorized caller "super admin keeps pool admin"), register)
  else
    let struck := register.strike account role
    if struck.appointments.length = register.appointments.length then
      (refuse (.inputInvalid "role" "not granted"), struck)
    else (.ok (), { struck with updatedAt := now })

/-- Carries out a request on the register itself: how that ends, and the register that is left. -/
def serve (register : RoleRegister) (request : RoleRequest) : Result Unit × RoleRegister :=
  if request.gives then
    match register.grant request.caller request.account request.role request.now with
    | .ok granted => (.ok (), granted)
    | .error failure => (.error failure, register)
  else register.revokeInPlace request.caller request.account request.role request.now

variable {register register' start : RoleRegister} {request : RoleRequest} {account : Account}
variable {role : Role} {founder : Account}

/-- An account holds a role exactly when it was appointed to it. -/
lemma hasRole_iff :
    register.hasRole account role = true ↔
      ∃ a ∈ register.appointments, a.account = account ∧ a.role = role := by
  simp [hasRole]

/-- Striking the appointments to a role that is not held strikes none. -/
lemma strike_of_not_held (h : register.hasRole account role = false) :
    register.strike account role = register := by
  have hnone : ∀ a ∈ register.appointments, (!(a.account == account && a.role == role)) = true := by
    rw [hasRole, List.any_eq_false] at h
    intro a ha
    rw [Bool.not_eq_true', Bool.eq_false_iff]
    exact h a ha
  rw [strike, List.filter_eq_self.mpr hnone]

/-- Striking shortens the list of appointments exactly when the role is held. -/
lemma length_strike_iff :
    (register.strike account role).appointments.length = register.appointments.length ↔
      register.hasRole account role = false := by
  constructor
  · intro h
    have hkept := List.length_filter_eq_length_iff.mp h
    rw [hasRole, List.any_eq_false]
    intro a ha hheld
    have := hkept a ha
    rw [hheld] at this
    cases this
  · intro h
    rw [strike_of_not_held h]

/-- A new appointment gives its account its role. -/
lemma hasRole_appoint_self (a : Appointment) :
    (register.appoint a).hasRole a.account a.role = true :=
  hasRole_iff.mpr ⟨a, List.mem_append_right _ List.mem_cons_self, rfl, rfl⟩

/-- A new appointment concerns no other account or role. -/
lemma hasRole_appoint_of_ne {a : Appointment} (h : ¬ (a.account = account ∧ a.role = role)) :
    (register.appoint a).hasRole account role = register.hasRole account role := by
  rw [Bool.eq_iff_iff, hasRole_iff, hasRole_iff]
  constructor
  · rintro ⟨b, hb, heq⟩
    rcases List.mem_append.mp hb with hb | hb
    · exact ⟨b, hb, heq⟩
    · rw [List.mem_singleton.mp hb] at heq
      exact absurd heq h
  · rintro ⟨b, hb, heq⟩
    exact ⟨b, List.mem_append_left _ hb, heq⟩

/-- After the appointments to a role are struck, the role is not held. -/
lemma hasRole_strike_self : (register.strike account role).hasRole account role = false := by
  rw [hasRole, List.any_eq_false]
  intro a ha hheld
  have hkept := (List.mem_filter.mp ha).2
  rw [hheld] at hkept
  cases hkept

/-- Striking the appointments of an account to a role concerns no other account or role. -/
lemma hasRole_strike_of_ne {account' : Account} {role' : Role}
    (h : ¬ (account = account' ∧ role = role')) :
    (register.strike account role).hasRole account' role' = register.hasRole account' role' := by
  rw [Bool.eq_iff_iff, hasRole_iff, hasRole_iff]
  constructor
  · rintro ⟨a, ha, heq⟩
    exact ⟨a, (List.mem_filter.mp ha).1, heq⟩
  · rintro ⟨a, ha, rfl, rfl⟩
    refine ⟨a, List.mem_filter.mpr ⟨ha, ?_⟩, rfl, rfl⟩
    rw [Bool.not_eq_true', Bool.eq_false_iff]
    intro hstruck
    rw [Bool.and_eq_true, beq_iff_eq, beq_iff_eq] at hstruck
    exact h ⟨hstruck.1.symm, hstruck.2.symm⟩

/-- Taking a role away on the register itself ends like taking it away from a copy, and a failure
leaves the register as it was. -/
lemma revokeInPlace_eq (register : RoleRegister) (caller account : Account) (role : Role)
    (now : Nat) :
    register.revokeInPlace caller account role now =
      match register.revoke caller account role now with
      | .ok revoked => (.ok (), revoked)
      | .error failure => (.error failure, register) := by
  unfold revokeInPlace revoke requirePermission
  by_cases hpermitted : register.hasPermission caller .grantRole = true
  · by_cases hfounder : account = register.founder ∧ role = .admin
    · simp [hpermitted, hfounder, require, refuse, Bind.bind, Except.bind]
    · cases hheld : register.hasRole account role with
      | true =>
        have hlength := mt length_strike_iff.mp (by rw [hheld]; exact Bool.noConfusion)
        simp only [hpermitted, hfounder, hlength, require, Bind.bind, Except.bind, pure,
          Except.pure, if_false, if_true, not_false_eq_true, Bool.true_eq_false]
        rfl
      | false =>
        simp [hpermitted, hfounder, require, refuse, Bind.bind, Except.bind,
          strike_of_not_held hheld]
  · simp [hpermitted, require, refuse, Bind.bind, Except.bind]

/-- What a request that succeeds makes of the register: it appoints an account to a role that the
account did not hold, or it strikes the appointments of an account to a role that it held. -/
inductive Changes (register : RoleRegister) (request : RoleRequest) : RoleRegister → Prop where
  | given (permitted : register.hasPermission request.caller .grantRole = true)
      (gives : request.gives = true) (named : request.account ≠ Id.zero)
      (fresh : register.hasRole request.account request.role = false) :
      Changes register request
        { register.appoint ⟨request.account, request.role, request.now, request.caller⟩ with
          updatedAt := request.now }
  | taken (permitted : register.hasPermission request.caller .grantRole = true)
      (takes : request.gives = false)
      (spared : ¬ (request.account = register.founder ∧ request.role = .admin))
      (held : register.hasRole request.account request.role = true) :
      Changes register request
        { register.strike request.account request.role with updatedAt := request.now }

/-- A request fails and leaves the register as it was, or it changes the register. -/
lemma serve_cases (register : RoleRegister) (request : RoleRequest) :
    (∃ failure, register.serve request = (.error failure, register)) ∨
      ∃ register', register.serve request = (.ok (), register') ∧
        register.Changes request register' := by
  unfold serve
  cases hgives : request.gives with
  | true =>
    rw [if_pos rfl]
    cases hg : register.grant request.caller request.account request.role request.now with
    | error failure => exact .inl ⟨failure, rfl⟩
    | ok granted =>
      simp only [grant, requirePermission, bind_eq_ok, require_eq_ok, exists_const,
        pure_eq_ok] at hg
      obtain ⟨hpermitted, hnamed, hfresh, rfl⟩ := hg
      exact .inr ⟨_, rfl, .given hpermitted hgives hnamed hfresh⟩
  | false =>
    rw [if_neg Bool.false_ne_true, revokeInPlace_eq]
    cases hr : register.revoke request.caller request.account request.role request.now with
    | error failure => exact .inl ⟨failure, rfl⟩
    | ok revoked =>
      simp only [revoke, requirePermission, bind_eq_ok, require_eq_ok, exists_const,
        pure_eq_ok] at hr
      obtain ⟨hpermitted, hspared, hheld, rfl⟩ := hr
      exact .inr ⟨_, rfl, .taken hpermitted hgives hspared hheld⟩

/-- A request that succeeds decides whether the account that it is about holds the role, and no
other account or role is concerned. -/
lemma Changes.hasRole_eq (h : register.Changes request register') (account : Account)
    (role : Role) :
    register'.hasRole account role =
      (request.decides account role).getD (register.hasRole account role) := by
  unfold RoleRequest.decides
  cases h with
  | given _ gives _ _ =>
    split
    · next hpair =>
      obtain ⟨rfl, rfl⟩ := hpair
      rw [gives]
      exact hasRole_appoint_self ⟨request.account, request.role, request.now, request.caller⟩
    · next hpair => exact hasRole_appoint_of_ne hpair
  | taken _ takes _ _ =>
    split
    · next hpair =>
      obtain ⟨rfl, rfl⟩ := hpair
      rw [takes]
      exact hasRole_strike_self
    · next hpair => exact hasRole_strike_of_ne hpair

/-! ## All requests -/

/-- What holds of a register at all times: its founder is an administrator, every appointment names
an account, and no account is appointed to a role twice. -/
structure Sound (founder : Account) (register : RoleRegister) : Prop where
  founded : register.founder = founder
  admin : register.hasRole founder .admin = true
  named : ∀ a ∈ register.appointments, a.account ≠ Id.zero
  once : (register.appointments.map fun a => (a.account, a.role)).Nodup

/-- A request that succeeds keeps a register sound. -/
lemma Sound.changed (hs : register.Sound founder) (h : register.Changes request register') :
    register'.Sound founder := by
  have hdecided := h.hasRole_eq founder .admin
  cases h with
  | given _ gives named fresh =>
    refine ⟨hs.founded, ?_, ?_, ?_⟩
    · rw [hdecided, hs.admin, RoleRequest.decides]
      split
      · rw [gives]
        rfl
      · rfl
    · intro a ha
      rcases List.mem_append.mp ha with ha | ha
      · exact hs.named a ha
      · rw [List.mem_singleton.mp ha]
        exact named
    · -- the new pair is not among those appointed before
      have hnew : (request.account, request.role) ∉
          register.appointments.map fun a => (a.account, a.role) := by
        intro hmem
        obtain ⟨a, ha, hpair⟩ := List.mem_map.mp hmem
        have hheld := hasRole_iff.mpr ⟨a, ha, Prod.mk.inj hpair⟩
        rw [fresh] at hheld
        cases hheld
      simp only [appoint, List.map_append, List.map_cons, List.map_nil]
      exact List.nodup_append_comm.mp (List.nodup_cons.mpr ⟨hnew, hs.once⟩)
  | taken _ takes spared _ =>
    refine ⟨hs.founded, ?_, ?_, ?_⟩
    · rw [hdecided, RoleRequest.decides, if_neg (hs.founded ▸ spared)]
      exact hs.admin
    · exact fun a ha => hs.named a (List.mem_filter.mp ha).1
    · exact hs.once.sublist (List.filter_sublist.map _)

/-- The register after a request, whether it succeeds or fails. -/
def after (register : RoleRegister) (request : RoleRequest) : RoleRegister :=
  (register.serve request).2

/-- The register after requests that are made one after the other. -/
def follow (register : RoleRegister) (requests : List RoleRequest) : RoleRegister :=
  requests.foldl after register

/-- Those of a list of requests that succeed when they are made one after the other, the latest
first, in front of earlier ones. -/
def succeeded (register : RoleRegister) (past : List RoleRequest) :
    List RoleRequest → List RoleRequest
  | [] => past
  | request :: requests =>
    (register.after request).succeeded
      (if (register.serve request).1.isOk then request :: past else past) requests

/-- Requests keep a register sound. -/
lemma Sound.follow (hs : register.Sound founder) (requests : List RoleRequest) :
    (register.follow requests).Sound founder := by
  induction requests generalizing register with
  | nil => exact hs
  | cons request requests ih =>
    refine ih ?_
    rcases register.serve_cases request with ⟨failure, hserve⟩ | ⟨register', hserve, h⟩
    · rw [after, hserve]
      exact hs
    · rw [after, hserve]
      exact hs.changed h

/-- Along requests the register goes on saying what was last decided. -/
lemma hasRole_follow {initial : Bool} {past : List RoleRequest}
    (h : register.hasRole account role = (lastDecision past account role).getD initial)
    (requests : List RoleRequest) :
    (register.follow requests).hasRole account role =
      (lastDecision (register.succeeded past requests) account role).getD initial := by
  induction requests generalizing register past with
  | nil => exact h
  | cons request requests ih =>
    refine ih ?_
    rcases register.serve_cases request with ⟨failure, hserve⟩ | ⟨register', hserve, hchanges⟩
    · rw [after, hserve]
      exact h
    · rw [after, hserve]
      show register'.hasRole account role =
        (lastDecision (request :: past) account role).getD initial
      rw [hchanges.hasRole_eq, h, lastDecision, lastDecision, List.findSome?_cons]
      cases request.decides account role with
      | none => rfl
      | some decision => rfl

/-- A register as it is founded for a pool, or for price feeds, whose founder publishes as well. -/
inductive Founded (founder : Account) : RoleRegister → Prop where
  | pool (now : Nat) : Founded founder (found founder now)
  | feeds (now : Nat) : Founded founder (PriceFeeds.create founder now).roles

/-- A register that is founded by an account is sound. -/
lemma Founded.sound (h : start.Founded founder) (hfounder : founder ≠ Id.zero) :
    start.Sound founder := by
  cases h with
  | pool now =>
    exact ⟨rfl, by simp [hasRole, found], by simpa [found] using hfounder, by simp [found]⟩
  | feeds now =>
    refine ⟨rfl, ?_, ?_, ?_⟩
    · simp [hasRole, PriceFeeds.create, appoint, found]
    · simpa [PriceFeeds.create, appoint, found] using hfounder
    · simp [PriceFeeds.create, appoint, found]

/-- Whatever is asked for, by whomever, the founder stays administrator, no role is ever held by
nobody, and no account is appointed to a role twice. An account holds a role exactly when the last
request on the two that succeeded gave it, or no such request succeeded and the account held it from
the start. A request that fails leaves the register as it was. -/
theorem Founded.roles_as_decided (h : start.Founded founder) (hfounder : founder ≠ Id.zero)
    (requests : List RoleRequest) :
    (start.follow requests).founder = founder ∧
    (start.follow requests).hasRole founder .admin = true ∧
    (∀ role, (start.follow requests).hasRole Id.zero role = false) ∧
    ((start.follow requests).appointments.map fun a => (a.account, a.role)).Nodup ∧
    (∀ account role, (start.follow requests).hasRole account role = true ↔
      lastDecision (start.succeeded [] requests) account role = some true ∨
        lastDecision (start.succeeded [] requests) account role = none ∧
          start.hasRole account role = true) ∧
    ∀ request failure, ((start.follow requests).serve request).1 = .error failure →
      ((start.follow requests).serve request).2 = start.follow requests := by
  have hs := (h.sound hfounder).follow requests
  refine ⟨hs.founded, hs.admin, ?_, hs.once, ?_, ?_⟩
  · intro role
    rw [hasRole, List.any_eq_false]
    intro a ha hheld
    simp only [Bool.and_eq_true, beq_iff_eq] at hheld
    exact hs.named a ha hheld.1
  · intro account role
    have hinitial : start.hasRole account role =
        (lastDecision [] account role).getD (start.hasRole account role) := rfl
    rw [hasRole_follow hinitial requests]
    cases lastDecision (start.succeeded [] requests) account role with
    | none => simp only [Option.getD_none, reduceCtorEq, true_and, false_or]
    | some decision =>
      simp only [Option.getD_some, Option.some.injEq, reduceCtorEq, false_and, or_false]
  · intro request failure hfails
    rcases (start.follow requests).serve_cases request with ⟨_, hserve⟩ | ⟨_, hserve, -⟩
    · rw [hserve]
    · rw [hserve] at hfails
      cases hfails

/-- The founder of price feeds makes another account administrator. That account fails to dismiss
the founder, but stops it from publishing; it makes a third account guardian and resigns, after
which it cannot undo this any more. -/
def quarrel : List RoleRequest :=
  [⟨Id.fill 1, Id.fill 2, .admin, true, 1⟩, ⟨Id.fill 2, Id.fill 1, .admin, false, 2⟩,
    ⟨Id.fill 2, Id.fill 1, .publisher, false, 3⟩, ⟨Id.fill 2, Id.fill 3, .guardian, true, 4⟩,
    ⟨Id.fill 2, Id.fill 2, .admin, false, 5⟩, ⟨Id.fill 2, Id.fill 3, .guardian, false, 6⟩]

/-- Four of these requests succeed, and the roles are held as they decide. -/
theorem quarrel_as_decided :
    Id.fill 1 ≠ Id.zero ∧
      ((PriceFeeds.create (Id.fill 1) 0).roles.succeeded [] quarrel).length = 4 ∧
      ((PriceFeeds.create (Id.fill 1) 0).roles.follow quarrel).hasRole (Id.fill 1) .admin = true ∧
      ¬ ((PriceFeeds.create (Id.fill 1) 0).roles.follow quarrel).hasRole (Id.fill 1) .publisher =
        true ∧
      ¬ ((PriceFeeds.create (Id.fill 1) 0).roles.follow quarrel).hasRole (Id.fill 2) .admin = true ∧
      ((PriceFeeds.create (Id.fill 1) 0).roles.follow quarrel).hasRole (Id.fill 3) .guardian =
        true := by
  have hfounder : Id.fill 1 ≠ Id.zero := by decide
  obtain ⟨-, hadmin, -, -, hdecided, -⟩ :=
    Founded.roles_as_decided (.feeds 0) hfounder quarrel
  refine ⟨hfounder, by decide +kernel, hadmin, ?_, ?_, ?_⟩
  · rw [hdecided]
    decide +kernel
  · rw [hdecided]
    decide +kernel
  · rw [hdecided]
    decide +kernel

end RoleRegister

end PooledCredit
