import WikiNext.Core.Id
import WikiNext.Foundation.KeyedIndex

/-!
# The compatibility ACL resolver

The permission model derived from observable RuFoundation behaviour:
restrictions act inside one role, a category override acts on one role, and
the grants of all held roles are united. Invalid or incomplete input always
produces a denial with an explicit reason.

§1 data · §2 validation loops · §3 effective grants · §4 `resolve`.
-/

namespace WikiNext.Core

open WikiNext.Foundation

/-! ## §1  Data -/

inductive Action where
  | read
  | edit
  | create
  | delete
  | restore
  | rename
  | manageFiles
  | manageAuthors
  | tag
  | rate
  | comment
  | moderate
  | manageAcl
  | lock
  | admin
deriving DecidableEq, Repr

/-- The derived order is the order of declaration. -/
instance : LinearOrder Action :=
  LinearOrder.lift' Action.ctorIdx (by
    intro a b h
    cases a <;> cases b <;> first | rfl | exact absurd h (by decide))

structure RolePolicy where
  role_id : GroupId
  allows : Finset Action
  restrictions : Finset Action
deriving DecidableEq

structure RoleOverride where
  role_id : GroupId
  allows : Finset Action
  restrictions : Finset Action
deriving DecidableEq

structure PolicyInput where
  roles : List RolePolicy
  /-- Overrides already resolved for the requested category. -/
  category_overrides : List RoleOverride
deriving DecidableEq

structure PolicySubject where
  user_id : Option UserId
  is_active : Bool
  is_superuser : Bool
  /-- Includes the virtual `everyone` and `registered` roles. -/
  role_ids : Finset GroupId
deriving DecidableEq

structure PagePolicyState where
  locked : Bool
  subject_is_author : Bool
deriving DecidableEq

inductive PolicyIssue where
  | duplicateRole (role_id : GroupId)
  | duplicateOverride (role_id : GroupId)
  | unknownSubjectRole (role_id : GroupId)
  | unknownOverrideRole (role_id : GroupId)
deriving DecidableEq, Repr

inductive DecisionReason where
  | inactiveAccount
  | superuser
  | roleGrant (role_id : GroupId)
  | authorGrant
  | pageLocked
  | noGrant
  | invalidPolicy (issue : PolicyIssue)
deriving DecidableEq, Repr

structure Decision where
  allowed : Bool
  reason : DecisionReason
deriving DecidableEq, Repr

def Decision.allow (reason : DecisionReason) : Decision := ⟨true, reason⟩

def Decision.deny (reason : DecisionReason) : Decision := ⟨false, reason⟩

@[simp] theorem Decision.allow_allowed (reason : DecisionReason) :
    (Decision.allow reason).allowed = true := rfl

@[simp] theorem Decision.deny_allowed (reason : DecisionReason) :
    (Decision.deny reason).allowed = false := rfl

def invalid (issue : PolicyIssue) : Decision := .deny (.invalidPolicy issue)

@[simp] theorem invalid_allowed (issue : PolicyIssue) : (invalid issue).allowed = false := rfl

/-! ## §2  Validation loops -/

/-- Roles under their id; the first id that repeats is the issue. -/
def uniqueRoles (role_policies : List RolePolicy) :
    Except PolicyIssue (KeyMap GroupId RolePolicy) :=
  indexBy RolePolicy.role_id (fun _ => none) (fun role => .duplicateRole role.role_id) ∅
    role_policies

/-- Overrides under their role id. Each one is first checked against the
defined roles and then against the overrides filed so far. -/
def uniqueOverrides (role_overrides : List RoleOverride) (roles : KeyMap GroupId RolePolicy) :
    Except PolicyIssue (KeyMap GroupId RoleOverride) :=
  indexBy RoleOverride.role_id
    (fun role_override =>
      if role_override.role_id ∈ roles then none
      else some (.unknownOverrideRole role_override.role_id))
    (fun role_override => .duplicateOverride role_override.role_id) ∅ role_overrides

/-! ## §3  Effective grants -/

/-- The rights one role contributes: base allows, minus base restrictions,
plus override allows, minus override restrictions. -/
def roleGrants (role : RolePolicy) (role_override : Option RoleOverride) : Finset Action :=
  let role_grants := role.allows.filter (fun action => action ∉ role.restrictions)
  match role_override with
  | none => role_grants
  | some role_override =>
      (role_grants ∪ role_override.allows).filter
        (fun action => action ∉ role_override.restrictions)

/-- What the loop body offers for one held role; an undefined role is skipped. -/
def offers (roles : KeyMap GroupId RolePolicy) (overrides : KeyMap GroupId RoleOverride)
    (role_id : GroupId) : List Action :=
  match roles.lookup role_id with
  | none => []
  | some role => ascending (roleGrants role (overrides.lookup role_id))

/-- Every granted action, with the first held role that grants it. -/
def effectiveGrants (subject : PolicySubject) (roles : KeyMap GroupId RolePolicy)
    (overrides : KeyMap GroupId RoleOverride) : KeyMap Action GroupId :=
  firstWins (offers roles overrides) (ascending subject.role_ids) ∅

def isRemovedByPageLock : Action → Bool
  | .edit | .delete | .rename | .manageFiles | .manageAuthors | .tag => true
  | _ => false

/-! ## §4  The resolver -/

/-- What `resolve` does once the policy has passed validation: the page lock,
then the author exception, then the first granting role. -/
def decideGranted (page : PagePolicyState) (action : Action)
    (grants : KeyMap Action GroupId) : Decision :=
  if page.locked ∧ isRemovedByPageLock action ∧ Action.lock ∉ grants then
    .deny .pageLocked
  else if action = .manageAuthors ∧ page.subject_is_author ∧ ¬ page.locked then
    .allow .authorGrant
  else
    match grants.lookup action with
    | some role_id => .allow (.roleGrant role_id)
    | none => .deny .noGrant

/-- Resolves a permission. Every defect of the policy is a denial. -/
def resolve (input : PolicyInput) (subject : PolicySubject) (page : PagePolicyState)
    (action : Action) : Decision :=
  if !subject.is_active then .deny .inactiveAccount
  else if subject.is_superuser then .allow .superuser
  else
    match uniqueRoles input.roles with
    | .error issue => invalid issue
    | .ok roles =>
        match uniqueOverrides input.category_overrides roles with
        | .error issue => invalid issue
        | .ok overrides =>
            -- the set is walked in order, so the least undefined id is named
            match (ascending subject.role_ids).find? (fun r => decide (r ∉ roles)) with
            | some role_id => invalid (.unknownSubjectRole role_id)
            | none => decideGranted page action (effectiveGrants subject roles overrides)

end WikiNext.Core
