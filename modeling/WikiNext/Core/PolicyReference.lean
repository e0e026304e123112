import Mathlib.Data.Set.Insert
import WikiNext.Core.Policy

/-!
# Reference semantics of the resolver

What the ACL is for, in its own terms: the effective set of a role, the set
of held roles that grant an action, and the decision read off these sets. No
list order, no map and no accumulator appears here. The resolver's loops are
then shown to compute it.

§1 abstract model · §2 the maps against the lists · §3 the grant map against
the effective sets · §4 the resolver on a valid policy · §5 capstone.
-/

namespace WikiNext.Core

open WikiNext.Foundation

/-! ## §1  The abstract model -/

/-- What the role list allows role `r`. -/
def allowsOf (input : PolicyInput) (r : GroupId) : Set Action :=
  {a | ∃ role ∈ input.roles, role.role_id = r ∧ a ∈ role.allows}

def restrictionsOf (input : PolicyInput) (r : GroupId) : Set Action :=
  {a | ∃ role ∈ input.roles, role.role_id = r ∧ a ∈ role.restrictions}

/-- What the category overrides add to role `r`; empty without an override. -/
def overrideAllowsOf (input : PolicyInput) (r : GroupId) : Set Action :=
  {a | ∃ ov ∈ input.category_overrides, ov.role_id = r ∧ a ∈ ov.allows}

def overrideRestrictionsOf (input : PolicyInput) (r : GroupId) : Set Action :=
  {a | ∃ ov ∈ input.category_overrides, ov.role_id = r ∧ a ∈ ov.restrictions}

/-- The effective set of a role: base allow minus base restriction, plus
override allow, minus override restriction. -/
def eff (input : PolicyInput) (r : GroupId) : Set Action :=
  ((allowsOf input r \ restrictionsOf input r) ∪ overrideAllowsOf input r) \
    overrideRestrictionsOf input r

/-- The actions a page lock takes away. -/
def lockGuarded : Set Action :=
  {.edit, .delete, .rename, .manageFiles, .manageAuthors, .tag}

def roleIds (input : PolicyInput) : List GroupId := input.roles.map RolePolicy.role_id

def overrideIds (input : PolicyInput) : List GroupId :=
  input.category_overrides.map RoleOverride.role_id

/-- A policy without defects, for one subject. -/
structure ValidPolicy (input : PolicyInput) (subject : PolicySubject) : Prop where
  roles_distinct : (roleIds input).Nodup
  overrides_distinct : (overrideIds input).Nodup
  overrides_defined : ∀ r ∈ overrideIds input, r ∈ roleIds input
  subject_defined : ∀ r ∈ subject.role_ids, r ∈ roleIds input

open Classical in
/-- The held roles whose effective set contains the action. -/
noncomputable def grantors (input : PolicyInput) (subject : PolicySubject) (action : Action) :
    Finset GroupId :=
  subject.role_ids.filter (fun r => action ∈ eff input r)

theorem mem_grantors {input : PolicyInput} {subject : PolicySubject} {action : Action}
    {r : GroupId} :
    r ∈ grantors input subject action ↔ r ∈ subject.role_ids ∧ action ∈ eff input r := by
  simp [grantors]

open Classical in
/-- The decision a valid policy calls for. -/
noncomputable def referenceDecision (input : PolicyInput) (subject : PolicySubject)
    (page : PagePolicyState) (action : Action) : Decision :=
  if subject.is_active = false then .deny .inactiveAccount
  else if subject.is_superuser = true then .allow .superuser
  else if page.locked = true ∧ action ∈ lockGuarded ∧
      ∀ r ∈ subject.role_ids, Action.lock ∉ eff input r then
    .deny .pageLocked
  else if action = .manageAuthors ∧ page.subject_is_author = true ∧ page.locked = false then
    .allow .authorGrant
  else if h : (grantors input subject action).Nonempty then
    .allow (.roleGrant ((grantors input subject action).min' h))
  else .deny .noGrant

/-! ## §2  The maps against the lists -/

theorem uniqueRoles_isOk_iff (role_policies : List RolePolicy) :
    (∃ roles, uniqueRoles role_policies = .ok roles) ↔
      (role_policies.map RolePolicy.role_id).Nodup := by
  unfold uniqueRoles
  rw [indexBy_isOk_iff]
  simp [Fileable, Finmap.notMem_empty]

theorem uniqueRoles_lookup {role_policies : List RolePolicy} {roles : KeyMap GroupId RolePolicy}
    (h : uniqueRoles role_policies = .ok roles) (r : GroupId) :
    roles.lookup r = role_policies.find? (fun role => decide (role.role_id = r)) := by
  simpa using indexBy_lookup h r

theorem uniqueRoles_mem {role_policies : List RolePolicy} {roles : KeyMap GroupId RolePolicy}
    (h : uniqueRoles role_policies = .ok roles) (r : GroupId) :
    r ∈ roles ↔ r ∈ role_policies.map RolePolicy.role_id := by
  rw [← Finmap.lookup_isSome, uniqueRoles_lookup h, List.find?_isSome]
  simp

theorem uniqueOverrides_isOk_iff (role_overrides : List RoleOverride)
    (roles : KeyMap GroupId RolePolicy) :
    (∃ overrides, uniqueOverrides role_overrides roles = .ok overrides) ↔
      (∀ r ∈ role_overrides.map RoleOverride.role_id, r ∈ roles) ∧
        (role_overrides.map RoleOverride.role_id).Nodup := by
  unfold uniqueOverrides
  rw [indexBy_isOk_iff]
  simp [Fileable, Finmap.notMem_empty]

theorem uniqueOverrides_lookup {role_overrides : List RoleOverride}
    {roles : KeyMap GroupId RolePolicy} {overrides : KeyMap GroupId RoleOverride}
    (h : uniqueOverrides role_overrides roles = .ok overrides) (r : GroupId) :
    overrides.lookup r = role_overrides.find? (fun ov => decide (ov.role_id = r)) := by
  simpa using indexBy_lookup h r

/-- The maps `resolve` builds from a policy that passes both loops. -/
structure Indexed (input : PolicyInput) (roles : KeyMap GroupId RolePolicy)
    (overrides : KeyMap GroupId RoleOverride) : Prop where
  roles_eq : uniqueRoles input.roles = .ok roles
  overrides_eq : uniqueOverrides input.category_overrides roles = .ok overrides

theorem ValidPolicy.indexed {input : PolicyInput} {subject : PolicySubject}
    (h : ValidPolicy input subject) : ∃ roles overrides, Indexed input roles overrides := by
  obtain ⟨roles, hroles⟩ := (uniqueRoles_isOk_iff input.roles).mpr h.roles_distinct
  have hdef : ∀ r ∈ input.category_overrides.map RoleOverride.role_id, r ∈ roles :=
    fun r hr => (uniqueRoles_mem hroles r).mpr (h.overrides_defined r hr)
  obtain ⟨overrides, hover⟩ :=
    (uniqueOverrides_isOk_iff input.category_overrides roles).mpr ⟨hdef, h.overrides_distinct⟩
  exact ⟨roles, overrides, hroles, hover⟩

namespace Indexed

variable {input : PolicyInput} {roles : KeyMap GroupId RolePolicy}
  {overrides : KeyMap GroupId RoleOverride}

theorem mem_roles (h : Indexed input roles overrides) (r : GroupId) :
    r ∈ roles ↔ r ∈ roleIds input :=
  uniqueRoles_mem h.roles_eq r

theorem roles_distinct (h : Indexed input roles overrides) : (roleIds input).Nodup :=
  (uniqueRoles_isOk_iff _).mp ⟨roles, h.roles_eq⟩

theorem overrides_distinct (h : Indexed input roles overrides) : (overrideIds input).Nodup :=
  ((uniqueOverrides_isOk_iff _ roles).mp ⟨overrides, h.overrides_eq⟩).2

theorem validPolicy {subject : PolicySubject} (h : Indexed input roles overrides)
    (hsub : ∀ r ∈ subject.role_ids, r ∈ roles) : ValidPolicy input subject where
  roles_distinct := h.roles_distinct
  overrides_distinct := h.overrides_distinct
  overrides_defined := fun r hr =>
    (h.mem_roles r).mp (((uniqueOverrides_isOk_iff _ roles).mp ⟨overrides, h.overrides_eq⟩).1 r hr)
  subject_defined := fun r hr => (h.mem_roles r).mp (hsub r hr)

/-- Both maps answer with the one list entry that carries the id. -/
theorem lookup_roles (h : Indexed input roles overrides) {r : GroupId} {role : RolePolicy} :
    roles.lookup r = some role ↔ role ∈ input.roles ∧ role.role_id = r := by
  rw [uniqueRoles_lookup h.roles_eq, find?_key_eq_some_iff h.roles_distinct]

theorem lookup_overrides (h : Indexed input roles overrides) {r : GroupId} {ov : RoleOverride} :
    overrides.lookup r = some ov ↔ ov ∈ input.category_overrides ∧ ov.role_id = r := by
  rw [uniqueOverrides_lookup h.overrides_eq, find?_key_eq_some_iff h.overrides_distinct]

/-! ## §3  The grant map against the effective sets -/

theorem roleGrants_none (role : RolePolicy) (a : Action) :
    a ∈ roleGrants role none ↔ a ∈ role.allows ∧ a ∉ role.restrictions := by
  simp [roleGrants]

theorem roleGrants_some (role : RolePolicy) (ov : RoleOverride) (a : Action) :
    a ∈ roleGrants role (some ov) ↔
      ((a ∈ role.allows ∧ a ∉ role.restrictions) ∨ a ∈ ov.allows) ∧ a ∉ ov.restrictions := by
  simp [roleGrants]

/-- A set read off the list entries with id `r` is a set read off the one
entry that the map returns. -/
theorem exists_role_iff (h : Indexed input roles overrides) {r : GroupId} {role : RolePolicy}
    (hrole : roles.lookup r = some role) (p : RolePolicy → Prop) :
    (∃ role ∈ input.roles, role.role_id = r ∧ p role) ↔ p role := by
  constructor
  · rintro ⟨role', hmem, hid, hp⟩
    have heq := hrole.symm.trans (h.lookup_roles.mpr ⟨hmem, hid⟩)
    rwa [Option.some.inj heq]
  · intro hp
    obtain ⟨hmem, hid⟩ := h.lookup_roles.mp hrole
    exact ⟨role, hmem, hid, hp⟩

theorem exists_override_iff (h : Indexed input roles overrides) {r : GroupId}
    (p : RoleOverride → Prop) :
    (∃ ov ∈ input.category_overrides, ov.role_id = r ∧ p ov) ↔
      ∃ ov, overrides.lookup r = some ov ∧ p ov := by
  constructor
  · rintro ⟨ov, hmem, hid, hp⟩
    exact ⟨ov, h.lookup_overrides.mpr ⟨hmem, hid⟩, hp⟩
  · rintro ⟨ov, hov, hp⟩
    obtain ⟨hmem, hid⟩ := h.lookup_overrides.mp hov
    exact ⟨ov, hmem, hid, hp⟩

/-- **One role.** The four-step pipeline computes the effective set. -/
theorem mem_roleGrants_iff (h : Indexed input roles overrides) {r : GroupId} {role : RolePolicy}
    (hrole : roles.lookup r = some role) (a : Action) :
    a ∈ roleGrants role (overrides.lookup r) ↔ a ∈ eff input r := by
  simp only [eff, allowsOf, restrictionsOf, overrideAllowsOf, overrideRestrictionsOf,
    Set.mem_sdiff, Set.mem_union, Set.mem_ofPred_eq, h.exists_role_iff hrole,
    h.exists_override_iff]
  cases hov : overrides.lookup r with
  | none => simp [roleGrants_none]
  | some ov => simp [roleGrants_some]

theorem mem_offers_iff (h : Indexed input roles overrides) {r : GroupId} (hr : r ∈ roles)
    (a : Action) : a ∈ offers roles overrides r ↔ a ∈ eff input r := by
  obtain ⟨role, hrole⟩ := Finmap.mem_iff.mp hr
  rw [offers, hrole]
  simp [h.mem_roleGrants_iff hrole]

/-- **The grant map.** An action is granted by the least held role whose
effective set contains it. The fold starts empty, so no earlier claim hides
a grant. -/
theorem lookup_effectiveGrants (h : Indexed input roles overrides) {subject : PolicySubject}
    (hsub : ∀ r ∈ subject.role_ids, r ∈ roles) (a : Action) (r : GroupId) :
    (effectiveGrants subject roles overrides).lookup a = some r ↔
      IsLeast (grantors input subject a : Set GroupId) r := by
  have hset : {r | r ∈ subject.role_ids ∧ a ∈ offers roles overrides r} =
      (grantors input subject a : Set GroupId) := by
    ext r
    simp only [Set.mem_ofPred_eq, Finset.mem_coe, mem_grantors]
    exact and_congr_right fun hr => h.mem_offers_iff (hsub r hr) a
  rw [effectiveGrants, lookup_firstWins, Finmap.lookup_empty, Option.none_or,
    find?_ascending_eq_some_iff, hset]

theorem lookup_effectiveGrants_none (h : Indexed input roles overrides) {subject : PolicySubject}
    (hsub : ∀ r ∈ subject.role_ids, r ∈ roles) (a : Action) :
    (effectiveGrants subject roles overrides).lookup a = none ↔
      ∀ r ∈ subject.role_ids, a ∉ eff input r := by
  rw [effectiveGrants, lookup_firstWins, Finmap.lookup_empty, Option.none_or,
    find?_ascending_eq_none_iff]
  exact forall₂_congr fun r hr => not_congr (h.mem_offers_iff (hsub r hr) a)

theorem notMem_effectiveGrants_iff (h : Indexed input roles overrides) {subject : PolicySubject}
    (hsub : ∀ r ∈ subject.role_ids, r ∈ roles) (a : Action) :
    a ∉ effectiveGrants subject roles overrides ↔
      ∀ r ∈ subject.role_ids, a ∉ eff input r := by
  rw [← Finmap.lookup_eq_none, h.lookup_effectiveGrants_none hsub]

/-! ## §4  The resolver on a valid policy -/

theorem isRemovedByPageLock_iff (a : Action) :
    isRemovedByPageLock a = true ↔ a ∈ lockGuarded := by
  cases a <;> simp [isRemovedByPageLock, lockGuarded]

theorem decideGranted_eq_reference (h : Indexed input roles overrides) {subject : PolicySubject}
    (hsub : ∀ r ∈ subject.role_ids, r ∈ roles) (hactive : subject.is_active = true)
    (hsuper : subject.is_superuser = false) (page : PagePolicyState) (action : Action) :
    decideGranted page action (effectiveGrants subject roles overrides) =
      referenceDecision input subject page action := by
  have hlock : (page.locked ∧ isRemovedByPageLock action ∧
      Action.lock ∉ effectiveGrants subject roles overrides) ↔
      (page.locked = true ∧ action ∈ lockGuarded ∧
        ∀ r ∈ subject.role_ids, Action.lock ∉ eff input r) := by
    rw [isRemovedByPageLock_iff, h.notMem_effectiveGrants_iff hsub]
  have hauthor : (action = .manageAuthors ∧ page.subject_is_author ∧ ¬ page.locked) ↔
      (action = .manageAuthors ∧ page.subject_is_author = true ∧ page.locked = false) := by
    rw [Bool.not_eq_true]
  rw [referenceDecision, if_neg (by simp [hactive]), if_neg (by simp [hsuper])]
  classical
  refine if_congr hlock rfl (if_congr hauthor rfl ?_)
  by_cases hne : (grantors input subject action).Nonempty
  · rw [dif_pos hne, (h.lookup_effectiveGrants hsub action _).mpr (Finset.isLeast_min' _ hne)]
  · have hnone : ∀ r ∈ subject.role_ids, action ∉ eff input r := by
      intro r hr hmem
      exact hne ⟨r, mem_grantors.mpr ⟨hr, hmem⟩⟩
    rw [dif_neg hne, (h.lookup_effectiveGrants_none hsub action).mpr hnone]

end Indexed

theorem resolve_inactive {subject : PolicySubject} (hinactive : subject.is_active = false)
    (input : PolicyInput) (page : PagePolicyState) (action : Action) :
    resolve input subject page action = .deny .inactiveAccount := by
  simp [resolve, hinactive]

theorem resolve_superuser {subject : PolicySubject} (hactive : subject.is_active = true)
    (hsuper : subject.is_superuser = true) (input : PolicyInput) (page : PagePolicyState)
    (action : Action) :
    resolve input subject page action = .allow .superuser := by
  simp [resolve, hactive, hsuper]

/-- Past the two account checks, on a policy whose maps were built and whose
subject holds defined roles only, `resolve` is the cascade on the grant map. -/
theorem resolve_indexed {input : PolicyInput} {roles : KeyMap GroupId RolePolicy}
    {overrides : KeyMap GroupId RoleOverride} {subject : PolicySubject}
    (h : Indexed input roles overrides) (hsub : ∀ r ∈ subject.role_ids, r ∈ roles)
    (hactive : subject.is_active = true) (hsuper : subject.is_superuser = false)
    (page : PagePolicyState) (action : Action) :
    resolve input subject page action =
      decideGranted page action (effectiveGrants subject roles overrides) := by
  have hnone : (ascending subject.role_ids).find? (fun r => decide (r ∉ roles)) = none :=
    (find?_ascending_eq_none_iff _ _).mpr fun r hr hnot => hnot (hsub r hr)
  simp only [resolve, hactive, hsuper, h.roles_eq, h.overrides_eq, hnone, Bool.not_true,
    Bool.false_eq_true, if_false]

/-- The resolver agrees with the reference on every valid policy. -/
theorem resolve_of_valid {input : PolicyInput} {subject : PolicySubject}
    (h : ValidPolicy input subject) (hactive : subject.is_active = true)
    (hsuper : subject.is_superuser = false) (page : PagePolicyState) (action : Action) :
    resolve input subject page action = referenceDecision input subject page action := by
  obtain ⟨roles, overrides, hidx⟩ := h.indexed
  have hsub : ∀ r ∈ subject.role_ids, r ∈ roles :=
    fun r hr => (hidx.mem_roles r).mpr (h.subject_defined r hr)
  rw [resolve_indexed hidx hsub hactive hsuper,
    hidx.decideGranted_eq_reference hsub hactive hsuper]

/-- Anything but a defect report means that the policy is valid. -/
theorem validPolicy_of_resolve_ne_invalid {input : PolicyInput} {subject : PolicySubject}
    {page : PagePolicyState} {action : Action} (hactive : subject.is_active = true)
    (hsuper : subject.is_superuser = false)
    (h : ∀ issue, resolve input subject page action ≠ invalid issue) :
    ValidPolicy input subject := by
  simp only [resolve, hactive, hsuper, Bool.not_true, Bool.false_eq_true, if_false] at h
  cases hroles : uniqueRoles input.roles with
  | error issue => exact absurd (by rw [hroles]) (h issue)
  | ok roles =>
      simp only [hroles] at h
      cases hover : uniqueOverrides input.category_overrides roles with
      | error issue => exact absurd (by rw [hover]) (h issue)
      | ok overrides =>
          simp only [hover] at h
          cases hfind : (ascending subject.role_ids).find? (fun r => decide (r ∉ roles)) with
          | some r => exact absurd (by rw [hfind]) (h (.unknownSubjectRole r))
          | none =>
              have hsub := (find?_ascending_eq_none_iff _ _).mp hfind
              exact Indexed.validPolicy ⟨hroles, hover⟩ fun r hr => not_not.mp (hsub r hr)

/-! ## §5  Capstone -/

/-- **Reference semantics.** `resolve` computes the reference decision: on
every input for an inactive account or an active superuser, and on every
valid policy for everyone else. -/
theorem resolve_eq_referenceDecision (input : PolicyInput) (subject : PolicySubject)
    (page : PagePolicyState) (action : Action)
    (hvalid : subject.is_active = true → subject.is_superuser = false →
      ValidPolicy input subject) :
    resolve input subject page action = referenceDecision input subject page action := by
  cases hactive : subject.is_active with
  | false => rw [resolve_inactive hactive]; simp [referenceDecision, hactive]
  | true =>
      cases hsuper : subject.is_superuser with
      | true => rw [resolve_superuser hactive hsuper]; simp [referenceDecision, hactive, hsuper]
      | false => exact resolve_of_valid (hvalid hactive hsuper) hactive hsuper page action

/-- Two roles listed out of order and one override: `everyone` (id 1) loses
`edit` to its own restriction, `editors` (id 2) keeps it. -/
def twoRolePolicy : PolicyInput where
  roles := [⟨.new 2, {.edit}, ∅⟩, ⟨.new 1, {.read, .edit}, {.edit}⟩]
  category_overrides := [⟨.new 1, {.comment}, {.read}⟩]

def twoRoleMember : PolicySubject := ⟨none, true, false, {.new 1, .new 2}⟩

theorem twoRolePolicy_valid : ValidPolicy twoRolePolicy twoRoleMember := by
  constructor <;> decide

theorem resolve_eq_referenceDecision_twoRoles :
    resolve twoRolePolicy twoRoleMember ⟨false, false⟩ .edit = .allow (.roleGrant (.new 2)) ∧
    resolve twoRolePolicy twoRoleMember ⟨false, false⟩ .edit =
      referenceDecision twoRolePolicy twoRoleMember ⟨false, false⟩ .edit :=
  ⟨by decide, resolve_eq_referenceDecision twoRolePolicy twoRoleMember ⟨false, false⟩ .edit
    fun _ _ => twoRolePolicy_valid⟩

end WikiNext.Core
