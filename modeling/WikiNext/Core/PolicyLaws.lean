import Mathlib.Data.List.Forall2
import WikiNext.Core.PolicyDiagnosis

/-!
# Laws of the resolver

Properties that relate two runs of `resolve`. All of them are read off the
reference semantics: the effective sets move with the inputs, and the
decision moves with the effective sets.
-/

namespace WikiNext.Core

/-! ## §1  Monotonicity of permission -/

/-- `b` is the counterpart of `a` under the same id: it allows at least as
much and restricts at most as much. -/
structure RolePolicy.Le (a b : RolePolicy) : Prop where
  role_id : a.role_id = b.role_id
  allows : a.allows ⊆ b.allows
  restrictions : b.restrictions ⊆ a.restrictions

structure RoleOverride.Le (a b : RoleOverride) : Prop where
  role_id : a.role_id = b.role_id
  allows : a.allows ⊆ b.allows
  restrictions : b.restrictions ⊆ a.restrictions

/-- The same ids in the same order, every entry at least as generous. -/
structure PolicyInput.Le (input input' : PolicyInput) : Prop where
  roles : List.Forall₂ RolePolicy.Le input.roles input'.roles
  overrides : List.Forall₂ RoleOverride.Le input.category_overrides input'.category_overrides

/-- The subject may gain defined roles and account flags, never lose any. -/
structure PolicySubject.Le (input' : PolicyInput) (subject subject' : PolicySubject) : Prop where
  active : subject.is_active = true → subject'.is_active = true
  superuser : subject.is_superuser = true → subject'.is_superuser = true
  role_ids : subject.role_ids ⊆ subject'.role_ids
  added_defined : ∀ r ∈ subject'.role_ids, r ∉ subject.role_ids → r ∈ roleIds input'

/-- The subject may become an author, the page may be unlocked. -/
structure PagePolicyState.Le (page page' : PagePolicyState) : Prop where
  author : page.subject_is_author = true → page'.subject_is_author = true
  locked : page'.locked = true → page.locked = true

theorem forall₂_map_eq {A K : Type} {R : A → A → Prop} {key : A → K}
    (hkey : ∀ a b, R a b → key a = key b) :
    ∀ {xs ys : List A}, List.Forall₂ R xs ys → xs.map key = ys.map key
  | [], [], _ => rfl
  | _ :: _, _ :: _, .cons hxy hrest => by
      rw [List.map_cons, List.map_cons, hkey _ _ hxy, forall₂_map_eq hkey hrest]

theorem forall₂_exists_right {A : Type} {R : A → A → Prop} :
    ∀ {xs ys : List A}, List.Forall₂ R xs ys → ∀ x ∈ xs, ∃ y ∈ ys, R x y
  | _ :: _, _ :: _, .cons hxy hrest, x, hx => by
      rcases List.mem_cons.mp hx with rfl | hx
      · exact ⟨_, List.mem_cons_self, hxy⟩
      · obtain ⟨y, hy, hR⟩ := forall₂_exists_right hrest x hx
        exact ⟨y, List.mem_cons_of_mem _ hy, hR⟩

namespace PolicyInput.Le

variable {input input' : PolicyInput}

theorem roleIds_eq (h : input.Le input') : roleIds input = roleIds input' :=
  forall₂_map_eq (fun _ _ hle => hle.role_id) h.roles

theorem overrideIds_eq (h : input.Le input') : overrideIds input = overrideIds input' :=
  forall₂_map_eq (fun _ _ hle => hle.role_id) h.overrides

theorem allowsOf_subset (h : input.Le input') (r : GroupId) :
    allowsOf input r ⊆ allowsOf input' r := by
  rintro a ⟨role, hmem, hid, ha⟩
  obtain ⟨role', hmem', hle⟩ := forall₂_exists_right h.roles role hmem
  exact ⟨role', hmem', hle.role_id ▸ hid, hle.allows ha⟩

theorem restrictionsOf_subset (h : input.Le input') (r : GroupId) :
    restrictionsOf input' r ⊆ restrictionsOf input r := by
  rintro a ⟨role', hmem', hid, ha⟩
  obtain ⟨role, hmem, hle⟩ := forall₂_exists_right h.roles.flip role' hmem'
  exact ⟨role, hmem, hle.role_id.trans hid, hle.restrictions ha⟩

theorem overrideAllowsOf_subset (h : input.Le input') (r : GroupId) :
    overrideAllowsOf input r ⊆ overrideAllowsOf input' r := by
  rintro a ⟨ov, hmem, hid, ha⟩
  obtain ⟨ov', hmem', hle⟩ := forall₂_exists_right h.overrides ov hmem
  exact ⟨ov', hmem', hle.role_id ▸ hid, hle.allows ha⟩

theorem overrideRestrictionsOf_subset (h : input.Le input') (r : GroupId) :
    overrideRestrictionsOf input' r ⊆ overrideRestrictionsOf input r := by
  rintro a ⟨ov', hmem', hid, ha⟩
  obtain ⟨ov, hmem, hle⟩ := forall₂_exists_right h.overrides.flip ov' hmem'
  exact ⟨ov, hmem, hle.role_id.trans hid, hle.restrictions ha⟩

/-- The pipeline is monotone: both restriction points are antitone, both
allow points monotone. -/
theorem eff_subset (h : input.Le input') (r : GroupId) : eff input r ⊆ eff input' r :=
  Set.sdiff_subset_sdiff
    (Set.union_subset_union
      (Set.sdiff_subset_sdiff (h.allowsOf_subset r) (h.restrictionsOf_subset r))
      (h.overrideAllowsOf_subset r))
    (h.overrideRestrictionsOf_subset r)

theorem validPolicy (h : input.Le input') {subject subject' : PolicySubject}
    (hsub : PolicySubject.Le input' subject subject') (hvalid : ValidPolicy input subject) :
    ValidPolicy input' subject' where
  roles_distinct := h.roleIds_eq ▸ hvalid.roles_distinct
  overrides_distinct := h.overrideIds_eq ▸ hvalid.overrides_distinct
  overrides_defined := h.overrideIds_eq ▸ h.roleIds_eq ▸ hvalid.overrides_defined
  subject_defined := by
    intro r hr
    by_cases hold : r ∈ subject.role_ids
    · exact h.roleIds_eq ▸ hvalid.subject_defined r hold
    · exact hsub.added_defined r hr hold

end PolicyInput.Le

/-- When an ordinary account is allowed: the lock does not bite, and either
the author exception or a held role grants the action. -/
theorem referenceDecision_allowed_iff {input : PolicyInput} {subject : PolicySubject}
    {page : PagePolicyState} {action : Action} (hactive : subject.is_active = true)
    (hsuper : subject.is_superuser = false) :
    (referenceDecision input subject page action).allowed = true ↔
      (page.locked = true → action ∈ lockGuarded →
        ∃ r ∈ subject.role_ids, Action.lock ∈ eff input r) ∧
      ((action = .manageAuthors ∧ page.subject_is_author = true ∧ page.locked = false) ∨
        ∃ r ∈ subject.role_ids, action ∈ eff input r) := by
  have hgrant : (grantors input subject action).Nonempty ↔
      ∃ r ∈ subject.role_ids, action ∈ eff input r := by
    simp [Finset.Nonempty, mem_grantors]
  rw [← hgrant, referenceDecision, if_neg (by simp [hactive]), if_neg (by simp [hsuper])]
  split_ifs with hlock hauthor hne
  · obtain ⟨hl, hg, hnone⟩ := hlock
    simp only [Decision.deny_allowed, Bool.false_eq_true, false_iff, not_and]
    intro hgate
    obtain ⟨r, hr, hmem⟩ := hgate hl hg
    exact absurd hmem (hnone r hr)
  all_goals
    have hgate : page.locked = true → action ∈ lockGuarded →
        ∃ r ∈ subject.role_ids, Action.lock ∈ eff input r := by
      intro hl hg
      by_contra hno
      exact hlock ⟨hl, hg, fun r hr hmem => hno ⟨r, hr, hmem⟩⟩
  · simp [hauthor]
  · simpa [hne] using hgate
  · simp [hauthor, hne]

/-- **Monotonicity of permission.** Joining a defined role, gaining an allow,
losing a restriction, becoming an author or unlocking the page never turns an
allow into a deny. -/
theorem resolve_allowed_mono {input input' : PolicyInput} {subject subject' : PolicySubject}
    {page page' : PagePolicyState} (hinput : input.Le input')
    (hsubject : PolicySubject.Le input' subject subject') (hpage : page.Le page')
    (action : Action) (hallowed : (resolve input subject page action).allowed = true) :
    (resolve input' subject' page' action).allowed = true := by
  cases hactive : subject.is_active with
  | false =>
      rw [resolve_inactive hactive] at hallowed
      simp at hallowed
  | true =>
      have hactive' := hsubject.active hactive
      cases hsuper' : subject'.is_superuser with
      | true => simp [resolve_superuser hactive' hsuper']
      | false =>
          have hsuper : subject.is_superuser = false := by
            by_contra hne
            have := hsubject.superuser (by simpa using hne)
            simp [hsuper'] at this
          have hvalid : ValidPolicy input subject := by
            apply validPolicy_of_resolve_ne_invalid hactive hsuper
            intro issue heq
            rw [heq] at hallowed
            exact absurd hallowed (by simp)
          rw [resolve_of_valid hvalid hactive hsuper,
            referenceDecision_allowed_iff hactive hsuper] at hallowed
          rw [resolve_of_valid (hinput.validPolicy hsubject hvalid) hactive' hsuper',
            referenceDecision_allowed_iff hactive' hsuper']
          obtain ⟨hgate, hgrant⟩ := hallowed
          -- a grant of a held role survives in the counterpart of the same role
          have hmono : ∀ a, (∃ r ∈ subject.role_ids, a ∈ eff input r) →
              ∃ r ∈ subject'.role_ids, a ∈ eff input' r := by
            rintro a ⟨r, hr, ha⟩
            exact ⟨r, hsubject.role_ids hr, hinput.eff_subset r ha⟩
          refine ⟨fun hl hg => hmono _ (hgate (hpage.locked hl) hg), ?_⟩
          rcases hgrant with ⟨ha, hauthor, hunlocked⟩ | hgrant
          · refine Or.inl ⟨ha, hpage.author hauthor, ?_⟩
            by_contra hne
            have := hpage.locked (by simpa using hne)
            simp [hunlocked] at this
          · exact Or.inr (hmono _ hgrant)

/-- Moderators edit locked pages; `everyone` may not even read. -/
def strictPolicy : PolicyInput where
  roles := [⟨.new 2, {.edit, .lock}, ∅⟩, ⟨.new 1, {.read}, {.read}⟩]
  category_overrides := [⟨.new 1, ∅, {.comment}⟩]

/-- The same roles, with more allows and no restrictions. -/
def generousPolicy : PolicyInput where
  roles := [⟨.new 2, {.edit, .lock}, ∅⟩, ⟨.new 1, {.read, .rate}, ∅⟩]
  category_overrides := [⟨.new 1, {.comment}, ∅⟩]

/-- A moderator of a locked page keeps `edit` when the policy becomes generous,
the page is unlocked and the moderator joins `everyone` and the authors. -/
theorem resolve_allowed_mono_moderator :
    (resolve strictPolicy ⟨none, true, false, {.new 2}⟩ ⟨true, false⟩ .edit).allowed = true ∧
    (resolve generousPolicy ⟨none, true, false, {.new 1, .new 2}⟩ ⟨false, true⟩ .edit).allowed =
      true :=
  have hinput : strictPolicy.Le generousPolicy :=
    ⟨.cons ⟨by decide, by decide, by decide⟩ (.cons ⟨by decide, by decide, by decide⟩ .nil),
      .cons ⟨by decide, by decide, by decide⟩ .nil⟩
  have hsubject : PolicySubject.Le generousPolicy ⟨none, true, false, {.new 2}⟩
      ⟨none, true, false, {.new 1, .new 2}⟩ := ⟨by decide, by decide, by decide, by decide⟩
  have hpage : PagePolicyState.Le ⟨true, false⟩ ⟨false, true⟩ := ⟨by decide, by decide⟩
  ⟨by decide, resolve_allowed_mono hinput hsubject hpage .edit (by decide)⟩

/-! ## §2  Noninterference -/

/-- All that a policy shows about one subject and one action: for each held
role whether it grants the action, and whether it grants `lock`. -/
structure SameView (input input' : PolicyInput) (subject : PolicySubject) (action : Action) :
    Prop where
  action : ∀ r ∈ subject.role_ids, action ∈ eff input r ↔ action ∈ eff input' r
  lock : ∀ r ∈ subject.role_ids, Action.lock ∈ eff input r ↔ Action.lock ∈ eff input' r

/-- The reference decision depends on the view, on the account flags and on
nothing else. -/
theorem referenceDecision_congr {input input' : PolicyInput} {subject subject' : PolicySubject}
    {action : Action} (hview : SameView input input' subject action)
    (hroles : subject'.role_ids = subject.role_ids)
    (hactive : subject'.is_active = subject.is_active)
    (hsuper : subject'.is_superuser = subject.is_superuser) (page : PagePolicyState) :
    referenceDecision input' subject' page action = referenceDecision input subject page action := by
  classical
  have hgrantors : grantors input' subject' action = grantors input subject action := by
    ext r
    rw [mem_grantors, mem_grantors, hroles]
    exact and_congr_right fun hr => (hview.action r hr).symm
  have hlock : (page.locked = true ∧ action ∈ lockGuarded ∧
        ∀ r ∈ subject'.role_ids, Action.lock ∉ eff input' r) ↔
      page.locked = true ∧ action ∈ lockGuarded ∧
        ∀ r ∈ subject.role_ids, Action.lock ∉ eff input r := by
    rw [hroles]
    exact and_congr_right' (and_congr_right'
      (forall₂_congr fun r hr => not_congr (hview.lock r hr).symm))
  simp only [referenceDecision, hgrantors, hlock, hactive, hsuper]

/-- Two policies that list the same entries under the held ids show the same
view: other roles and their overrides do not enter. -/
theorem sameView_of_held_entries {input input' : PolicyInput} {subject : PolicySubject}
    (hroles : ∀ role : RolePolicy, role.role_id ∈ subject.role_ids →
      (role ∈ input.roles ↔ role ∈ input'.roles))
    (hover : ∀ ov : RoleOverride, ov.role_id ∈ subject.role_ids →
      (ov ∈ input.category_overrides ↔ ov ∈ input'.category_overrides)) (action : Action) :
    SameView input input' subject action := by
  have heff : ∀ r ∈ subject.role_ids, eff input r = eff input' r := by
    intro r hr
    have hrole : ∀ p : RolePolicy → Prop,
        (∃ role ∈ input.roles, role.role_id = r ∧ p role) ↔
          ∃ role ∈ input'.roles, role.role_id = r ∧ p role := by
      intro p
      refine exists_congr fun role => ?_
      by_cases hid : role.role_id = r
      · rw [hroles role (hid ▸ hr)]
      · simp [hid]
    have hov : ∀ p : RoleOverride → Prop,
        (∃ ov ∈ input.category_overrides, ov.role_id = r ∧ p ov) ↔
          ∃ ov ∈ input'.category_overrides, ov.role_id = r ∧ p ov := by
      intro p
      refine exists_congr fun ov => ?_
      by_cases hid : ov.role_id = r
      · rw [hover ov (hid ▸ hr)]
      · simp [hid]
    simp only [eff, allowsOf, restrictionsOf, overrideAllowsOf, overrideRestrictionsOf, hrole, hov]
  exact ⟨fun r hr => by rw [heff r hr], fun r hr => by rw [heff r hr]⟩

/-- **Noninterference.** Two valid policies with the same view lead to the
same decision and the same explanation for any two ordinary subjects that
hold the same roles, whoever they are. -/
theorem resolve_noninterference {input input' : PolicyInput} {subject subject' : PolicySubject}
    {action : Action} (page : PagePolicyState)
    (hactive : subject.is_active = true) (hactive' : subject'.is_active = true)
    (hsuper : subject.is_superuser = false) (hsuper' : subject'.is_superuser = false)
    (hvalid : ValidPolicy input subject) (hvalid' : ValidPolicy input' subject')
    (hroles : subject'.role_ids = subject.role_ids)
    (hview : ∀ r ∈ subject.role_ids,
      (action ∈ eff input r ↔ action ∈ eff input' r) ∧
        (Action.lock ∈ eff input r ↔ Action.lock ∈ eff input' r)) :
    resolve input' subject' page action = resolve input subject page action := by
  rw [resolve_of_valid hvalid hactive hsuper, resolve_of_valid hvalid' hactive' hsuper']
  have hsame : SameView input input' subject action :=
    ⟨fun r hr => (hview r hr).1, fun r hr => (hview r hr).2⟩
  exact referenceDecision_congr hsame hroles (hactive'.trans hactive.symm)
    (hsuper'.trans hsuper.symm) page

/-- The first policy with more roles in front, and other rights and an override
on a role that nobody here holds. -/
def crowdedPolicy : PolicyInput where
  roles := [⟨.new 9, {.lock, .edit}, ∅⟩, ⟨.new 1, {.read, .tag}, {.tag}⟩,
    ⟨.new 2, {.edit, .rate}, ∅⟩]
  category_overrides := [⟨.new 9, {.admin}, ∅⟩]

theorem resolve_noninterference_crowded :
    resolve crowdedPolicy ⟨some (.new 5), true, false, {.new 1, .new 2}⟩ ⟨true, false⟩ .edit =
      resolve twoRolePolicy twoRoleMember ⟨true, false⟩ .edit :=
  have hvalid : ValidPolicy crowdedPolicy ⟨some (.new 5), true, false, {.new 1, .new 2}⟩ := by
    constructor <;> decide
  resolve_noninterference ⟨true, false⟩ rfl rfl rfl rfl twoRolePolicy_valid hvalid rfl (by
    intro r hr
    have hr : r = .new 1 ∨ r = .new 2 := by simpa [twoRoleMember] using hr
    rcases hr with rfl | rfl <;>
      simp [eff, allowsOf, restrictionsOf, overrideAllowsOf, overrideRestrictionsOf,
        crowdedPolicy, twoRolePolicy])

/-- Roles outside the subject's, their overrides and the user id do not show:
the subjects differ in the id, the policies in entries under other ids. -/
theorem resolve_eq_of_held_entries {input input' : PolicyInput} {subject : PolicySubject}
    {user_id : Option UserId} (page : PagePolicyState) (action : Action)
    (hactive : subject.is_active = true) (hsuper : subject.is_superuser = false)
    (hvalid : ValidPolicy input subject) (hvalid' : ValidPolicy input' subject)
    (hroles : ∀ role : RolePolicy, role.role_id ∈ subject.role_ids →
      (role ∈ input.roles ↔ role ∈ input'.roles))
    (hover : ∀ ov : RoleOverride, ov.role_id ∈ subject.role_ids →
      (ov ∈ input.category_overrides ↔ ov ∈ input'.category_overrides)) :
    resolve input' { subject with user_id := user_id } page action =
      resolve input subject page action := by
  have hvalid'' : ValidPolicy input' { subject with user_id := user_id } :=
    ⟨hvalid'.roles_distinct, hvalid'.overrides_distinct, hvalid'.overrides_defined,
      hvalid'.subject_defined⟩
  rw [resolve_of_valid hvalid hactive hsuper, resolve_of_valid hvalid'' hactive hsuper]
  exact referenceDecision_congr (sameView_of_held_entries hroles hover action) rfl rfl rfl page

/-! ## §3  Order independence -/

namespace PolicyInput

/-- The same entries in another order. -/
structure Reordered (input input' : PolicyInput) : Prop where
  roles : input.roles.Perm input'.roles
  overrides : input.category_overrides.Perm input'.category_overrides

namespace Reordered

variable {input input' : PolicyInput} (h : input.Reordered input')
include h

theorem roleIds_nodup_iff : (roleIds input).Nodup ↔ (roleIds input').Nodup :=
  (h.roles.map _).nodup_iff

theorem mem_roleIds_iff (r : GroupId) : r ∈ roleIds input ↔ r ∈ roleIds input' :=
  (h.roles.map _).mem_iff

theorem soundLists_iff : SoundLists input ↔ SoundLists input' := by
  have hover : ∀ r, r ∈ overrideIds input ↔ r ∈ overrideIds input' :=
    fun r => (h.overrides.map _).mem_iff
  constructor
  · intro hs
    exact ⟨h.roleIds_nodup_iff.mp hs.roles_distinct,
      (h.overrides.map _).nodup_iff.mp hs.overrides_distinct,
      fun r hr => (h.mem_roleIds_iff r).mp (hs.overrides_defined r ((hover r).mpr hr))⟩
  · intro hs
    exact ⟨h.roleIds_nodup_iff.mpr hs.roles_distinct,
      (h.overrides.map _).nodup_iff.mpr hs.overrides_distinct,
      fun r hr => (h.mem_roleIds_iff r).mpr (hs.overrides_defined r ((hover r).mp hr))⟩

theorem sameView (subject : PolicySubject) (action : Action) :
    SameView input input' subject action :=
  sameView_of_held_entries (fun _ _ => h.roles.mem_iff) (fun _ _ => h.overrides.mem_iff) action

end Reordered

end PolicyInput

/-- **Order independence.** Reordering the roles and the overrides changes
nothing but which of several repeated roles, or which of several override
defects, a damaged policy is reported with. -/
theorem resolve_reordered {input input' : PolicyInput} (h : input.Reordered input')
    (subject : PolicySubject) (page : PagePolicyState) (action : Action) :
    (resolve input' subject page action).allowed = (resolve input subject page action).allowed ∧
    (resolve input' subject page action = resolve input subject page action ∨
      (∃ r r', resolve input subject page action = invalid (.duplicateRole r) ∧
        resolve input' subject page action = invalid (.duplicateRole r')) ∨
      ∃ issue issue', issue.ofOverride = true ∧ issue'.ofOverride = true ∧
        resolve input subject page action = invalid issue ∧
        resolve input' subject page action = invalid issue') := by
  have hsame : resolve input' subject page action = resolve input subject page action ∨
      (∃ r r', resolve input subject page action = invalid (.duplicateRole r) ∧
        resolve input' subject page action = invalid (.duplicateRole r')) ∨
      ∃ issue issue', issue.ofOverride = true ∧ issue'.ofOverride = true ∧
        resolve input subject page action = invalid issue ∧
        resolve input' subject page action = invalid issue' := by
    cases hactive : subject.is_active with
    | false => exact Or.inl (by rw [resolve_inactive hactive, resolve_inactive hactive])
    | true =>
    cases hsuper : subject.is_superuser with
    | true =>
        exact Or.inl (by rw [resolve_superuser hactive hsuper, resolve_superuser hactive hsuper])
    | false =>
    have hreport : ∀ {input issue}, Diagnosis input subject issue →
        resolve input subject page action = invalid issue :=
      fun hd => resolve_of_diagnosis hactive hsuper page action hd
    -- both orders have their defects in the same class
    rcases diagnosis_cases input subject with
      ⟨hrepeat, r, hd⟩ | ⟨hdistinct, hunsound, issue, hkind, hd⟩ |
      ⟨hsound, hsub, r, hd⟩ | hvalid
    · obtain ⟨r', hd'⟩ := duplicateRole_diagnosis subject
        (fun hnodup => hrepeat (h.roleIds_nodup_iff.mpr hnodup))
      exact Or.inr (Or.inl ⟨r, r', hreport hd, hreport hd'⟩)
    · obtain ⟨issue', hkind', hd'⟩ := override_diagnosis subject
        (h.roleIds_nodup_iff.mp hdistinct) (fun hs => hunsound (h.soundLists_iff.mpr hs))
      exact Or.inr (Or.inr ⟨issue, issue', hkind, hkind', hreport hd, hreport hd'⟩)
    · -- the least undefined id does not depend on the lists' order
      have hd' : Diagnosis input' subject (.unknownSubjectRole r) := by
        refine ⟨h.soundLists_iff.mp hsound, ?_⟩
        simp only [← h.mem_roleIds_iff]
        exact hd.2
      exact Or.inl ((hreport hd').trans (hreport hd).symm)
    · have hvalid' : ValidPolicy input' subject := by
        rw [validPolicy_iff] at hvalid ⊢
        exact ⟨h.soundLists_iff.mp hvalid.1, fun r hr => (h.mem_roleIds_iff r).mp (hvalid.2 r hr)⟩
      rw [resolve_of_valid hvalid hactive hsuper, resolve_of_valid hvalid' hactive hsuper]
      exact Or.inl (referenceDecision_congr (h.sameView subject action) rfl rfl rfl page)
  refine ⟨?_, hsame⟩
  rcases hsame with heq | ⟨r, r', hd, hd'⟩ | ⟨issue, issue', -, -, hd, hd'⟩
  · rw [heq]
  · rw [hd, hd']
    rfl
  · rw [hd, hd']
    rfl

/-- The two roles of `twoRolePolicy`, listed in order. -/
theorem resolve_reordered_twoRoles :
    (resolve { twoRolePolicy with roles := twoRolePolicy.roles.reverse } twoRoleMember
      ⟨false, false⟩ .edit).allowed = true :=
  have hperm : twoRolePolicy.Reordered
      { twoRolePolicy with roles := twoRolePolicy.roles.reverse } :=
    ⟨(List.reverse_perm _).symm, List.Perm.refl _⟩
  (resolve_reordered hperm twoRoleMember ⟨false, false⟩ .edit).1.trans (by decide)

end WikiNext.Core
