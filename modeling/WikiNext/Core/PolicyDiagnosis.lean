import WikiNext.Core.PolicyReference

/-!
# Which defect a damaged policy is reported with

The two validation loops and the scan of the held roles stop at the first
defect they meet. §1 says which one that is, by positions in the two lists
and by the order of ids, §2 shows that the loops find it, §3 puts the whole
outcome of `resolve` for an ordinary account into one case analysis.
-/

namespace WikiNext.Core

open WikiNext.Foundation

/-! ## §1  Defects -/

/-- An override at this position is undefined or repeats an earlier id. -/
def OverrideDefect (input : PolicyInput) (earlier : List GroupId) (r : GroupId) : Prop :=
  r ∉ roleIds input ∨ r ∈ earlier

/-- No position of either list is defective. -/
structure SoundLists (input : PolicyInput) : Prop where
  roles_distinct : (roleIds input).Nodup
  overrides_distinct : (overrideIds input).Nodup
  overrides_defined : ∀ r ∈ overrideIds input, r ∈ roleIds input

/-- The defect that is reported: the first repeated role; without one, the
first undefined or repeated override, which counts as undefined when it is
both; without one, the least undefined id that the subject holds. -/
def Diagnosis (input : PolicyInput) (subject : PolicySubject) : PolicyIssue → Prop
  | .duplicateRole r => FirstAt (fun earlier r => r ∈ earlier) (roleIds input) r
  | .unknownOverrideRole r =>
      (roleIds input).Nodup ∧ FirstAt (OverrideDefect input) (overrideIds input) r ∧
        r ∉ roleIds input
  | .duplicateOverride r =>
      (roleIds input).Nodup ∧ FirstAt (OverrideDefect input) (overrideIds input) r ∧
        r ∈ roleIds input
  | .unknownSubjectRole r =>
      SoundLists input ∧ IsLeast {r | r ∈ subject.role_ids ∧ r ∉ roleIds input} r

theorem validPolicy_iff {input : PolicyInput} {subject : PolicySubject} :
    ValidPolicy input subject ↔
      SoundLists input ∧ ∀ r ∈ subject.role_ids, r ∈ roleIds input := by
  constructor
  · intro h
    exact ⟨⟨h.roles_distinct, h.overrides_distinct, h.overrides_defined⟩, h.subject_defined⟩
  · rintro ⟨h, hsub⟩
    exact ⟨h.roles_distinct, h.overrides_distinct, h.overrides_defined, hsub⟩

theorem not_validPolicy_iff {input : PolicyInput} {subject : PolicySubject} :
    ¬ ValidPolicy input subject ↔
      ¬ (roleIds input).Nodup ∨
      (¬ (overrideIds input).Nodup ∨ ∃ r ∈ overrideIds input, r ∉ roleIds input) ∨
      ∃ r ∈ subject.role_ids, r ∉ roleIds input := by
  rw [← not_iff_not, not_not]
  push Not
  constructor
  · intro h
    exact ⟨h.roles_distinct, ⟨h.overrides_distinct, h.overrides_defined⟩, h.subject_defined⟩
  · rintro ⟨hroles, ⟨hover, hdefined⟩, hsub⟩
    exact ⟨hroles, hover, hdefined, hsub⟩

/-- The issues of the second loop. -/
def PolicyIssue.ofOverride : PolicyIssue → Bool
  | .duplicateOverride _ | .unknownOverrideRole _ => true
  | _ => false

/-! ## §2  The loops stop at the reported defect -/

theorem uniqueRoles_error_iff {role_policies : List RolePolicy} {issue : PolicyIssue} :
    uniqueRoles role_policies = .error issue ↔
      ∃ r, FirstAt (fun earlier r => r ∈ earlier) (role_policies.map RolePolicy.role_id) r ∧
        issue = .duplicateRole r := by
  refine (indexBy_error_iff RolePolicy.role_id (fun _ => none) PolicyIssue.duplicateRole
    role_policies ∅).trans ?_
  simp [Finmap.notMem_empty]

theorem uniqueOverrides_error_iff {role_overrides : List RoleOverride}
    {roles : KeyMap GroupId RolePolicy} {issue : PolicyIssue} :
    uniqueOverrides role_overrides roles = .error issue ↔
      ∃ r, FirstAt (fun earlier r => r ∉ roles ∨ r ∈ earlier)
          (role_overrides.map RoleOverride.role_id) r ∧
        issue = if r ∈ roles then .duplicateOverride r else .unknownOverrideRole r := by
  have hissue : ∀ r : GroupId,
      (if r ∈ roles then none else some (PolicyIssue.unknownOverrideRole r)).getD
        (.duplicateOverride r) =
      if r ∈ roles then .duplicateOverride r else .unknownOverrideRole r := by
    intro r
    split <;> rfl
  refine (indexBy_error_iff RoleOverride.role_id
    (fun r => if r ∈ roles then none else some (.unknownOverrideRole r))
    PolicyIssue.duplicateOverride role_overrides ∅).trans ?_
  simp [Finmap.notMem_empty, hissue]

/-- The lists are sound exactly when both maps are built. -/
theorem soundLists_iff {input : PolicyInput} :
    SoundLists input ↔ ∃ roles overrides, Indexed input roles overrides := by
  constructor
  · intro h
    have hvalid : ValidPolicy input ⟨none, true, false, ∅⟩ := validPolicy_iff.mpr ⟨h, by simp⟩
    exact hvalid.indexed
  · rintro ⟨roles, overrides, h⟩
    have hvalid : ValidPolicy input ⟨none, true, false, ∅⟩ := h.validPolicy (by simp)
    exact (validPolicy_iff.mp hvalid).1

/-- In the map of a list without repeated roles, the override defects are
those of the list. -/
theorem overrideDefect_eq {input : PolicyInput} {roles : KeyMap GroupId RolePolicy}
    (h : uniqueRoles input.roles = .ok roles) :
    (fun earlier r => r ∉ roles ∨ r ∈ earlier) = OverrideDefect input := by
  funext earlier r
  rw [OverrideDefect, uniqueRoles_mem h, roleIds]

/-- Which of the defects a policy has for a subject; the cases exclude each
other and come in the order in which `resolve` looks for them. -/
theorem diagnosis_cases (input : PolicyInput) (subject : PolicySubject) :
    (¬ (roleIds input).Nodup ∧ ∃ r, Diagnosis input subject (.duplicateRole r)) ∨
    ((roleIds input).Nodup ∧ ¬ SoundLists input ∧
      ∃ issue, issue.ofOverride = true ∧ Diagnosis input subject issue) ∨
    (SoundLists input ∧ (∃ r ∈ subject.role_ids, r ∉ roleIds input) ∧
      ∃ r, Diagnosis input subject (.unknownSubjectRole r)) ∨
    ValidPolicy input subject := by
  cases hroles : uniqueRoles input.roles with
  | error issue =>
      obtain ⟨r, hfirst, -⟩ := uniqueRoles_error_iff.mp hroles
      refine Or.inl ⟨?_, r, hfirst⟩
      rw [roleIds, ← uniqueRoles_isOk_iff, hroles]
      simp
  | ok roles =>
      have hdistinct : (roleIds input).Nodup := (uniqueRoles_isOk_iff _).mp ⟨roles, hroles⟩
      cases hover : uniqueOverrides input.category_overrides roles with
      | error issue =>
          refine Or.inr (Or.inl ⟨hdistinct, ?_, ?_⟩)
          · rw [soundLists_iff]
            rintro ⟨roles', overrides, h⟩
            obtain rfl : roles' = roles := by simpa [h.roles_eq] using hroles
            simp [h.overrides_eq] at hover
          · obtain ⟨r, hfirst, -⟩ := uniqueOverrides_error_iff.mp hover
            rw [overrideDefect_eq hroles] at hfirst
            by_cases hr : r ∈ roleIds input
            · exact ⟨.duplicateOverride r, rfl, hdistinct, hfirst, hr⟩
            · exact ⟨.unknownOverrideRole r, rfl, hdistinct, hfirst, hr⟩
      | ok overrides =>
          have hsound : SoundLists input := soundLists_iff.mpr ⟨roles, overrides, hroles, hover⟩
          by_cases hsub : ∃ r ∈ subject.role_ids, r ∉ roleIds input
          · obtain ⟨r, hr, hundefined⟩ := hsub
            have hne : (subject.role_ids.filter (· ∉ roleIds input)).Nonempty :=
              ⟨r, Finset.mem_filter.mpr ⟨hr, hundefined⟩⟩
            have hleast := Finset.isLeast_min' _ hne
            simp only [Finset.coe_filter] at hleast
            exact Or.inr (Or.inr (Or.inl ⟨hsound, ⟨r, hr, hundefined⟩, _, hsound, hleast⟩))
          · refine Or.inr (Or.inr (Or.inr (validPolicy_iff.mpr ⟨hsound, ?_⟩)))
            intro r hr
            by_contra hundefined
            exact hsub ⟨r, hr, hundefined⟩

theorem duplicateRole_diagnosis {input : PolicyInput} (subject : PolicySubject)
    (h : ¬ (roleIds input).Nodup) : ∃ r, Diagnosis input subject (.duplicateRole r) := by
  rcases diagnosis_cases input subject with ⟨-, hd⟩ | ⟨hdistinct, -⟩ | ⟨hsound, -⟩ | hvalid
  · exact hd
  · exact absurd hdistinct h
  · exact absurd hsound.roles_distinct h
  · exact absurd hvalid.roles_distinct h

theorem override_diagnosis {input : PolicyInput} (subject : PolicySubject)
    (hdistinct : (roleIds input).Nodup) (h : ¬ SoundLists input) :
    ∃ issue, issue.ofOverride = true ∧ Diagnosis input subject issue := by
  rcases diagnosis_cases input subject with ⟨hrepeat, -⟩ | ⟨-, -, hd⟩ | ⟨hsound, -⟩ | hvalid
  · exact absurd hdistinct hrepeat
  · exact hd
  · exact absurd hsound h
  · exact absurd (validPolicy_iff.mp hvalid).1 h

/-! ## §3  `resolve` reports it -/

section Ordinary

variable {input : PolicyInput} {subject : PolicySubject} (hactive : subject.is_active = true)
  (hsuper : subject.is_superuser = false) (page : PagePolicyState) (action : Action)
include hactive hsuper

/-- **The defect is reported**, whatever the page and the action. -/
theorem resolve_of_diagnosis {issue : PolicyIssue} (h : Diagnosis input subject issue) :
    resolve input subject page action = invalid issue := by
  have hover : ∀ {r : GroupId}, (roleIds input).Nodup →
      FirstAt (OverrideDefect input) (overrideIds input) r →
        resolve input subject page action =
          invalid (if r ∈ roleIds input then .duplicateOverride r else .unknownOverrideRole r) := by
    intro r hdistinct hfirst
    obtain ⟨roles, hroles⟩ := (uniqueRoles_isOk_iff input.roles).mpr hdistinct
    rw [← overrideDefect_eq hroles] at hfirst
    have herror := uniqueOverrides_error_iff.mpr ⟨r, hfirst, rfl⟩
    have hmem : r ∈ roles ↔ r ∈ roleIds input := uniqueRoles_mem hroles r
    simp only [resolve, hactive, hsuper, hroles, herror, hmem, Bool.not_true, Bool.false_eq_true,
      if_false]
  cases issue with
  | duplicateRole r =>
      have herror := uniqueRoles_error_iff.mpr ⟨r, h, rfl⟩
      simp only [resolve, hactive, hsuper, herror, Bool.not_true, Bool.false_eq_true, if_false]
  | unknownOverrideRole r =>
      obtain ⟨hdistinct, hfirst, hundefined⟩ := h
      rw [hover hdistinct hfirst, if_neg hundefined]
  | duplicateOverride r =>
      obtain ⟨hdistinct, hfirst, hdefined⟩ := h
      rw [hover hdistinct hfirst, if_pos hdefined]
  | unknownSubjectRole r =>
      obtain ⟨hsound, hleast⟩ := h
      obtain ⟨roles, overrides, hidx⟩ := soundLists_iff.mp hsound
      simp only [← hidx.mem_roles] at hleast
      have hfind := (find?_ascending_eq_some_iff subject.role_ids (· ∉ roles) r).mpr hleast
      simp only [resolve, hactive, hsuper, hidx.roles_eq, hidx.overrides_eq, hfind, Bool.not_true,
        Bool.false_eq_true, if_false]

/-- A valid policy is never reported as damaged. -/
theorem resolve_ne_invalid (h : ValidPolicy input subject) (issue : PolicyIssue) :
    (resolve input subject page action).reason ≠ .invalidPolicy issue := by
  rw [resolve_of_valid h hactive hsuper, referenceDecision]
  split_ifs <;> simp [Decision.allow, Decision.deny]

end Ordinary

/-- **Exact diagnosis.** For an active account without superuser rights a
policy is reported as damaged exactly if an id repeats or is undefined, and
the issue is the one `Diagnosis` names. Then every action on every page is
denied, whatever else the subject holds. -/
theorem resolve_diagnosis (input : PolicyInput) (subject : PolicySubject)
    (hactive : subject.is_active = true) (hsuper : subject.is_superuser = false) :
    (∀ page action,
      (∃ issue, (resolve input subject page action).reason = .invalidPolicy issue) ↔
        ¬ (roleIds input).Nodup ∨
        (¬ (overrideIds input).Nodup ∨ ∃ r ∈ overrideIds input, r ∉ roleIds input) ∨
        ∃ r ∈ subject.role_ids, r ∉ roleIds input) ∧
    (∀ page action issue,
      (resolve input subject page action).reason = .invalidPolicy issue ↔
        Diagnosis input subject issue) ∧
    ∀ issue, Diagnosis input subject issue → ∀ page action,
      resolve input subject page action = ⟨false, .invalidPolicy issue⟩ := by
  have hreport : ∀ issue, Diagnosis input subject issue → ∀ page action,
      resolve input subject page action = ⟨false, .invalidPolicy issue⟩ :=
    fun issue h page action => resolve_of_diagnosis hactive hsuper page action h
  have hexists : ¬ ValidPolicy input subject → ∃ issue, Diagnosis input subject issue := by
    intro hinvalid
    rcases diagnosis_cases input subject with
      ⟨-, r, h⟩ | ⟨-, -, issue, -, h⟩ | ⟨-, -, r, h⟩ | hvalid
    · exact ⟨_, h⟩
    · exact ⟨_, h⟩
    · exact ⟨_, h⟩
    · exact absurd hvalid hinvalid
  have hvalid : ∀ page action,
      (∃ issue, (resolve input subject page action).reason = .invalidPolicy issue) ↔
        ¬ ValidPolicy input subject := by
    intro page action
    constructor
    · rintro ⟨issue, hissue⟩ h
      exact resolve_ne_invalid hactive hsuper page action h issue hissue
    · intro h
      obtain ⟨issue, hissue⟩ := hexists h
      exact ⟨issue, by rw [hreport issue hissue]⟩
  refine ⟨fun page action => ?_, fun page action issue => ⟨fun hissue => ?_, fun h => ?_⟩, hreport⟩
  · rw [hvalid page action, not_validPolicy_iff]
  · obtain ⟨issue', h⟩ := hexists ((hvalid page action).mp ⟨issue, hissue⟩)
    rw [hreport issue' h] at hissue
    cases hissue
    exact h
  · rw [hreport issue h]

/-- An override of a role that was never defined, after a sound one. -/
def undefinedOverridePolicy : PolicyInput where
  roles := [⟨.new 1, {.read}, ∅⟩]
  category_overrides := [⟨.new 1, {.edit}, ∅⟩, ⟨.new 7, {.edit}, ∅⟩, ⟨.new 1, ∅, {.read}⟩]

theorem resolve_diagnosis_undefinedOverride :
    resolve undefinedOverridePolicy ⟨none, true, false, {.new 1}⟩ ⟨false, true⟩ .manageAuthors =
      ⟨false, .invalidPolicy (.unknownOverrideRole (.new 7))⟩ :=
  have hfirst : FirstAt (OverrideDefect undefinedOverridePolicy)
      (overrideIds undefinedOverridePolicy) (.new 7) := by
    refine ⟨[.new 1], [.new 1], rfl, Or.inl (by decide), ?_⟩
    intro front r back hsplit
    obtain ⟨rfl, rfl, rfl⟩ : front = [] ∧ r = .new 1 ∧ back = [] := by
      cases front with
      | nil => simpa [eq_comm] using hsplit
      | cons x front => simp at hsplit
    rintro (hundefined | hmem)
    · exact hundefined (by decide)
    · simp at hmem
  (resolve_diagnosis undefinedOverridePolicy ⟨none, true, false, {.new 1}⟩ rfl rfl).2.2
    (.unknownOverrideRole (.new 7)) ⟨by decide, hfirst, by decide⟩ ⟨false, true⟩ .manageAuthors

end WikiNext.Core
