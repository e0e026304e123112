import Mathlib.Tactic.Common
import WikiNext.App.Password
import WikiNext.Foundation.Settings

/-!
# The cost of one verification

The bound on a stored hash is checked by the reader that takes the first pair
of a name, the cost is set by the reader that lets the last pair win. The two
part on a parameter section that repeats `m`, `t` or `p`.

§1 limits, §2 what the first reader checks, §3 what the last writer sets,
§4 verification, §5 the crates, as far as they can be written down, §6 a hash
string that repeats `m`.
-/

namespace WikiNext.App

open WikiNext.Foundation

/-! ## §1  Limits -/

/-- A run the service means to allow. -/
structure Argon2Run.WithinLimits (run : Argon2Run) : Prop where
  algorithm : run.algorithm = "argon2id"
  memory : run.params.m_cost ≤ MAX_MEMORY_COST_KIB
  time : run.params.t_cost ≤ MAX_TIME_COST
  parallelism : run.params.p_cost ≤ MAX_PARALLELISM

section Crate

variable (crate : Argon2Crate)

/-- What the last pair with the name decodes to: the value Argon2 ends up
with. -/
def lastDecimal (name : String) (pairs : List (String × String)) : Option Nat :=
  (lastValue name pairs).bind crate.decimal

/-- The cost a parameter section asks Argon2 for stays within the limits. -/
structure CostWithinLimits (pairs : List (String × String)) : Prop where
  memory : ∃ m, lastDecimal crate "m" pairs = some m ∧ m ≤ MAX_MEMORY_COST_KIB
  time : ∃ t, lastDecimal crate "t" pairs = some t ∧ t ≤ MAX_TIME_COST
  parallelism : ∃ p, lastDecimal crate "p" pairs = some p ∧ p ≤ MAX_PARALLELISM

/-- A hash string that is in order as Argon2 reads it. -/
def WithinPolicy (hash : String) : Prop :=
  ∃ parsed, crate.new hash = .ok parsed ∧ parsed.algorithm = "argon2id" ∧
    CostWithinLimits crate parsed.params

/-- **Bounded cost** of one hash string: whatever the password, a computation
that starts is within the limits, and a string out of policy is rejected with
`UnsafeHash` or a PHC error before any hashing. A password out of shape is
turned away before the string is looked at. -/
structure BoundedCost (hash : String) : Prop where
  computed : ∀ password run,
    (PasswordService.verifyPassword crate password hash).computed = some run → run.WithinLimits
  rejected : ¬ WithinPolicy crate hash → ∀ password,
    (PasswordService.verifyPassword crate password hash).computed = none ∧
    ∃ e, (PasswordService.verifyPassword crate password hash).result = .error e ∧
      (e = .unsafeHash ∨ (∃ cause, e = .hash cause) ∨ validatePassword password = .error e)

/-- Argon2 itself turns the hash away, with an error other than a mismatch. -/
def Refuses (parsed : PasswordHash) : Prop :=
  ∃ e, crate.start parsed = .error e ∧ e ≠ .password

/-! ## §2  What the first reader checks -/

theorem missingOrAbove_eq_false_iff (limit : Nat) (value : Option Nat) :
    missingOrAbove limit value = false ↔ ∃ v, value = some v ∧ v ≤ limit := by
  cases value <;> simp [missingOrAbove]

variable {crate}

/-- Acceptance by `parse_bounded_hash`, spelled out. -/
theorem parseBoundedHash_ok {hash : String} {parsed : PasswordHash}
    (h : parseBoundedHash crate hash = .ok parsed) :
    crate.new hash = .ok parsed ∧ parsed.algorithm = "argon2id" ∧
      (∃ m, crate.getDecimal "m" parsed.params = some m ∧ m ≤ MAX_MEMORY_COST_KIB) ∧
      (∃ t, crate.getDecimal "t" parsed.params = some t ∧ t ≤ MAX_TIME_COST) ∧
      (∃ p, crate.getDecimal "p" parsed.params = some p ∧ p ≤ MAX_PARALLELISM) := by
  unfold parseBoundedHash at h
  split at h
  · cases h
  · cases hnew : crate.new hash with
    | error e => simp [hnew] at h
    | ok parsed' =>
        simp only [hnew] at h
        split_ifs at h with hbad
        cases h
        simp only [not_or, Bool.not_eq_true, not_not, missingOrAbove_eq_false_iff, ne_eq] at hbad
        exact ⟨rfl, hbad.1, hbad.2.1, hbad.2.2.1, hbad.2.2.2⟩

/-- What `parse_bounded_hash` answers otherwise: the policy error or the
parser's own. -/
theorem parseBoundedHash_error {hash : String} {e : PasswordError}
    (h : parseBoundedHash crate hash = .error e) : e = .unsafeHash ∨ ∃ cause, e = .hash cause := by
  unfold parseBoundedHash at h
  split at h
  · exact Or.inl (Except.error.inj h).symm
  · cases hnew : crate.new hash with
    | error cause =>
        simp only [hnew] at h
        exact Or.inr ⟨cause, (Except.error.inj h).symm⟩
    | ok parsed =>
        simp only [hnew] at h
        split_ifs at h with hbad
        exact Or.inl (Except.error.inj h).symm

/-! ## §3  What the last writer sets -/

/-- The cost of a section that names the parameter is its last decimal. -/
theorem tryFrom_lastDecimal {name : String} {field : Params → Nat}
    (hfield : (name, field) ∈ COST_PARAMETERS) {parsed : PasswordHash} {params : Params}
    (h : crate.tryFrom parsed = .ok params)
    (hnamed : (firstValue name parsed.params).isSome = true) :
    lastDecimal crate name parsed.params = some (field params) := by
  rw [← lastValue_isSome_iff] at hnamed
  obtain ⟨value, hvalue⟩ := Option.isSome_iff_exists.mp hnamed
  rw [lastDecimal, hvalue, Option.bind_some]
  exact crate.tryFrom_last name field hfield parsed params value h hvalue

theorem tryFrom_eq_of_lastDecimal {name : String} {field : Params → Nat}
    (hfield : (name, field) ∈ COST_PARAMETERS) {parsed : PasswordHash} {params : Params}
    (h : crate.tryFrom parsed = .ok params) {v : Nat}
    (hv : lastDecimal crate name parsed.params = some v) : field params = v := by
  obtain ⟨value, hvalue, hdecimal⟩ := Option.bind_eq_some_iff.mp hv
  rw [crate.tryFrom_last name field hfield parsed params value h hvalue] at hdecimal
  exact Option.some.inj hdecimal

/-- A run that starts on a hash with a bounded cost section is within the
limits. -/
theorem start_withinLimits {parsed : PasswordHash} {run : Argon2Run}
    (hstart : crate.start parsed = .ok run) (halg : parsed.algorithm = "argon2id")
    (hcost : CostWithinLimits crate parsed.params) : run.WithinLimits := by
  obtain ⟨ralg, -, -, hparams⟩ := crate.start_run parsed run hstart
  obtain ⟨m, hm, hmle⟩ := hcost.memory
  obtain ⟨t, ht, htle⟩ := hcost.time
  obtain ⟨p, hp, hple⟩ := hcost.parallelism
  exact {
    algorithm := ralg.trans halg
    memory := (tryFrom_eq_of_lastDecimal (.head _) hparams hm) ▸ hmle
    time := (tryFrom_eq_of_lastDecimal (.tail _ (.head _)) hparams ht) ▸ htle
    parallelism := (tryFrom_eq_of_lastDecimal (.tail _ (.tail _ (.head _))) hparams hp) ▸ hple }

/-! ## §4  Verification -/

variable (crate)

/-- How a verification that gets past the password check ends. -/
theorem verifyPassword_cases (hash : String) {password : String}
    (hpassword : validatePassword password = .ok ()) :
    (∃ e, parseBoundedHash crate hash = .error e ∧
      PasswordService.verifyPassword crate password hash = ⟨.error e, none⟩) ∨
    ∃ parsed, parseBoundedHash crate hash = .ok parsed ∧
      ((crate.start parsed = .error .password ∧
          PasswordService.verifyPassword crate password hash = ⟨.ok false, none⟩) ∨
       (∃ cause, crate.start parsed = .error cause ∧ cause ≠ .password ∧
          PasswordService.verifyPassword crate password hash = ⟨.error (.hash cause), none⟩) ∨
       ∃ run matched, crate.start parsed = .ok run ∧
          PasswordService.verifyPassword crate password hash = ⟨.ok matched, some run⟩) := by
  cases hparse : parseBoundedHash crate hash with
  | error e => exact Or.inl ⟨e, rfl, by simp [PasswordService.verifyPassword, hpassword, hparse]⟩
  | ok parsed =>
      refine Or.inr ⟨parsed, rfl, ?_⟩
      simp only [PasswordService.verifyPassword, hpassword, hparse]
      cases hstart : crate.start parsed with
      | error cause =>
          rw [crate.verifyPassword_refused _ _ _ hstart]
          by_cases hc : cause = .password
          · subst hc
            exact Or.inl ⟨rfl, rfl⟩
          · refine Or.inr (Or.inl ⟨cause, rfl, hc, ?_⟩)
            cases cause <;> first | exact absurd rfl hc | rfl
      | ok run =>
          refine Or.inr (Or.inr ⟨run, decide (parsed.hash = some (crate.digest run password)),
            rfl, ?_⟩)
          rw [crate.verifyPassword_run _ _ _ hstart]
          by_cases hmatch : parsed.hash = some (crate.digest run password)
          · simp [hmatch]
          · simp [hmatch]

theorem verifyPassword_badPassword {password : String} {e : PasswordError}
    (hpassword : validatePassword password = .error e) (hash : String) :
    PasswordService.verifyPassword crate password hash = ⟨.error e, none⟩ := by
  simp [PasswordService.verifyPassword, hpassword]

/-- What has to go well for a computation to happen. -/
theorem computed_eq_some_iff {password hash : String} {run : Argon2Run} :
    (PasswordService.verifyPassword crate password hash).computed = some run ↔
      validatePassword password = .ok () ∧
        ∃ parsed, parseBoundedHash crate hash = .ok parsed ∧ crate.start parsed = .ok run := by
  cases hpassword : validatePassword password with
  | error e => simp [verifyPassword_badPassword crate hpassword]
  | ok u =>
      rcases verifyPassword_cases crate hash hpassword with ⟨e, hparse, hv⟩ |
        ⟨parsed, hparse, ⟨hstart, hv⟩ | ⟨cause, hstart, -, hv⟩ | ⟨run', matched, hstart, hv⟩⟩
      all_goals simp [hv, hparse]
      all_goals simp [hstart]

/-- **When the cost is bounded.** A hash string keeps the promise exactly when
every hash `parse_bounded_hash` accepts either also has its last `m`, `t` and
`p` within the limits or is refused by Argon2's own checks. -/
theorem boundedCost_iff (hash : String) :
    BoundedCost crate hash ↔
      ∀ parsed, parseBoundedHash crate hash = .ok parsed →
        CostWithinLimits crate parsed.params ∨ Refuses crate parsed := by
  constructor
  · intro h parsed hparsed
    obtain ⟨hnew, halg, -⟩ := parseBoundedHash_ok hparsed
    by_contra hno
    obtain ⟨hcost, hrefuse⟩ := not_or.mp hno
    have hpolicy : ¬ WithinPolicy crate hash := by
      rintro ⟨parsed', hnew', -, hcost'⟩
      rw [hnew] at hnew'
      cases hnew'
      exact hcost hcost'
    -- any well-formed password shows what happens to the string
    have hpw : validatePassword "x" = .ok () := by decide
    obtain ⟨hnone, e, herr, -⟩ := h.rejected hpolicy "x"
    rcases verifyPassword_cases crate hash hpw with
      ⟨e', herr', -⟩ | ⟨parsed', hparsed', hcase⟩
    · rw [hparsed] at herr'
      cases herr'
    · rw [hparsed] at hparsed'
      cases hparsed'
      rcases hcase with ⟨-, hv⟩ | ⟨cause, hstart, hne, -⟩ | ⟨run, matched, -, hv⟩
      · rw [hv] at herr
        cases herr
      · exact hrefuse ⟨cause, hstart, hne⟩
      · rw [hv] at hnone
        cases hnone
  · intro h
    constructor
    · intro password run hrun
      obtain ⟨-, parsed, hparsed, hstart⟩ := (computed_eq_some_iff crate).mp hrun
      obtain ⟨-, halg, -⟩ := parseBoundedHash_ok hparsed
      rcases h parsed hparsed with hcost | ⟨e, he, -⟩
      · exact start_withinLimits hstart halg hcost
      · rw [hstart] at he
        cases he
    · intro hpolicy password
      cases hpw : validatePassword password with
      | error e => simp [verifyPassword_badPassword crate hpw]
      | ok u =>
          rcases verifyPassword_cases crate hash hpw with
            ⟨e, herr, hv⟩ | ⟨parsed, hparsed, hcase⟩
          · rcases parseBoundedHash_error herr with rfl | ⟨cause, rfl⟩ <;> simp [hv]
          · obtain ⟨hnew, halg, -⟩ := parseBoundedHash_ok hparsed
            rcases h parsed hparsed with hcost | ⟨cause, hstart, hne⟩
            · exact absurd ⟨parsed, hnew, halg, hcost⟩ hpolicy
            · rcases hcase with ⟨hstart', -⟩ | ⟨cause', -, -, hv⟩ | ⟨run, matched, hstart', -⟩
              · rw [hstart] at hstart'
                cases hstart'
                exact absurd rfl hne
              · simp [hv]
              · rw [hstart] at hstart'
                cases hstart'

theorem lastDecimal_of_nodup {pairs : List (String × String)} (hnd : (pairs.map Prod.fst).Nodup)
    (name : String) : lastDecimal crate name pairs = crate.getDecimal name pairs := by
  rw [lastDecimal, crate.getDecimal_eq, lastValue_eq_firstValue name hnd]

variable {crate}

/-- Where no name repeats, the bound that is checked is the bound that holds:
the two readers see the same pairs. -/
theorem boundedCost_of_nodup {hash : String}
    (hnd : ∀ parsed, crate.new hash = .ok parsed → (parsed.params.map Prod.fst).Nodup) :
    BoundedCost crate hash := by
  rw [boundedCost_iff]
  intro parsed hparsed
  obtain ⟨hnew, -, hm, ht, hp⟩ := parseBoundedHash_ok hparsed
  have hagree := lastDecimal_of_nodup crate (hnd parsed hnew)
  exact Or.inl ⟨hagree "m" ▸ hm, hagree "t" ▸ ht, hagree "p" ▸ hp⟩

end Crate

/-! ## §5  The crates, as far as they can be written down -/

namespace Params

/-- A pair written into the builder of `argon2`. An unknown name is an error. -/
def applyPair (decimal : String → Option Nat) (params : Params) (pair : String × String) :
    Except PasswordHashError Params :=
  if pair.1 = "m" then
    match decimal pair.2 with
    | some value => .ok { params with m_cost := value }
    | none => .error .paramValueInvalid
  else if pair.1 = "t" then
    match decimal pair.2 with
    | some value => .ok { params with t_cost := value }
    | none => .error .paramValueInvalid
  else if pair.1 = "p" then
    match decimal pair.2 with
    | some value => .ok { params with p_cost := value }
    | none => .error .paramValueInvalid
  else .error .paramNameInvalid

def readPairs (decimal : String → Option Nat) (parsed : PasswordHash) :
    Except PasswordHashError Params :=
  parsed.params.foldlM (applyPair decimal)
    { Params.default with output_len := parsed.hash.map List.length }

variable {decimal : String → Option Nat}

/-- Everything one pair can do to the builder. -/
theorem applyPair_ok {params params' : Params} {name value : String}
    (h : applyPair decimal params (name, value) = .ok params') :
    ∃ v, decimal value = some v ∧ (name = "m" ∧ params' = { params with m_cost := v } ∨
      name = "t" ∧ params' = { params with t_cost := v } ∨
      name = "p" ∧ params' = { params with p_cost := v }) := by
  unfold applyPair at h
  split_ifs at h with hm ht hp
  · split at h <;> cases h
    exact ⟨_, by assumption, Or.inl ⟨hm, rfl⟩⟩
  · split at h <;> cases h
    exact ⟨_, by assumption, Or.inr (Or.inl ⟨ht, rfl⟩)⟩
  · split at h <;> cases h
    exact ⟨_, by assumption, Or.inr (Or.inr ⟨hp, rfl⟩)⟩

theorem readPairs_last (name : String) (field : Params → Nat)
    (hfield : (name, field) ∈ COST_PARAMETERS) (parsed : PasswordHash) (params : Params)
    (value : String) (h : readPairs decimal parsed = .ok params)
    (hlast : lastValue name parsed.params = some value) : decimal value = some (field params) := by
  have hcase : name = "m" ∧ field = m_cost ∨ name = "t" ∧ field = t_cost ∨
      name = "p" ∧ field = p_cost := by
    simpa [COST_PARAMETERS] using hfield
  have hit : ∀ params value params', applyPair decimal params (name, value) = .ok params' →
      decimal value = some (field params') := by
    intro params value params' hstep
    obtain ⟨v, hv, hset⟩ := applyPair_ok hstep
    rcases hcase with ⟨rfl, rfl⟩ | ⟨rfl, rfl⟩ | ⟨rfl, rfl⟩ <;> simp at hset <;> rw [hv, hset]
  have miss : ∀ params other value params', other ≠ name →
      applyPair decimal params (other, value) = .ok params' → field params' = field params := by
    intro params other value params' hne hstep
    obtain ⟨v, hv, hset⟩ := applyPair_ok hstep
    rcases hcase with ⟨rfl, rfl⟩ | ⟨rfl, rfl⟩ | ⟨rfl, rfl⟩ <;>
      rcases hset with ⟨heq, rfl⟩ | ⟨heq, rfl⟩ | ⟨heq, rfl⟩ <;>
      first | rfl | exact absurd heq hne
  have hfold := foldlM_lastValue hit miss h
  rw [hlast, Option.map_some, Option.getD_some] at hfold
  exact hfold.symm

/-- No pair touches the output length. -/
theorem readPairs_output_len (parsed : PasswordHash) (params : Params)
    (h : readPairs decimal parsed = .ok params) :
    params.output_len = parsed.hash.map List.length := by
  have hkeep : ∀ {pairs : List (String × String)} {start params : Params},
      pairs.foldlM (applyPair decimal) start = .ok params →
        params.output_len = start.output_len := by
    intro pairs
    induction pairs with
    | nil =>
        intro start params h
        cases h
        rfl
    | cons pair rest ih =>
        intro start params h
        rw [List.foldlM_cons] at h
        obtain ⟨next, hnext, hrest⟩ := bind_eq_ok.mp h
        rw [ih hrest]
        obtain ⟨v, -, ⟨-, rfl⟩ | ⟨-, rfl⟩ | ⟨-, rfl⟩⟩ := applyPair_ok hnext <;> rfl
  exact hkeep h

end Params

/-- A verification, given how a run is settled and what it comes to. -/
def verifyBy (start : PasswordHash → Except PasswordHashError Argon2Run)
    (digest : Argon2Run → String → List UInt8) (password : String) (parsed : PasswordHash) :
    Verified (Except PasswordHashError Unit) :=
  match start parsed with
  | .error e => ⟨.error e, none⟩
  | .ok run =>
      if parsed.hash = some (digest run password) then ⟨.ok (), some run⟩
      else ⟨.error .password, some run⟩

/-! ## §6  A hash string that repeats `m` -/

/-- The first `m` asks for 8 KiB, the second for 1 GiB. -/
def repeatedCostHash : String :=
  "$argon2id$v=19$m=8,t=1,p=1,m=1048576$c2FsdHNhbHQ$MDEyMzQ1Njc4OWFiY2RlZg"

/-- The decimals of `repeatedCostHash`. -/
def fewDecimals (value : String) : Option Nat :=
  [("8", 8), ("1", 1), ("1048576", 1048576)].lookup value

def startFrom (decimal : String → Option Nat) (parsed : PasswordHash) :
    Except PasswordHashError Argon2Run :=
  match parsed.salt, Params.readPairs decimal parsed with
  | some salt, .ok params => .ok ⟨parsed.algorithm, parsed.version, params, salt⟩
  | some _, .error e => .error e
  | none, _ => .error .password

/-- The crates on `repeatedCostHash`: the parser keeps all four pairs. Every
other string is a parse error here, and the digest is a stand-in. -/
def repeatedCostCrate : Argon2Crate where
  new hash :=
    if hash = repeatedCostHash then
      .ok ⟨"argon2id", some 19, [("m", "8"), ("t", "1"), ("p", "1"), ("m", "1048576")],
        some "c2FsdHNhbHQ", some [48, 49, 50, 51, 52, 53, 54, 55, 56, 57, 97, 98, 99, 100, 101, 102]⟩
    else .error (.other "invalid PHC string")
  render _ := repeatedCostHash
  decimal := fewDecimals
  getDecimal name pairs := (firstValue name pairs).bind fewDecimals
  getDecimal_eq _ _ := rfl
  tryFrom := Params.readPairs fewDecimals
  tryFrom_last := Params.readPairs_last
  tryFrom_output_len := Params.readPairs_output_len
  start := startFrom fewDecimals
  start_run := by
    intro parsed run h
    unfold startFrom at h
    split at h
    · rename_i salt params hsalt hparams
      cases h
      exact ⟨rfl, rfl, hsalt, hparams⟩
    · cases h
    · cases h
  digest _ _ := List.replicate 16 0
  verifyPassword := verifyBy (startFrom fewDecimals) fun _ _ => List.replicate 16 0
  verifyPassword_refused _ _ _ h := by simp only [verifyBy, h]
  verifyPassword_run _ _ _ h := by simp only [verifyBy, h]

/-- Verifying against `repeatedCostHash` makes Argon2 fill 1 GiB. -/
theorem not_boundedCost_repeatedCostHash :
    ((PasswordService.verifyPassword repeatedCostCrate "password" repeatedCostHash).computed.map
      (fun run => run.params.m_cost) = some 1048576) ∧
    ¬ BoundedCost repeatedCostCrate repeatedCostHash := by
  have hrun : (PasswordService.verifyPassword repeatedCostCrate "password"
      repeatedCostHash).computed.map (fun run => run.params.m_cost) = some 1048576 := by
    decide
  refine ⟨hrun, fun h => ?_⟩
  obtain ⟨run, hcomputed, hm⟩ := Option.map_eq_some_iff.mp hrun
  have hle := (h.computed "password" run hcomputed).memory
  rw [hm] at hle
  exact absurd hle (by decide)

end WikiNext.App
