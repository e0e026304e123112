import WikiNext.Foundation.Pairs

/-!
# The password service

`PasswordService` hashes and verifies with Argon2id and refuses a stored hash
whose cost exceeds fixed limits before any hashing is done. Parsing PHC
strings, decoding their values and the hash function itself belong to the
`argon2` and `password-hash` crates; they are the fields of `Argon2Crate`.

§1 the crates · §2 the service.
-/

namespace WikiNext.App

open WikiNext.Foundation

/-! ## §1  The crates -/

/-- `password_hash::Error`, as far as the service tells its cases apart. -/
inductive PasswordHashError where
  | password
  | paramNameInvalid
  | paramValueInvalid
  | other (detail : String)
deriving DecidableEq, Repr

/-- A parsed PHC string. The parameter section is an ordered list of pairs;
parsing does not reject a repeated name. -/
structure PasswordHash where
  algorithm : String
  version : Option Nat
  params : List (String × String)
  salt : Option String
  hash : Option (List UInt8)
deriving DecidableEq

/-- The cost parameters Argon2 runs with. -/
structure Params where
  m_cost : Nat
  t_cost : Nat
  p_cost : Nat
  keyid : List UInt8
  data : List UInt8
  output_len : Option Nat
deriving DecidableEq

/-- One Argon2 computation: everything it depends on but the password. -/
structure Argon2Run where
  algorithm : String
  version : Option Nat
  params : Params
  salt : String
deriving DecidableEq

def Params.DEFAULT_OUTPUT_LEN : Nat := 32

def Params.default : Params := ⟨19 * 1024, 2, 1, [], [], none⟩

/-- A verdict together with the Argon2 computation that was run for it. -/
structure Verified (α : Type) where
  result : α
  computed : Option Argon2Run

/-- The names of the cost parameters, and the fields they set. -/
def COST_PARAMETERS : List (String × (Params → Nat)) :=
  [("m", Params.m_cost), ("t", Params.t_cost), ("p", Params.p_cost)]

/-- What `argon2` and `password-hash` provide. -/
structure Argon2Crate where
  /-- `PasswordHash::new` -/
  new : String → Except PasswordHashError PasswordHash
  /-- `PasswordHash::to_string` -/
  render : PasswordHash → String
  /-- `Value::decimal` -/
  decimal : String → Option Nat
  /-- `ParamsString::get_decimal` -/
  getDecimal : String → List (String × String) → Option Nat
  /-- It reads the first pair with the name. -/
  getDecimal_eq : ∀ name pairs, getDecimal name pairs = (firstValue name pairs).bind decimal
  /-- `Params::try_from(&PasswordHash)` -/
  tryFrom : PasswordHash → Except PasswordHashError Params
  /-- All pairs are written in their order, so the last one with a name stays. -/
  tryFrom_last : ∀ name field, (name, field) ∈ COST_PARAMETERS → ∀ parsed params value,
    tryFrom parsed = .ok params → lastValue name parsed.params = some value →
      decimal value = some (field params)
  /-- The output is as long as the stored one. -/
  tryFrom_output_len : ∀ parsed params, tryFrom parsed = .ok params →
    params.output_len = parsed.hash.map List.length
  /-- Everything `verify_password` does before it starts to fill memory:
  either it gives up, or it settles the run. -/
  start : PasswordHash → Except PasswordHashError Argon2Run
  /-- A run takes its algorithm, version and salt from the hash and its cost
  from the parameter section. -/
  start_run : ∀ parsed run, start parsed = .ok run →
    run.algorithm = parsed.algorithm ∧ run.version = parsed.version ∧
      parsed.salt = some run.salt ∧ tryFrom parsed = .ok run.params
  /-- The hash function, deterministic in the run and the password. -/
  digest : Argon2Run → String → List UInt8
  /-- `PasswordVerifier::verify_password` for Argon2 -/
  verifyPassword : String → PasswordHash → Verified (Except PasswordHashError Unit)
  verifyPassword_refused : ∀ password parsed error, start parsed = .error error →
    verifyPassword password parsed = ⟨.error error, none⟩
  /-- A run that is settled is made, and its output compared. -/
  verifyPassword_run : ∀ password parsed run, start parsed = .ok run →
    verifyPassword password parsed =
      if parsed.hash = some (digest run password) then ⟨.ok (), some run⟩
      else ⟨.error .password, some run⟩

/-- The crates once more, with what only hashing needs. -/
structure Argon2Hasher extends Argon2Crate where
  /-- Everything Argon2 checks of a settled run: the ranges of its cost, its
  salt and its lengths. -/
  admits : Argon2Run → Except PasswordHashError Unit
  /-- The unpadded Base64 of PHC strings. -/
  encodeB64 : List UInt8 → String
  /-- `PasswordHasher::hash_password` for the default Argon2, with a password and a salt. -/
  hashPassword : String → String → Except PasswordHashError PasswordHash

section Crate

variable (crate : Argon2Crate)

/-! ## §2  The service -/

def MAX_PASSWORD_BYTES : Nat := 1024
def MAX_HASH_BYTES : Nat := 512
def MAX_MEMORY_COST_KIB : Nat := 256 * 1024
def MAX_TIME_COST : Nat := 10
def MAX_PARALLELISM : Nat := 8
def EXPECTED_SALT_B64_LENGTH : Nat := 22

inductive PasswordError where
  | empty
  | tooLong
  | unsafeHash
  | hash (error : PasswordHashError)
deriving DecidableEq, Repr

def validatePassword (password : String) : Except PasswordError Unit :=
  if password.isEmpty then .error .empty
  else if password.utf8ByteSize > MAX_PASSWORD_BYTES then .error .tooLong
  else .ok ()

/-- `Option::is_none_or(|value| value > limit)` -/
def missingOrAbove (limit : Nat) : Option Nat → Bool
  | none => true
  | some value => decide (value > limit)

def parseBoundedHash (hash : String) : Except PasswordError PasswordHash :=
  if hash.utf8ByteSize > MAX_HASH_BYTES then .error .unsafeHash
  else
    match crate.new hash with
    | .error e => .error (.hash e)
    | .ok parsed =>
        let memory := crate.getDecimal "m" parsed.params
        let time := crate.getDecimal "t" parsed.params
        let parallelism := crate.getDecimal "p" parsed.params
        if parsed.algorithm ≠ "argon2id" ∨ missingOrAbove MAX_MEMORY_COST_KIB memory ∨
            missingOrAbove MAX_TIME_COST time ∨ missingOrAbove MAX_PARALLELISM parallelism then
          .error .unsafeHash
        else .ok parsed

def PasswordService.verifyPassword (password hash : String) :
    Verified (Except PasswordError Bool) :=
  match validatePassword password with
  | .error e => ⟨.error e, none⟩
  | .ok () =>
      match parseBoundedHash crate hash with
      | .error e => ⟨.error e, none⟩
      | .ok parsed =>
          let verified := crate.verifyPassword password parsed
          match verified.result with
          | .ok () => ⟨.ok true, verified.computed⟩
          | .error .password => ⟨.ok false, verified.computed⟩
          | .error e => ⟨.error (.hash e), verified.computed⟩

def PasswordService.needsRehash (hash : String) : Except PasswordError Bool :=
  match parseBoundedHash crate hash with
  | .error e => .error e
  | .ok parsed =>
      let defaults := Params.default
      .ok (decide (parsed.algorithm ≠ "argon2id") ||
        decide (parsed.version ≠ some 19) ||
        decide (crate.getDecimal "m" parsed.params ≠ some defaults.m_cost) ||
        decide (crate.getDecimal "t" parsed.params ≠ some defaults.t_cost) ||
        decide (crate.getDecimal "p" parsed.params ≠ some defaults.p_cost) ||
        parsed.salt.all (fun salt => decide (salt.utf8ByteSize ≠ EXPECTED_SALT_B64_LENGTH)) ||
        parsed.hash.all (fun hash => decide (hash.length ≠ Params.DEFAULT_OUTPUT_LEN)))

end Crate

/-- `random` is what `SaltString::generate` draws. -/
def PasswordService.hashPassword (crate : Argon2Hasher) (random : Vector UInt8 16)
    (password : String) : Except PasswordError String :=
  match validatePassword password with
  | .error e => .error e
  | .ok () =>
      let salt := crate.encodeB64 random.toList
      match crate.hashPassword password salt with
      | .error e => .error (.hash e)
      | .ok hash => .ok (crate.render hash)

end WikiNext.App
