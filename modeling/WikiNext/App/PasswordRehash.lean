import WikiNext.App.PasswordCost

/-!
# Which hashes are current

`needs_rehash` compares seven features of a stored hash with the defaults. It
reads the cost with the reader that takes the first pair of a name, so it
speaks for what Argon2 will do as far as `parse_bounded_hash` does. What
`hash_password` produces repeats no name.
-/

namespace WikiNext.App

open WikiNext.Foundation

/-! ## §1  Current runs -/

/-- A run with the parameters a fresh hash gets. -/
structure Argon2Run.Current (run : Argon2Run) : Prop where
  algorithm : run.algorithm = "argon2id"
  version : run.version = some 19
  memory : run.params.m_cost = Params.default.m_cost
  time : run.params.t_cost = Params.default.t_cost
  parallelism : run.params.p_cost = Params.default.p_cost
  salt : run.salt.utf8ByteSize = EXPECTED_SALT_B64_LENGTH
  output : run.params.output_len = some Params.DEFAULT_OUTPUT_LEN

section Crate

variable (crate : Argon2Crate)

/-- What `needs_rehash` says of one hash string holds of every computation
that verifies against it. -/
def SoundRehash (hash : String) : Prop :=
  PasswordService.needsRehash crate hash = .ok false →
    ∀ password run,
      (PasswordService.verifyPassword crate password hash).computed = some run → run.Current

/-- The seven features, as the first reader sees them. -/
structure LooksCurrent (parsed : PasswordHash) : Prop where
  algorithm : parsed.algorithm = "argon2id"
  version : parsed.version = some 19
  memory : crate.getDecimal "m" parsed.params = some Params.default.m_cost
  time : crate.getDecimal "t" parsed.params = some Params.default.t_cost
  parallelism : crate.getDecimal "p" parsed.params = some Params.default.p_cost
  salt : ∃ salt, parsed.salt = some salt ∧ salt.utf8ByteSize = EXPECTED_SALT_B64_LENGTH
  hash : ∃ hash, parsed.hash = some hash ∧ hash.length = Params.DEFAULT_OUTPUT_LEN

/-- The last pairs ask for the default cost. -/
structure EndsInDefaults (pairs : List (String × String)) : Prop where
  memory : lastDecimal crate "m" pairs = some Params.default.m_cost
  time : lastDecimal crate "t" pairs = some Params.default.t_cost
  parallelism : lastDecimal crate "p" pairs = some Params.default.p_cost

/-! ## §2  What `needs_rehash` decides -/

theorem optionAll_eq_false_iff {α : Type} {p : α → Bool} {o : Option α} :
    o.all p = false ↔ ∃ a, o = some a ∧ p a = false := by
  cases o <;> simp

variable {crate}

/-- The defaults are within the limits. -/
theorem LooksCurrent.bounded {parsed : PasswordHash} (h : LooksCurrent crate parsed) {hash : String}
    (hsize : hash.utf8ByteSize ≤ MAX_HASH_BYTES) (hnew : crate.new hash = .ok parsed) :
    parseBoundedHash crate hash = .ok parsed := by
  rw [parseBoundedHash, if_neg (Nat.not_lt_of_le hsize), hnew]
  simp only [h.algorithm, h.memory, h.time, h.parallelism]
  rw [if_neg (by decide)]

theorem parseBoundedHash_size {hash : String} {parsed : PasswordHash}
    (h : parseBoundedHash crate hash = .ok parsed) : hash.utf8ByteSize ≤ MAX_HASH_BYTES := by
  by_contra hsize
  rw [parseBoundedHash, if_pos (Nat.lt_of_not_le hsize)] at h
  cases h

theorem needsRehash_eq_false_iff {hash : String} :
    PasswordService.needsRehash crate hash = .ok false ↔
      hash.utf8ByteSize ≤ MAX_HASH_BYTES ∧
        ∃ parsed, crate.new hash = .ok parsed ∧ LooksCurrent crate parsed := by
  have hfeatures : ∀ parsed, parseBoundedHash crate hash = .ok parsed →
      (PasswordService.needsRehash crate hash = .ok false ↔ LooksCurrent crate parsed) := by
    intro parsed hparsed
    simp only [PasswordService.needsRehash, hparsed, Except.ok.injEq, Bool.or_eq_false_iff,
      decide_eq_false_iff_not, not_not, optionAll_eq_false_iff, ne_eq]
    constructor
    · rintro ⟨⟨⟨⟨⟨⟨halg, hversion⟩, hm⟩, ht⟩, hp⟩, hsalt⟩, hhash⟩
      exact ⟨halg, hversion, hm, ht, hp, hsalt, hhash⟩
    · intro h
      exact ⟨⟨⟨⟨⟨⟨h.algorithm, h.version⟩, h.memory⟩, h.time⟩, h.parallelism⟩, h.salt⟩, h.hash⟩
  constructor
  · intro h
    cases hparsed : parseBoundedHash crate hash with
    | error e =>
        simp only [PasswordService.needsRehash, hparsed] at h
        cases h
    | ok parsed =>
        exact ⟨parseBoundedHash_size hparsed, parsed, (parseBoundedHash_ok hparsed).1,
          (hfeatures parsed hparsed).mp h⟩
  · rintro ⟨hsize, parsed, hnew, hcurrent⟩
    exact (hfeatures parsed (hcurrent.bounded hsize hnew)).mpr hcurrent

/-! ## §3  When it is right -/

theorem isSome_of_getDecimal {name : String} {pairs : List (String × String)} {v : Nat}
    (h : crate.getDecimal name pairs = some v) : (firstValue name pairs).isSome = true := by
  rw [crate.getDecimal_eq] at h
  obtain ⟨value, hvalue, -⟩ := Option.bind_eq_some_iff.mp h
  rw [hvalue]
  rfl

/-- A run on a hash that looks current is current if its cost is the default,
which is what the last pairs decide. -/
theorem LooksCurrent.run_iff {parsed : PasswordHash} (h : LooksCurrent crate parsed)
    {run : Argon2Run} (hstart : crate.start parsed = .ok run) :
    run.Current ↔ EndsInDefaults crate parsed.params := by
  obtain ⟨halg, hversion, hsalt, hparams⟩ := crate.start_run parsed run hstart
  have hm := tryFrom_lastDecimal (.head _) hparams (isSome_of_getDecimal h.memory)
  have ht := tryFrom_lastDecimal (.tail _ (.head _)) hparams (isSome_of_getDecimal h.time)
  have hp := tryFrom_lastDecimal (.tail _ (.tail _ (.head _))) hparams
    (isSome_of_getDecimal h.parallelism)
  constructor
  · intro hcurrent
    exact ⟨hcurrent.memory ▸ hm, hcurrent.time ▸ ht, hcurrent.parallelism ▸ hp⟩
  · intro hlast
    obtain ⟨salt, hsome, hlength⟩ := h.salt
    obtain ⟨output, hhash, houtput⟩ := h.hash
    exact {
      algorithm := halg.trans h.algorithm
      version := hversion.trans h.version
      memory := Option.some.inj (hm.symm.trans hlast.memory)
      time := Option.some.inj (ht.symm.trans hlast.time)
      parallelism := Option.some.inj (hp.symm.trans hlast.parallelism)
      salt := by
        rw [hsalt] at hsome
        exact Option.some.inj hsome ▸ hlength
      output := by
        rw [crate.tryFrom_output_len _ _ hparams, hhash, Option.map_some, houtput] }

/-- Exactly the hash strings on which `needs_rehash` is right. -/
theorem soundRehash_iff (hash : String) :
    SoundRehash crate hash ↔
      (hash.utf8ByteSize ≤ MAX_HASH_BYTES → ∀ parsed, crate.new hash = .ok parsed →
        LooksCurrent crate parsed →
          EndsInDefaults crate parsed.params ∨ ∃ e, crate.start parsed = .error e) := by
  constructor
  · intro h hsize parsed hnew hcurrent
    cases hstart : crate.start parsed with
    | error e => exact Or.inr ⟨e, rfl⟩
    | ok run =>
        -- any well-formed password makes the run happen
        have hcomputed : (PasswordService.verifyPassword crate "x" hash).computed = some run :=
          (computed_eq_some_iff crate).mpr
            ⟨by decide, parsed, hcurrent.bounded hsize hnew, hstart⟩
        have hfalse := needsRehash_eq_false_iff.mpr ⟨hsize, parsed, hnew, hcurrent⟩
        exact Or.inl ((hcurrent.run_iff hstart).mp (h hfalse "x" run hcomputed))
  · intro h hfalse password run hcomputed
    obtain ⟨hsize, parsed, hnew, hcurrent⟩ := needsRehash_eq_false_iff.mp hfalse
    obtain ⟨-, parsed', hparsed', hstart⟩ := (computed_eq_some_iff crate).mp hcomputed
    rw [hcurrent.bounded hsize hnew] at hparsed'
    cases hparsed'
    rcases h hsize parsed hnew hcurrent with hlast | ⟨e, herror⟩
    · exact (hcurrent.run_iff hstart).mpr hlast
    · rw [hstart] at herror
      cases herror

/-- Where no name repeats, the first pairs are the last ones. -/
theorem soundRehash_of_nodup {hash : String}
    (hnd : ∀ parsed, crate.new hash = .ok parsed → (parsed.params.map Prod.fst).Nodup) :
    SoundRehash crate hash := by
  rw [soundRehash_iff]
  intro _ parsed hnew hcurrent
  have hagree := lastDecimal_of_nodup crate (hnd parsed hnew)
  exact Or.inl ⟨hagree "m" ▸ hcurrent.memory, hagree "t" ▸ hcurrent.time,
    hagree "p" ▸ hcurrent.parallelism⟩

end Crate

/-! ## §4  Fresh hashes -/

/-- A PHC string with all its sections. -/
def phcString (algorithm : String) (version : Nat) (params : List (String × String))
    (salt hash : String) : String :=
  "$" ++ algorithm ++ "$v=" ++ toString version ++ "$" ++
    ",".intercalate (params.map fun pair => pair.1 ++ "=" ++ pair.2) ++ "$" ++ salt ++ "$" ++ hash

/-- What the crates promise about hashing and about PHC strings. -/
structure Argon2Hasher.Documented (crate : Argon2Hasher) : Prop where
  /-- A fresh hash records the default run it comes from. -/
  hashPassword_ok : ∀ password salt hash, crate.hashPassword password salt = .ok hash →
    let run : Argon2Run := ⟨"argon2id", some 19, Params.default, salt⟩
    crate.admits run = .ok () ∧ hash = {
      algorithm := run.algorithm
      version := run.version
      params := [("m", toString run.params.m_cost), ("t", toString run.params.t_cost),
        ("p", toString run.params.p_cost)]
      salt := some salt
      hash := some (crate.digest run password) }
  /-- The default cost, written out, is read back. -/
  tryFrom_default : ∀ parsed output, parsed.params = [("m", toString Params.default.m_cost),
      ("t", toString Params.default.t_cost), ("p", toString Params.default.p_cost)] →
    parsed.hash = some output → output.length = Params.DEFAULT_OUTPUT_LEN →
      crate.tryFrom parsed =
        .ok { Params.default with output_len := some Params.DEFAULT_OUTPUT_LEN }
  /-- `verify_password` settles the run and goes on as `hash_password` does. -/
  start_eq : ∀ parsed salt output params, parsed.salt = some salt → parsed.hash = some output →
    crate.tryFrom parsed = .ok params →
      let run : Argon2Run := ⟨parsed.algorithm, parsed.version, params, salt⟩
      crate.start parsed = crate.admits run >>= fun _ => pure run
  /-- An output length that is not set is the default one. -/
  default_output : ∀ algorithm version params salt, params.output_len = none →
    let run : Argon2Run := ⟨algorithm, version, params, salt⟩
    let full : Argon2Run := ⟨algorithm, version,
      { params with output_len := some Params.DEFAULT_OUTPUT_LEN }, salt⟩
    crate.admits full = crate.admits run ∧ crate.digest full = crate.digest run
  digest_length : ∀ run password,
    (crate.digest run password).length = run.params.output_len.getD Params.DEFAULT_OUTPUT_LEN
  decimal_toString : ∀ n < 2 ^ 32, crate.decimal (toString n) = some n
  encodeB64_size : ∀ bytes, (crate.encodeB64 bytes).utf8ByteSize = (4 * bytes.length + 2) / 3
  render_eq : ∀ algorithm version params salt output, params ≠ [] →
    crate.render ⟨algorithm, some version, params, some salt, some output⟩ =
      phcString algorithm version params salt (crate.encodeB64 output)
  /-- Rendering and parsing round-trip. -/
  new_render : ∀ password (random : Vector UInt8 16) hash,
    crate.hashPassword password (crate.encodeB64 random.toList) = .ok hash →
      crate.new (crate.render hash) = .ok hash

section Fresh

variable {crate : Argon2Hasher}

variable (laws : crate.Documented) {password : String} {random : Vector UInt8 16}
  {hash : PasswordHash}
include laws

theorem fresh_size (h : crate.hashPassword password (crate.encodeB64 random.toList) = .ok hash) :
    (crate.render hash).utf8ByteSize ≤ MAX_HASH_BYTES := by
  obtain ⟨-, rfl⟩ := laws.hashPassword_ok _ _ _ h
  rw [laws.render_eq _ _ _ _ _ (by simp), phcString]
  simp only [String.utf8ByteSize_append, laws.encodeB64_size, laws.digest_length,
    Vector.length_toList]
  decide +kernel

theorem fresh_looksCurrent
    (h : crate.hashPassword password (crate.encodeB64 random.toList) = .ok hash) :
    LooksCurrent crate.toArgon2Crate hash := by
  obtain ⟨-, rfl⟩ := laws.hashPassword_ok _ _ _ h
  exact {
    algorithm := rfl
    version := rfl
    memory := (crate.getDecimal_eq _ _).trans (laws.decimal_toString 19456 (by decide))
    time := (crate.getDecimal_eq _ _).trans (laws.decimal_toString 2 (by decide))
    parallelism := (crate.getDecimal_eq _ _).trans (laws.decimal_toString 1 (by decide))
    salt := ⟨_, rfl, by rw [laws.encodeB64_size, Vector.length_toList]; rfl⟩
    hash := ⟨_, rfl, laws.digest_length _ _⟩ }

/-- Verification repeats the run a fresh hash comes from. -/
theorem fresh_start (h : crate.hashPassword password (crate.encodeB64 random.toList) = .ok hash) :
    ∃ run, crate.start hash = .ok run ∧ hash.hash = some (crate.digest run password) := by
  obtain ⟨hadmits, rfl⟩ := laws.hashPassword_ok _ _ _ h
  obtain ⟨hadmits_full, hdigest_full⟩ := laws.default_output "argon2id" (some 19) Params.default
    (crate.encodeB64 random.toList) rfl
  have htryFrom := laws.tryFrom_default ⟨"argon2id", some 19, _,
    some (crate.encodeB64 random.toList), _⟩ _ rfl rfl (laws.digest_length
      ⟨"argon2id", some 19, Params.default, crate.encodeB64 random.toList⟩ password)
  refine ⟨_, ?_, congrArg some (congrFun hdigest_full password).symm⟩
  refine (laws.start_eq _ _ _ _ rfl rfl htryFrom).trans ?_
  rw [hadmits_full, hadmits]
  rfl

/-- **Fresh hashes are stable**: accepted, current and verified. -/
theorem fresh_stable {hash : String}
    (h : PasswordService.hashPassword crate random password = .ok hash) :
    (∃ parsed, parseBoundedHash crate.toArgon2Crate hash = .ok parsed) ∧
    PasswordService.needsRehash crate.toArgon2Crate hash = .ok false ∧
    (PasswordService.verifyPassword crate.toArgon2Crate password hash).result = .ok true := by
  rw [PasswordService.hashPassword] at h
  cases hpassword : validatePassword password with
  | error e =>
      simp only [hpassword] at h
      cases h
  | ok u =>
      simp only [hpassword] at h
      cases hfresh : crate.hashPassword password (crate.encodeB64 random.toList) with
      | error e =>
          simp only [hfresh] at h
          cases h
      | ok parsed =>
          simp only [hfresh] at h
          cases h
          have hcurrent := fresh_looksCurrent laws hfresh
          have hsize := fresh_size laws hfresh
          have hnew := laws.new_render password random parsed hfresh
          have hparsed := hcurrent.bounded hsize hnew
          obtain ⟨run, hstart, hmatch⟩ := fresh_start laws hfresh
          refine ⟨⟨parsed, hparsed⟩,
            needsRehash_eq_false_iff.mpr ⟨hsize, parsed, hnew, hcurrent⟩, ?_⟩
          simp only [PasswordService.verifyPassword, hpassword, hparsed,
            crate.verifyPassword_run _ _ _ hstart, if_pos hmatch]

end Fresh

/-- **The rehash decision.** `needs_rehash` speaks for the computation exactly
on the hash strings that, if they look current, end in the default cost or are
refused by Argon2; what `hash_password` returns is accepted, current and
verified. -/
theorem rehash_decision (crate : Argon2Hasher) (laws : crate.Documented) :
    (∀ hash, SoundRehash crate.toArgon2Crate hash ↔
      (hash.utf8ByteSize ≤ MAX_HASH_BYTES → ∀ parsed, crate.new hash = .ok parsed →
        LooksCurrent crate.toArgon2Crate parsed →
          EndsInDefaults crate.toArgon2Crate parsed.params ∨
            ∃ e, crate.start parsed = .error e)) ∧
    ∀ password random hash, PasswordService.hashPassword crate random password = .ok hash →
      (∃ parsed, parseBoundedHash crate.toArgon2Crate hash = .ok parsed) ∧
      PasswordService.needsRehash crate.toArgon2Crate hash = .ok false ∧
      (PasswordService.verifyPassword crate.toArgon2Crate password hash).result = .ok true :=
  ⟨soundRehash_iff, fun _ _ _ => fresh_stable laws⟩

/-! ## §5  A hash string that hides its cost

The crates on two strings: the hash of `password` under a fixed salt, and one
of the same password that Argon2 computed with 8 KiB.
-/

def base64Alphabet : List Char :=
  "ABCDEFGHIJKLMNOPQRSTUVWXYZabcdefghijklmnopqrstuvwxyz0123456789+/".toList

def sextet (n : Nat) : Char := base64Alphabet.getD n 'A'

/-- Base64 without padding. -/
def base64 : List UInt8 → List Char
  | [] => []
  | [a] => [sextet (a.toNat / 4), sextet (a.toNat % 4 * 16)]
  | [a, b] =>
      [sextet (a.toNat / 4), sextet (a.toNat % 4 * 16 + b.toNat / 16), sextet (b.toNat % 16 * 4)]
  | a :: b :: c :: rest =>
      sextet (a.toNat / 4) :: sextet (a.toNat % 4 * 16 + b.toNat / 16) ::
        sextet (b.toNat % 16 * 4 + c.toNat / 64) :: sextet (c.toNat % 64) :: base64 rest

theorem base64_length (bytes : List UInt8) :
    (base64 bytes).length = (4 * bytes.length + 2) / 3 := by
  fun_induction base64 bytes with
  | case1 => rfl
  | case2 a => simp
  | case3 a b => simp
  | case4 a b c rest ih =>
      simp only [List.length_cons, ih]
      omega

theorem sextet_utf8Size (n : Nat) : (sextet n).utf8Size = 1 := by
  have hall : base64Alphabet.all (fun c => c.utf8Size == 1) = true := by decide +kernel
  rw [sextet, List.getD_eq_getElem?_getD]
  cases hc : base64Alphabet[n]? with
  | none => rfl
  | some c => exact beq_iff_eq.mp (List.all_eq_true.mp hall c (List.mem_of_getElem? hc))

theorem base64_utf8ByteSize (bytes : List UInt8) :
    (String.ofList (base64 bytes)).utf8ByteSize = (base64 bytes).length := by
  have hascii : ∀ c ∈ base64 bytes, c.utf8Size = 1 := by
    fun_induction base64 bytes with
    | case1 => simp
    | case2 a => simp [sextet_utf8Size]
    | case3 a b => simp [sextet_utf8Size]
    | case4 a b c rest ih => simpa [sextet_utf8Size] using ih
  revert hascii
  induction base64 bytes with
  | nil => exact fun _ => rfl
  | cons c rest ih =>
      intro hascii
      rw [List.forall_mem_cons] at hascii
      rw [List.length_cons, ← ih hascii.2, ← List.singleton_append, String.ofList_append,
        String.utf8ByteSize_append, ← String.singleton_eq_ofList, String.utf8ByteSize_singleton,
        hascii.1, Nat.add_comm]

def weakHash : String :=
  "$argon2id$v=19$m=19456,t=2,p=1,m=8$MDEyMzQ1Njc4OWFiY2RlZg$" ++
    "NPx7EZBdWMphs5JyBprUJP8Vxqw4fmzgw16uy22bf/I"

/-- Argon2id of `password` under the salt `0123456789abcdef`, at the default cost. -/
def defaultDigest : List UInt8 :=
  [210, 171, 7, 179, 158, 247, 248, 184, 6, 34, 124, 216, 111, 187, 17, 170, 83, 147, 6, 106, 152,
    225, 126, 172, 172, 209, 38, 235, 38, 233, 39, 109]

/-- The same with `m = 8`. -/
def weakDigest : List UInt8 :=
  [52, 252, 123, 17, 144, 93, 88, 202, 97, 179, 146, 114, 6, 154, 212, 36, 255, 21, 198, 172, 56,
    126, 108, 224, 195, 94, 174, 203, 109, 155, 127, 242]

/-- The salt of a hash with the default cost and `defaultDigest`. -/
def defaultSalt? (hash : String) : Option String :=
  let sections := hash.toList.drop 31
  if hash.toList.take 31 = "$argon2id$v=19$m=19456,t=2,p=1$".toList ∧
      sections.drop 22 = '$' :: base64 defaultDigest then
    some (String.ofList (sections.take 22))
  else none

def phcDecimal (value : String) : Option Nat :=
  (decimalValue 0 value.toList).filter (· < 2 ^ 32)

def admitted (run : Argon2Run) : Except PasswordHashError Unit :=
  if run.algorithm = "argon2id" ∧ run.version = some 19 ∧ 0 < run.params.t_cost ∧
      0 < run.params.p_cost ∧ 8 * run.params.p_cost ≤ run.params.m_cost then
    .ok ()
  else .error (.other "parameters out of range")

def startRun (parsed : PasswordHash) : Except PasswordHashError Argon2Run :=
  match parsed.salt, parsed.hash with
  | some salt, some _ => do
      let params ← Params.readPairs phcDecimal parsed
      let run : Argon2Run := ⟨parsed.algorithm, parsed.version, params, salt⟩
      admitted run
      pure run
  | _, _ => .error .password

def eitherDigest (run : Argon2Run) (_ : String) : List UInt8 :=
  let output_len := run.params.output_len.getD Params.DEFAULT_OUTPUT_LEN
  ((if run.params.m_cost = 8 then weakDigest else defaultDigest) ++
    List.replicate output_len 0).take output_len

def twoHashes : Argon2Hasher where
  new hash :=
    match defaultSalt? hash with
    | some salt => .ok ⟨"argon2id", some 19, [("m", "19456"), ("t", "2"), ("p", "1")], some salt,
        some defaultDigest⟩
    | none =>
        if hash = weakHash then
          .ok ⟨"argon2id", some 19, [("m", "19456"), ("t", "2"), ("p", "1"), ("m", "8")],
            some "MDEyMzQ1Njc4OWFiY2RlZg", some weakDigest⟩
        else .error (.other "another string")
  render hash :=
    match hash.version, hash.salt, hash.hash with
    | some version, some salt, some output =>
        phcString hash.algorithm version hash.params salt (String.ofList (base64 output))
    | _, _, _ => "$" ++ hash.algorithm
  decimal := phcDecimal
  getDecimal name pairs := (firstValue name pairs).bind phcDecimal
  getDecimal_eq _ _ := rfl
  tryFrom := Params.readPairs phcDecimal
  tryFrom_last := Params.readPairs_last
  tryFrom_output_len := Params.readPairs_output_len
  start := startRun
  start_run := by
    intro parsed run h
    unfold startRun at h
    split at h
    · rename_i salt output hsalt hhash
      obtain ⟨params, hparams, h⟩ := bind_eq_ok.mp h
      obtain ⟨-, h⟩ := check_bind_eq_ok.mp h
      cases h
      exact ⟨rfl, rfl, hsalt, hparams⟩
    · cases h
  digest := eitherDigest
  verifyPassword := verifyBy startRun eitherDigest
  verifyPassword_refused _ _ _ h := by simp only [verifyBy, h]
  verifyPassword_run _ _ _ h := by simp only [verifyBy, h]
  admits := admitted
  encodeB64 bytes := String.ofList (base64 bytes)
  hashPassword password salt := do
    let run : Argon2Run := ⟨"argon2id", some 19, Params.default, salt⟩
    admitted run
    pure {
      algorithm := run.algorithm
      version := run.version
      params := [("m", toString run.params.m_cost), ("t", toString run.params.t_cost),
        ("p", toString run.params.p_cost)]
      salt := some salt
      hash := some (eitherDigest run password) }

theorem defaultSalt?_phcString {salt : List Char} (hsalt : salt.length = 22) :
    defaultSalt? (phcString "argon2id" 19
      [("m", toString 19456), ("t", toString 2), ("p", toString 1)] (String.ofList salt)
      (String.ofList (base64 defaultDigest))) = some (String.ofList salt) := by
  have hparams : "$" ++ "argon2id" ++ "$v=" ++ toString 19 ++ "$" ++
      ",".intercalate ([("m", toString 19456), ("t", toString 2), ("p", toString 1)].map
        fun pair => pair.1 ++ "=" ++ pair.2) ++ "$" = "$argon2id$v=19$m=19456,t=2,p=1$" := by
    decide +kernel
  have hlength : "$argon2id$v=19$m=19456,t=2,p=1$".toList.length = 31 := by decide +kernel
  rw [phcString, hparams, defaultSalt?]
  simp only [String.toList_append, String.toList_ofList, List.append_assoc]
  rw [← hlength, List.take_left, List.drop_left, ← hsalt, List.take_left, List.drop_left]
  exact if_pos ⟨rfl, rfl⟩

theorem twoHashes_new {hash salt : String} (h : defaultSalt? hash = some salt) :
    twoHashes.new hash = .ok ⟨"argon2id", some 19,
      [("m", toString 19456), ("t", toString 2), ("p", toString 1)], some salt,
      some defaultDigest⟩ := by
  show (match defaultSalt? hash with
    | some salt => _
    | none => _) = _
  rw [h]
  rfl

theorem phcDecimal_toString {n : Nat} (hn : n < 2 ^ 32) : phcDecimal (toString n) = some n := by
  rw [phcDecimal, decimalValue_toString, Option.filter_some, if_pos (by simpa using hn)]

theorem twoHashes_hashPassword_ok {password salt : String} {hash : PasswordHash}
    (h : twoHashes.hashPassword password salt = .ok hash) :
    admitted ⟨"argon2id", some 19, Params.default, salt⟩ = .ok () ∧
      hash = ⟨"argon2id", some 19,
        [("m", toString 19456), ("t", toString 2), ("p", toString 1)], some salt,
        some (eitherDigest ⟨"argon2id", some 19, Params.default, salt⟩ password)⟩ := by
  obtain ⟨_, hadmits, h⟩ := bind_eq_ok.mp h
  cases h
  exact ⟨hadmits, rfl⟩

theorem twoHashes_documented : twoHashes.Documented where
  hashPassword_ok password salt hash h := twoHashes_hashPassword_ok h
  tryFrom_default parsed output hparams hhash houtput := by
    have hm : phcDecimal (toString Params.default.m_cost) = some 19456 :=
      phcDecimal_toString (by decide)
    have ht : phcDecimal (toString Params.default.t_cost) = some 2 :=
      phcDecimal_toString (by decide)
    have hp : phcDecimal (toString Params.default.p_cost) = some 1 :=
      phcDecimal_toString (by decide)
    show Params.readPairs phcDecimal parsed = _
    rw [Params.readPairs, hparams, hhash, Option.map_some, houtput]
    simp only [List.foldlM_cons, List.foldlM_nil, Params.applyPair, hm, ht, hp]
    rfl
  start_eq parsed salt output params hsalt hhash hparams := by
    show startRun parsed = _
    rw [startRun, hsalt, hhash]
    show (Params.readPairs phcDecimal parsed >>= fun params => _) = _
    rw [show Params.readPairs phcDecimal parsed = .ok params from hparams]
    rfl
  default_output algorithm version params salt hnone := by
    constructor
    · rfl
    · funext password
      show _ = List.take _ _
      rw [hnone]
      rfl
  digest_length run password := by
    show (List.take _ (_ ++ List.replicate _ 0)).length = _
    rw [List.length_take, List.length_append, List.length_replicate]
    omega
  decimal_toString n hn := phcDecimal_toString hn
  encodeB64_size bytes := by
    show (String.ofList (base64 bytes)).utf8ByteSize = _
    rw [base64_utf8ByteSize, base64_length]
  render_eq algorithm version params salt output _ := rfl
  new_render password random hash h := by
    obtain ⟨-, rfl⟩ := twoHashes_hashPassword_ok h
    have hlength : (base64 random.toList).length = 22 := by
      rw [base64_length, Vector.length_toList]
    have hdigest : eitherDigest ⟨"argon2id", some 19, Params.default,
        twoHashes.encodeB64 random.toList⟩ password = defaultDigest := by
      rfl
    rw [hdigest]
    exact twoHashes_new (defaultSalt?_phcString hlength)

/-- Fresh hashes of `password`, and what becomes of one. -/
theorem rehash_decision_defaultHash :
    ∃ hash, PasswordService.hashPassword twoHashes
        #v[48, 49, 50, 51, 52, 53, 54, 55, 56, 57, 97, 98, 99, 100, 101, 102] "password" = .ok hash ∧
      PasswordService.needsRehash twoHashes.toArgon2Crate hash = .ok false ∧
      (PasswordService.verifyPassword twoHashes.toArgon2Crate "password" hash).result = .ok true := by
  have hhash : PasswordService.hashPassword twoHashes
      #v[48, 49, 50, 51, 52, 53, 54, 55, 56, 57, 97, 98, 99, 100, 101, 102] "password" =
        .ok ("$argon2id$v=19$m=19456,t=2,p=1$MDEyMzQ1Njc4OWFiY2RlZg$" ++
          "0qsHs573+LgGInzYb7sRqlOTBmqY4X6srNEm6ybpJ20") := by
    decide +kernel
  exact ⟨_, hhash, ((rehash_decision twoHashes twoHashes_documented).2 _ _ _ hhash).2⟩

/-- The first pairs look like the defaults, the computation takes 8 KiB, and
the password is accepted. -/
theorem weakHash_not_sound :
    PasswordService.needsRehash twoHashes.toArgon2Crate weakHash = .ok false ∧
    (PasswordService.verifyPassword twoHashes.toArgon2Crate "password" weakHash).result = .ok true ∧
    ((PasswordService.verifyPassword twoHashes.toArgon2Crate "password" weakHash).computed.map
      fun run => run.params.m_cost) = some 8 ∧
    ¬ SoundRehash twoHashes.toArgon2Crate weakHash := by
  have hcurrent : PasswordService.needsRehash twoHashes.toArgon2Crate weakHash = .ok false := by
    decide +kernel
  have hcost : (PasswordService.verifyPassword twoHashes.toArgon2Crate "password"
      weakHash).computed.map (fun run => run.params.m_cost) = some 8 := by
    decide +kernel
  refine ⟨hcurrent, by decide +kernel, hcost, fun hsound => ?_⟩
  obtain ⟨run, hcomputed, hm⟩ := Option.map_eq_some_iff.mp hcost
  have hmemory := (hsound hcurrent "password" run hcomputed).memory
  rw [hm] at hmemory
  exact absurd hmemory (by decide)

end WikiNext.App
