import AdmissionControl.Admission.Decision
import AdmissionControl.Network.Address.Parser
import AdmissionControl.Settings.StoreAddress
import AdmissionControl.Text.Decimal

/-!
# Settings

The settings of the service are read from named variables, each with a default. The first variable
that cannot be read, in the order of the fields, fails the whole. Settings that can be read may
still be unusable; `Settings.validate` says why.
-/

namespace AdmissionControl

structure Settings where
  bindAddress : Network.SocketAddress
  /-- Where the store is, as it was written. -/
  storeAddress : String
  ipLimit : UInt64
  tokenLimit : UInt64
  blockSeconds : UInt64
  windowMilliseconds : UInt64
  /-- How long an admission check may take. -/
  storeTimeoutMilliseconds : UInt64
  logLevel : String

namespace Settings

/-- A variable whose text cannot be read as what it should be. -/
structure UnreadableVariable where
  name : String
deriving DecidableEq

def UnreadableVariable.message (unreadable : UnreadableVariable) : String :=
  "Failed to parse environment variable " ++ unreadable.name

/-- Read one variable, or its default where it is not set. -/
def readVariable {α : Type} (environment : String → Option String) (read? : String → Option α)
    (name default : String) : Except UnreadableVariable α :=
  match read? ((environment name).getD default) with
  | some value => .ok value
  | none => .error ⟨name⟩

def load (environment : String → Option String) : Except UnreadableVariable Settings := do
  let bindAddress ←
    readVariable environment Network.SocketAddress.ofText? "BIND_ADDR" "0.0.0.0:8080"
  let storeAddress ← readVariable environment some "REDIS_URL" "localhost:6379"
  let ipLimit ← readVariable environment Text.Decimal.word? "IP_RATE_LIMIT" "10"
  let tokenLimit ← readVariable environment Text.Decimal.word? "TOKEN_RATE_LIMIT" "100"
  let blockSeconds ← readVariable environment Text.Decimal.word? "BLOCK_DURATION" "300"
  let windowMilliseconds ←
    readVariable environment Text.Decimal.word? "RATE_LIMIT_WINDOW_MS" "1000"
  let storeTimeoutMilliseconds ←
    readVariable environment Text.Decimal.word? "STORE_TIMEOUT_MS" "500"
  let logLevel ← readVariable environment some "LOG_LEVEL" "info"
  return ⟨bindAddress, storeAddress, ipLimit, tokenLimit, blockSeconds, windowMilliseconds,
    storeTimeoutMilliseconds, logLevel⟩

def storeUrl (settings : Settings) : String :=
  StoreAddress.normalize settings.storeAddress

def blockSpan (settings : Settings) : Duration :=
  .ofSeconds settings.blockSeconds.toNat

def window (settings : Settings) : Duration :=
  .ofMilliseconds settings.windowMilliseconds.toNat

def storeTimeout (settings : Settings) : Duration :=
  .ofMilliseconds settings.storeTimeoutMilliseconds.toNat

def limits (settings : Settings) : Limits where
  ipLimit := settings.ipLimit
  tokenLimit := settings.tokenLimit
  blockSpan := settings.blockSpan

def validatePositive (name : String) (value : UInt64) : Except Fault Unit :=
  if value = 0 then .error (.configuration (name ++ " must be greater than 0")) else .ok ()

/-- Whether settings can be used, or what is wrong first. -/
def validate (settings : Settings) : Except Fault Unit := do
  StoreAddress.validate settings.storeUrl
  validatePositive "IP_RATE_LIMIT" settings.ipLimit
  validatePositive "TOKEN_RATE_LIMIT" settings.tokenLimit
  validatePositive "BLOCK_DURATION" settings.blockSeconds
  validatePositive "RATE_LIMIT_WINDOW_MS" settings.windowMilliseconds
  validatePositive "STORE_TIMEOUT_MS" settings.storeTimeoutMilliseconds

theorem validatePositive_eq_ok_iff {name : String} {value : UInt64} :
    validatePositive name value = .ok () ↔ 0 < value.toNat := by
  rw [Nat.pos_iff_ne_zero, ne_eq, ← UInt64.toNat_zero, UInt64.toNat_inj, validatePositive]
  split
  · next zero => simp [zero]
  · next nonzero => simp [nonzero]

/-- The settings that can be used: the store has an address, and every number is positive. -/
theorem validate_eq_ok_iff {settings : Settings} : settings.validate = .ok () ↔
    StoreAddress.validate settings.storeUrl = .ok () ∧ 0 < settings.ipLimit.toNat ∧
      0 < settings.tokenLimit.toNat ∧ 0 < settings.blockSeconds.toNat ∧
      0 < settings.windowMilliseconds.toNat ∧ 0 < settings.storeTimeoutMilliseconds.toNat := by
  have bind_eq_ok_iff (first : Except Fault Unit) (rest : Unit → Except Fault Unit) :
      (first >>= rest) = .ok () ↔ first = .ok () ∧ rest () = .ok () := by
    cases first <;> simp [bind, Except.bind]
  simp only [validate, bind_eq_ok_iff, validatePositive_eq_ok_iff]

theorem limitFor_positive {settings : Settings} (valid : settings.validate = .ok ())
    (identity : Identity) : 0 < (settings.limits.limitFor identity).toNat := by
  rcases validate_eq_ok_iff.mp valid with ⟨_, ipLimit, tokenLimit, _⟩
  cases identity with
  | ip address => exact ipLimit
  | token token => exact tokenLimit

end Settings

end AdmissionControl
