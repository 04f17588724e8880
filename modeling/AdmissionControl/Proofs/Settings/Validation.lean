import AdmissionControl.Proofs.Text.Trimming
import AdmissionControl.Settings
import Mathlib.Data.List.Infix

/-!
# Which settings are accepted

The address of the store is brought into a normal form before anything else is done with it: no
white space at either end, and a scheme in front. The normal form is its own normal form, so it does
not matter how often an address is normalised.

What makes settings acceptable is said here about the address as it was written, not about its
normal form. The requirements are a list (`Settings.requirements`), and validation reports the first
of them that is not met (`Settings.validate_by_requirements`).
-/

namespace AdmissionControl

/-! ## Normal addresses -/

namespace StoreAddress

open Text (Tight isBlank trimmed)

def HasScheme (characters : List Char) : Prop :=
  "://".toList <:+: characters

instance (characters : List Char) : Decidable (HasScheme characters) :=
  inferInstanceAs (Decidable (_ <:+: _))

/-- Without white space at either end, and with a scheme. -/
structure Normal (address : String) : Prop where
  tight : Tight isBlank address.toList
  scheme : HasScheme address.toList

variable {address : String}

theorem normalize_of_scheme (scheme : HasScheme (trimmed address.toList)) :
    (normalize address).toList = trimmed address.toList := by
  have found : Text.occurs schemeEnd (trimmed address.toList) = true := Text.occurs_iff.mpr scheme
  simp [normalize, Text.trim, found]

theorem normalize_of_bare (bare : ¬HasScheme (trimmed address.toList)) :
    (normalize address).toList = "redis://".toList ++ trimmed address.toList := by
  have missed : ¬Text.occurs schemeEnd (trimmed address.toList) = true := by
    intro found
    exact bare (Text.occurs_iff.mp found)
  simp [normalize, Text.trim, missed]

theorem tight_append_of_tight {front word : List Char} (first : Tight isBlank front)
    (present : front ≠ []) (tight : Tight isBlank word) : Tight isBlank (front ++ word) where
  first := by
    intro character head
    apply first.first character
    cases front with
    | nil => contradiction
    | cons other rest => exact head
  last := by
    intro character final
    cases last : word.getLast? with
    | none =>
        apply first.last character
        simpa [List.getLast?_append, last] using final
    | some other =>
        apply tight.last character
        simpa [List.getLast?_append, last] using final

theorem normal_normalize (address : String) : Normal (normalize address) := by
  have tight := Text.tight_trimmed address.toList
  by_cases scheme : HasScheme (trimmed address.toList)
  · constructor
    · simpa [normalize_of_scheme scheme] using tight
    · simpa [normalize_of_scheme scheme] using scheme
  · constructor
    · rw [normalize_of_bare scheme]
      apply tight_append_of_tight _ _ tight
      · constructor <;> simp [isBlank, Text.blankRanges]
      · simp
    · rw [normalize_of_bare scheme]
      exact ⟨"redis".toList, trimmed address.toList, rfl⟩

theorem normalize_of_normal (normal : Normal address) : normalize address = address := by
  have same := Text.trimmed_of_tight normal.tight
  apply String.toList_injective
  rw [normalize_of_scheme]
  · exact same
  · rw [same]
    exact normal.scheme

/-! ## The check of an address -/

/-- What an address of the store may begin with. -/
def schemes : List (List Char) :=
  ["redis://".toList, "rediss://".toList]

variable {url : String} {scheme rest : List Char}

theorem validate_of_scheme (known : scheme ∈ schemes) (spelled : url.toList = scheme ++ rest) :
    validate url =
      if rest = [] then .error (.configuration "Store URL is missing a host") else .ok () := by
  simp only [schemes, List.mem_cons, List.not_mem_nil, or_false] at known
  rcases known with rfl | rfl
  · rw [validate, spelled]
    cases rest <;> rfl
  · rw [validate, spelled]
    cases rest <;> rfl

theorem validate_of_foreign (foreign : ∀ scheme ∈ schemes, ¬scheme <+: url.toList) :
    validate url =
      .error (.configuration "Store URL must start with 'redis://' or 'rediss://'") := by
  have missed {scheme : List Char} (known : scheme ∈ schemes) :
      scheme.isPrefixOf? url.toList = none := by
    cases found : scheme.isPrefixOf? url.toList with
    | none => rfl
    | some rest =>
        exact absurd ⟨rest, List.isPrefixOf?_eq_some_iff_append_eq.mp found⟩
          (foreign scheme known)
  have plain : "redis://".toList.isPrefixOf? url.toList = none := missed (by simp [schemes])
  have encrypted : "rediss://".toList.isPrefixOf? url.toList = none := missed (by simp [schemes])
  simp only [validate, plain, encrypted, Option.or_none]

/-- An address, without the white space around it, is a bare one, or a scheme of the store with
something behind it. -/
structure Acceptable (written : List Char) : Prop where
  present : written ≠ []
  spelled : ¬HasScheme written ∨ ∃ scheme ∈ schemes, ∃ rest, rest ≠ [] ∧ written = scheme ++ rest

end StoreAddress

/-! ## Requirements -/

/-- A condition on settings, and what is wrong where it is not met. -/
structure Requirement where
  holds : Settings → Prop
  decides : DecidablePred holds
  problem : String

namespace Requirement

instance (requirement : Requirement) : DecidablePred requirement.holds := requirement.decides

variable {requirement other : Requirement} {requirements : List Requirement} {settings : Settings}
  {fault : Fault}

def demand (requirement : Requirement) (settings : Settings) : Except Fault Unit :=
  if requirement.holds settings then .ok () else .error (.configuration requirement.problem)

def demandAll (settings : Settings) : List Requirement → Except Fault Unit
  | [] => .ok ()
  | requirement :: rest => do
      requirement.demand settings
      demandAll settings rest

/-- The first requirement in a list that settings do not meet. -/
inductive FirstUnmet (settings : Settings) : List Requirement → Requirement → Prop where
  | here {requirement : Requirement} {rest : List Requirement}
      (unmet : ¬requirement.holds settings) :
      FirstUnmet settings (requirement :: rest) requirement
  | later {requirement other : Requirement} {rest : List Requirement}
      (met : requirement.holds settings) (unmet : FirstUnmet settings rest other) :
      FirstUnmet settings (requirement :: rest) other

theorem demandAll_of_met (met : requirement.holds settings) (rest : List Requirement) :
    demandAll settings (requirement :: rest) = demandAll settings rest := by
  simp only [demandAll, demand, met, if_true]
  rfl

theorem demandAll_of_unmet (unmet : ¬requirement.holds settings) (rest : List Requirement) :
    demandAll settings (requirement :: rest) = .error (.configuration requirement.problem) := by
  simp only [demandAll, demand, unmet, if_false]
  rfl

theorem demandAll_append (first second : List Requirement) :
    demandAll settings (first ++ second) =
      (do demandAll settings first; demandAll settings second) := by
  induction first with
  | nil => rfl
  | cons requirement rest ih =>
      rw [List.cons_append]
      by_cases met : requirement.holds settings
      · rw [demandAll_of_met met, demandAll_of_met met, ih]
      · rw [demandAll_of_unmet met, demandAll_of_unmet met]
        rfl

theorem demandAll_single (requirement : Requirement) :
    demandAll settings [requirement] = requirement.demand settings := by
  by_cases met : requirement.holds settings
  · rw [demandAll_of_met met]
    simp only [demandAll, demand, met, if_true]
  · simp only [demandAll_of_unmet met, demand, met, if_false]

theorem demandAll_eq_ok_iff :
    demandAll settings requirements = .ok () ↔
      ∀ requirement ∈ requirements, requirement.holds settings := by
  induction requirements with
  | nil => simp [demandAll]
  | cons requirement rest ih =>
      by_cases met : requirement.holds settings
      · simp [demandAll_of_met met, ih, met]
      · simp [demandAll_of_unmet met, met]

theorem demandAll_eq_error_iff :
    demandAll settings requirements = .error fault ↔
      ∃ requirement, FirstUnmet settings requirements requirement ∧
        fault = .configuration requirement.problem := by
  induction requirements with
  | nil =>
      constructor
      · intro absurd
        cases absurd
      · rintro ⟨requirement, unmet, _⟩
        cases unmet
  | cons first rest ih =>
      by_cases met : first.holds settings
      · rw [demandAll_of_met met, ih]
        constructor
        · rintro ⟨requirement, unmet, reported⟩
          exact ⟨requirement, .later met unmet, reported⟩
        · rintro ⟨requirement, unmet, reported⟩
          cases unmet with
          | here unmet => contradiction
          | later _ unmet => exact ⟨requirement, unmet, reported⟩
      · rw [demandAll_of_unmet met]
        constructor
        · intro reported
          cases reported
          exact ⟨first, .here met, rfl⟩
        · rintro ⟨requirement, unmet, rfl⟩
          cases unmet with
          | here unmet => rfl
          | later met _ => contradiction

end Requirement

/-! ## What settings have to meet -/

namespace Settings

open Requirement (demandAll demandAll_of_met demandAll_of_unmet)

/-- The address of the store as it was written, but for white space around it. -/
def writtenAddress (settings : Settings) : List Char :=
  Text.trimmed settings.storeAddress.toList

def addressPresent : Requirement where
  holds settings := settings.writtenAddress ≠ []
  decides _ := inferInstance
  problem := "Store URL is missing a host"

/-- A bare address has no scheme, and any other has one of those that the store knows. -/
def schemeKnown : Requirement where
  holds settings := ¬StoreAddress.HasScheme settings.writtenAddress ∨
    ∃ scheme ∈ StoreAddress.schemes, scheme <+: settings.writtenAddress
  decides _ := inferInstance
  problem := "Store URL must start with 'redis://' or 'rediss://'"

def hostPresent : Requirement where
  holds settings := settings.writtenAddress ∉ StoreAddress.schemes
  decides _ := inferInstance
  problem := "Store URL is missing a host"

def positive (name : String) (value : Settings → UInt64) : Requirement where
  holds settings := 0 < (value settings).toNat
  decides _ := inferInstance
  problem := name ++ " must be greater than 0"

def addressRequirements : List Requirement :=
  [addressPresent, schemeKnown, hostPresent]

def numberRequirements : List Requirement :=
  [positive "IP_RATE_LIMIT" ipLimit, positive "TOKEN_RATE_LIMIT" tokenLimit,
    positive "BLOCK_DURATION" blockSeconds, positive "RATE_LIMIT_WINDOW_MS" windowMilliseconds,
    positive "STORE_TIMEOUT_MS" storeTimeoutMilliseconds]

/-- What settings have to meet, in the order in which they are looked at. -/
def requirements : List Requirement :=
  addressRequirements ++ numberRequirements

/-- The address of the store is acceptable, and every number is positive. -/
structure Acceptable (settings : Settings) : Prop where
  address : StoreAddress.Acceptable settings.writtenAddress
  ipLimit : 0 < settings.ipLimit.toNat
  tokenLimit : 0 < settings.tokenLimit.toNat
  blockSeconds : 0 < settings.blockSeconds.toNat
  windowMilliseconds : 0 < settings.windowMilliseconds.toNat
  storeTimeoutMilliseconds : 0 < settings.storeTimeoutMilliseconds.toNat

variable {settings : Settings} {scheme rest : List Char}

theorem addressPresent_of_scheme (schemed : StoreAddress.HasScheme settings.writtenAddress) :
    addressPresent.holds settings := by
  intro empty
  rw [empty] at schemed
  revert schemed
  decide

theorem hostPresent_of_bare (bare : ¬StoreAddress.HasScheme settings.writtenAddress) :
    hostPresent.holds settings := by
  have schemed : ∀ scheme ∈ StoreAddress.schemes, StoreAddress.HasScheme scheme := by decide
  intro known
  exact bare (schemed _ known)

theorem hostPresent_iff (known : scheme ∈ StoreAddress.schemes)
    (spelled : settings.writtenAddress = scheme ++ rest) :
    hostPresent.holds settings ↔ rest ≠ [] := by
  simp only [StoreAddress.schemes, List.mem_cons, List.not_mem_nil, or_false] at known
  rcases known with rfl | rfl
  · simp [hostPresent, StoreAddress.schemes, spelled]
  · simp [hostPresent, StoreAddress.schemes, spelled]

/-- The check of the address is the first three requirements. -/
theorem validate_storeUrl (settings : Settings) :
    StoreAddress.validate settings.storeUrl = demandAll settings addressRequirements := by
  rw [addressRequirements]
  by_cases schemed : StoreAddress.HasScheme settings.writtenAddress
  · have written : settings.storeUrl.toList = settings.writtenAddress :=
      StoreAddress.normalize_of_scheme schemed
    rw [demandAll_of_met (addressPresent_of_scheme schemed)]
    by_cases known : ∃ scheme ∈ StoreAddress.schemes, scheme <+: settings.writtenAddress
    · rw [demandAll_of_met (.inr known : schemeKnown.holds settings)]
      rcases known with ⟨scheme, known, rest, spelled⟩
      have followed := hostPresent_iff known spelled.symm
      rw [StoreAddress.validate_of_scheme known (written.trans spelled.symm)]
      by_cases empty : rest = []
      · have missing : ¬hostPresent.holds settings := by simp [followed, empty]
        rw [demandAll_of_unmet missing, if_pos empty]
        rfl
      · rw [demandAll_of_met (followed.mpr empty), if_neg empty]
        rfl
    · have unknown : ¬schemeKnown.holds settings := by
        rintro (bare | known')
        · exact bare schemed
        · exact known known'
      rw [demandAll_of_unmet unknown]
      apply StoreAddress.validate_of_foreign
      intro scheme known' begins
      rw [written] at begins
      exact known ⟨scheme, known', begins⟩
  · have written : settings.storeUrl.toList = "redis://".toList ++ settings.writtenAddress :=
      StoreAddress.normalize_of_bare schemed
    rw [StoreAddress.validate_of_scheme (by simp [StoreAddress.schemes]) written]
    by_cases present : addressPresent.holds settings
    · rw [demandAll_of_met present, demandAll_of_met (.inl schemed : schemeKnown.holds settings),
        demandAll_of_met (hostPresent_of_bare schemed), if_neg present]
      rfl
    · rw [demandAll_of_unmet present, if_pos (not_not.mp present)]
      rfl

theorem validatePositive_eq_demand (name : String) (value : Settings → UInt64)
    (settings : Settings) :
    validatePositive name (value settings) = (positive name value).demand settings := by
  have zero_iff : value settings = 0 ↔ ¬0 < (value settings).toNat := by
    rw [← UInt64.toNat_inj, UInt64.toNat_zero]
    omega
  by_cases zero : value settings = 0
  · have unmet : ¬(positive name value).holds settings := zero_iff.mp zero
    simp only [validatePositive, zero, Requirement.demand, unmet, if_true, if_false]
    rfl
  · have met : (positive name value).holds settings := not_not.mp (mt zero_iff.mpr zero)
    simp only [validatePositive, zero, Requirement.demand, met, if_true, if_false]

theorem validate_eq_demandAll (settings : Settings) :
    settings.validate = demandAll settings requirements := by
  simp only [validate, validatePositive_eq_demand, validate_storeUrl]
  rw [requirements, Requirement.demandAll_append,
    ← Requirement.demandAll_single (positive "STORE_TIMEOUT_MS" storeTimeoutMilliseconds)]
  rfl

theorem addressRequirements_met_iff :
    (∀ requirement ∈ addressRequirements, requirement.holds settings) ↔
      StoreAddress.Acceptable settings.writtenAddress := by
  simp only [addressRequirements, List.forall_mem_cons, List.not_mem_nil, false_imp_iff,
    implies_true, and_true]
  constructor
  · rintro ⟨present, bare | ⟨scheme, known, rest, spelled⟩, followed⟩
    · exact ⟨present, .inl bare⟩
    · have something := (hostPresent_iff known spelled.symm).mp followed
      exact ⟨present, .inr ⟨scheme, known, rest, something, spelled.symm⟩⟩
  · rintro ⟨present, bare | ⟨scheme, known, rest, something, spelled⟩⟩
    · exact ⟨present, .inl bare, hostPresent_of_bare bare⟩
    · have begins : scheme <+: settings.writtenAddress := ⟨rest, spelled.symm⟩
      exact ⟨present, .inr ⟨scheme, known, begins⟩, (hostPresent_iff known spelled).mpr something⟩

theorem requirements_met_iff :
    (∀ requirement ∈ requirements, requirement.holds settings) ↔ settings.Acceptable := by
  simp only [requirements, List.forall_mem_append, addressRequirements_met_iff,
    numberRequirements, List.forall_mem_cons, List.not_mem_nil, false_imp_iff, implies_true,
    and_true, positive]
  constructor
  · rintro ⟨address, ipLimit, tokenLimit, blockSeconds, window, timeout⟩
    exact ⟨address, ipLimit, tokenLimit, blockSeconds, window, timeout⟩
  · rintro ⟨address, ipLimit, tokenLimit, blockSeconds, window, timeout⟩
    exact ⟨address, ipLimit, tokenLimit, blockSeconds, window, timeout⟩

/-- An address is normalised once and for all, to a text without white space at either end that
says of what scheme it is. Settings are accepted exactly if they are acceptable, and otherwise the
first requirement that they do not meet is reported. -/
theorem validate_by_requirements :
    (∀ address, StoreAddress.normalize (StoreAddress.normalize address) =
        StoreAddress.normalize address ∧ StoreAddress.Normal (StoreAddress.normalize address)) ∧
      ∀ settings : Settings, (settings.validate = .ok () ↔ settings.Acceptable) ∧
        ∀ fault, settings.validate = .error fault ↔
          ∃ requirement, Requirement.FirstUnmet settings requirements requirement ∧
            fault = .configuration requirement.problem := by
  constructor
  · intro address
    have normal := StoreAddress.normal_normalize address
    exact ⟨StoreAddress.normalize_of_normal normal, normal⟩
  · intro settings
    constructor
    · rw [validate_eq_demandAll, Requirement.demandAll_eq_ok_iff, requirements_met_iff]
    · intro fault
      rw [validate_eq_demandAll]
      exact Requirement.demandAll_eq_error_iff

end Settings

end AdmissionControl
