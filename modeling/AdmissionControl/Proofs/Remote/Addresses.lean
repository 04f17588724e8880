import Mathlib.Data.List.Basic
import AdmissionControl.Proofs.Remote.Spelling
import AdmissionControl.Remote.Adapter
import AdmissionControl.Settings.StoreAddress

/-!
# Accepted and usable addresses of a store

Before a service starts, the address of its store is checked for its scheme and for there being
anything behind it. The client that opens the connection reads the address in full, so it finds
faults in addresses that were accepted: exactly in those that are not usable (`Address.Usable`).

Nothing else is the fault of an address. Once it is read, whatever goes wrong is reported as a fault
of the network or the server (`connect_addressFault_iff`).
-/

namespace AdmissionControl

/-- An address is accepted if there is anything behind a scheme of the store. -/
theorem StoreAddress.accepted_iff {url : String} :
    validate url = .ok () ↔ ∃ rest, rest ≠ [] ∧
      (url.toList = "redis://".toList ++ rest ∨ url.toList = "rediss://".toList ++ rest) := by
  constructor
  · intro accepted
    simp only [validate] at accepted
    split at accepted
    · cases accepted
    · cases accepted
    · next first rest found =>
        refine ⟨first :: rest, List.cons_ne_nil _ _, ?_⟩
        rcases Option.or_eq_some_iff.mp found with plain | ⟨_, encrypted⟩
        · exact .inl (List.isPrefixOf?_eq_some_iff_append_eq.mp plain).symm
        · exact .inr (List.isPrefixOf?_eq_some_iff_append_eq.mp encrypted).symm
  · rintro ⟨rest, present, spelled⟩
    rcases List.exists_cons_of_ne_nil present with ⟨first, others, rfl⟩
    rcases spelled with plain | encrypted
    · rw [validate, plain]
      rfl
    · rw [validate, encrypted]
      rfl

namespace Remote

variable {url : String}

namespace Address

/-! ## Reading -/

/-- The number of the database that a path chooses; the first one where it chooses none. -/
def database? (path : List Char) : Option Int :=
  if databaseText path = "" then some 0 else Text.Decimal.long? (databaseText path)

/-- The parts of an address from which a connection can be opened. -/
structure Parts.Complete (parts : Parts) : Prop where
  scheme : parts.scheme = "redis"
  host : parts.host.isSome
  database : (database? parts.path).isSome
  user : (accountText? parts.user).isSome
  password : (accountText? parts.password).isSome

theorem complete_of_ofUrl {address : Address} (read : ofUrl url = .ok address) :
    ∃ parts, parts? url = some parts ∧ parts.Complete := by
  cases taken : parts? url with
  | none =>
      simp only [ofUrl, taken] at read
      cases read
  | some parts =>
      simp only [ofUrl, taken] at read
      -- Whatever the reader insists on next, without it there is no address.
      split at read
      case isFalse => cases read
      rename_i scheme
      split at read
      case h_2 => cases read
      rename_i host hosted
      split at read
      case isTrue => cases read
      rename_i plain
      split at read
      case h_2 => cases read
      rename_i database chosen
      split at read
      case h_2 => cases read
      rename_i user named
      split at read
      case h_2 => cases read
      rename_i password secret
      exact ⟨parts, rfl, {
        scheme := scheme.resolve_right plain
        host := Option.isSome_of_eq_some hosted
        database := Option.isSome_of_eq_some chosen
        user := Option.isSome_of_eq_some named
        password := Option.isSome_of_eq_some secret }⟩

theorem ofUrl_of_complete {parts : Parts} (taken : parts? url = some parts)
    (complete : parts.Complete) : ∃ address, ofUrl url = .ok address := by
  rcases Option.isSome_iff_exists.mp complete.host with ⟨host, hosted⟩
  rcases Option.isSome_iff_exists.mp complete.database with ⟨database, chosen⟩
  rcases Option.isSome_iff_exists.mp complete.user with ⟨user, named⟩
  rcases Option.isSome_iff_exists.mp complete.password with ⟨password, secret⟩
  unfold database? at chosen
  refine ⟨{
    host
    port := parts.port.getD defaultPort
    user := if parts.user.isEmpty then none else some user
    password := if parts.password.isEmpty then none else some password
    database }, ?_⟩
  simp only [ofUrl, taken, complete.scheme, hosted, named, secret, chosen]
  rfl

/-! ## Schemes -/

/-- A beginning in which there is nothing to strip stays as it is, whatever follows it. -/
theorem exists_significant (before after : List Char) (present : before ≠ [])
    (plain : ∀ character ∈ before, isControlOrSpace character = false) :
    ∃ rest, significant (before ++ after) = before ++ rest := by
  have first : (before ++ after).dropWhile isControlOrSpace = before ++ after := by
    cases before with
    | nil => exact absurd rfl present
    | cons character rest => exact List.dropWhile_cons_of_neg (by simp [plain])
  have last : before.reverse.dropWhile isControlOrSpace = before.reverse := by
    cases reversed : before.reverse with
    | nil => exact absurd (List.reverse_eq_nil_iff.mp reversed) present
    | cons character rest =>
        have member : character ∈ before := List.mem_reverse.mp (reversed ▸ List.mem_cons_self)
        exact List.dropWhile_cons_of_neg (by simp [plain character member])
  have trimmed : ∃ kept, ((before ++ after).reverse.dropWhile isControlOrSpace).reverse =
      before ++ kept := by
    rw [List.reverse_append, List.dropWhile_append, last]
    split
    · exact ⟨[], by simp⟩
    · exact ⟨(after.reverse.dropWhile isControlOrSpace).reverse, by simp⟩
  rcases trimmed with ⟨kept, trimmed⟩
  let counts (character : Char) : Bool :=
    !(character == '\t' || character == '\n' || character == '\r')
  have all : before.filter counts = before := by
    refine List.filter_eq_self.mpr fun character member => ?_
    have other {control : Char} (stripped : isControlOrSpace control = true) :
        character ≠ control := by
      rintro rfl
      exact absurd stripped (by simp [plain character member])
    have tab : character ≠ '\t' := other (by decide)
    have lineFeed : character ≠ '\n' := other (by decide)
    have carriageReturn : character ≠ '\r' := other (by decide)
    simp [counts, tab, lineFeed, carriageReturn]
  refine ⟨kept.filter counts, ?_⟩
  simp only [significant, first, trimmed]
  rw [List.filter_append, all]

/-- The spelling of an address from which a connection can be opened: what it says about the account
is text, and what it says about the database a number. -/
structure Spelling.Sound (spelling : Spelling) : Prop where
  user : (accountText? spelling.credentials.1).isSome
  password : (accountText? spelling.credentials.2).isSome
  database : (database? spelling.path).isSome

/-- An address with the scheme for plain connections, a host, and a meaning in all its parts. -/
def Usable (url : String) : Prop :=
  ∃ spelling : Spelling, significant url.toList = "redis://".toList ++ spelling.text ∧
    spelling.Sound

theorem ofUrl_of_usable (usable : Usable url) : ∃ address, ofUrl url = .ok address := by
  rcases usable with ⟨spelling, spelled, sound⟩
  have read : scheme? (significant url.toList) = some ("redis", '/' :: '/' :: spelling.text) := by
    rw [spelled]
    rfl
  rcases parts?_of_spelling spelling read with ⟨host, port, taken⟩
  exact ofUrl_of_complete taken ⟨rfl, rfl, sound.database, sound.user, sound.password⟩

theorem usable_of_ofUrl {address : Address} {rest : List Char}
    (spelled : significant url.toList = "redis://".toList ++ rest)
    (read : ofUrl url = .ok address) : Usable url := by
  rcases complete_of_ofUrl read with ⟨parts, taken, complete⟩
  rcases Option.isSome_iff_exists.mp complete.host with ⟨host, hosted⟩
  have scheme : scheme? (significant url.toList) = some ("redis", '/' :: '/' :: rest) := by
    rw [spelled]
    rfl
  rcases exists_spelling scheme taken hosted with ⟨spelling, rfl, _, credentials, path⟩
  refine ⟨spelling, spelled, ?_, ?_, ?_⟩
  · rw [← credentials]
    exact complete.user
  · rw [← credentials]
    exact complete.password
  · rw [← path]
    exact complete.database

/-- Encrypted connections are not available. -/
theorem not_ofUrl_of_encrypted {address : Address} {rest : List Char}
    (spelled : significant url.toList = "rediss://".toList ++ rest) : ofUrl url ≠ .ok address := by
  intro read
  rcases complete_of_ofUrl read with ⟨parts, taken, complete⟩
  rcases Option.isSome_iff_exists.mp complete.host with ⟨host, hosted⟩
  have scheme : scheme? (significant url.toList) = some ("rediss", '/' :: '/' :: rest) := by
    rw [spelled]
    rfl
  rcases exists_spelling scheme taken hosted with ⟨_, _, encrypted, _⟩
  exact absurd (encrypted.symm.trans complete.scheme) (by decide)

end Address

/-! ## Connecting -/

theorem fault_of_authenticate {address : Address} {server after : Server}
    {connection later : Connection} {fault : Fault}
    (shown : authenticate address server connection = (.done (.error fault), later, after)) :
    fault = .passwordRefused := by
  unfold authenticate at shown
  split at shown
  · cases shown
  · split at shown
    · split at shown
      · split at shown
        · cases shown
          rfl
        · next other => exact absurd shown (other _ _ _)
      · cases shown
        rfl
    · next other => exact absurd shown (other _ _ _)

theorem fault_of_chooseDatabase {address : Address} {server after : Server}
    {connection later : Connection} {fault : Fault}
    (chosen : chooseDatabase address server connection = (.done (.error fault), later, after)) :
    fault = .databaseRefused := by
  unfold chooseDatabase at chosen
  split at chosen
  · cases chosen
  · split at chosen
    · cases chosen
      rfl
    · next other => exact absurd chosen (other _ _ _)

theorem fault_of_openConnection {route : Route} {address : Address} {server after : Server}
    {fault : Fault}
    (opened : openConnection route address server = (.done (.error fault), after)) :
    fault = .unreachable ∨ fault = .passwordRefused ∨ fault = .databaseRefused := by
  unfold openConnection at opened
  split at opened
  · cases opened
    exact .inl rfl
  · split at opened
    · cases opened
    · next shown =>
        cases opened
        exact .inr (.inl (fault_of_authenticate shown))
    · split at opened
      · cases opened
      · next chosen =>
          cases opened
          exact .inr (.inr (fault_of_chooseDatabase chosen))
      · cases opened

/-- What goes wrong in the opening of a connection is the fault of the network or the server. -/
theorem fault_of_openWithRetries {route : Route} {address : Address} {retries : Nat}
    {server after : Server} {fault : Fault}
    (opened : openWithRetries route address retries server = (.done (.error fault), after)) :
    fault = .unreachable ∨ fault = .passwordRefused ∨ fault = .databaseRefused := by
  induction retries generalizing server with
  | zero => exact fault_of_openConnection opened
  | succ retries ih =>
      simp only [openWithRetries] at opened
      split at opened
      · exact ih opened
      · exact fault_of_openConnection opened

theorem connect_addressFault_iff_ofUrl {deployment : Deployment} {window : Duration} :
    (∃ problem, (deployment.connect url window).1 = .done (.error (.address problem))) ↔
      ¬∃ address, Address.ofUrl url = .ok address := by
  unfold Deployment.connect
  split
  · next problem unread =>
      refine ⟨fun _ => ?_, fun _ => ⟨problem, rfl⟩⟩
      rintro ⟨address, read⟩
      cases unread.symm.trans read
  · next address read =>
      refine ⟨?_, fun unread => absurd ⟨address, read⟩ unread⟩
      rintro ⟨problem, connected⟩
      split at connected
      · cases connected
      · next opened =>
          cases connected
          rcases fault_of_openWithRetries opened with other | other | other <;> cases other
      · cases connected

/-- An accepted address turns out to be faulty when a connection is opened exactly if it is not
usable. -/
theorem connect_addressFault_iff (deployment : Deployment) (address : String) (window : Duration)
    (accepted : StoreAddress.validate (StoreAddress.normalize address) = .ok ()) :
    (∃ problem, (deployment.connect (StoreAddress.normalize address) window).1 =
        .done (.error (.address problem))) ↔
      ¬Address.Usable (StoreAddress.normalize address) := by
  rw [connect_addressFault_iff_ofUrl, not_iff_not]
  refine ⟨?_, Address.ofUrl_of_usable⟩
  rintro ⟨store, read⟩
  rcases StoreAddress.accepted_iff.mp accepted with ⟨rest, _, plain | encrypted⟩
  · rcases Address.exists_significant "redis://".toList rest (by decide)
      (by simp [Address.isControlOrSpace]) with ⟨kept, spelled⟩
    rw [← plain] at spelled
    exact Address.usable_of_ofUrl spelled read
  · rcases Address.exists_significant "rediss://".toList rest (by decide)
      (by simp [Address.isControlOrSpace]) with ⟨kept, spelled⟩
    rw [← encrypted] at spelled
    exact absurd read (Address.not_ofUrl_of_encrypted spelled)

/-- The usual short address of a store on the same machine. -/
theorem connect_addressFault_iff_of_short :
    StoreAddress.validate (StoreAddress.normalize "localhost:6379") = .ok () ∧
      ¬∃ problem, ((Deployment.new .reachable []).connect
        (StoreAddress.normalize "localhost:6379") (.ofSeconds 1)).1 =
          .done (.error (.address problem)) := by
  refine ⟨rfl, fun faulty => ?_⟩
  refine (connect_addressFault_iff _ "localhost:6379" _ rfl).mp faulty ?_
  let spelling : Address.Spelling := {
    account := none
    host := "localhost".toList
    port := ":6379".toList
    tail := []
    accountInside := nofun
    hostText := .plain (by decide) (by simp [Address.forbiddenInHost])
    portText := .stated (rfl : Text.Decimal.digits? "6379".toList = some 6379) (by decide)
    tailStop := nofun }
  exact ⟨spelling, rfl, rfl, rfl, rfl⟩

/-- An address without a host is accepted, and then no connection can be opened with it. -/
theorem accepted_without_host :
    StoreAddress.validate (StoreAddress.normalize "redis:///") = .ok () ∧
      ∀ deployment window, (Deployment.connect deployment (StoreAddress.normalize "redis:///")
        window).1 = .done (.error (.address .missingHost)) := by
  refine ⟨rfl, fun deployment window => ?_⟩
  have read : Address.ofUrl (StoreAddress.normalize "redis:///") = .error .missingHost := rfl
  simp only [Deployment.connect, read]

end Remote

end AdmissionControl
