import AdmissionControl.Proofs.Network.Reading
import AdmissionControl.Proofs.Text.Trimming
import AdmissionControl.Remote.Address

/-!
# How the address of a store is spelled

After its scheme and the two slashes the address of a store is an account with an at sign, which may
be left out, a host, a port with a colon, which may be left out, and whatever else follows the
authority (`Address.Spelling`). The grammar says nothing about how a text is taken apart: that the
last at sign ends the account and that a colon in brackets belongs to the host is what the reader
finds out, and it takes apart every text that is spelled so (`Address.parts?_of_spelling`) and no
other text with a host (`Address.exists_spelling`).
-/

namespace AdmissionControl.Remote.Address

open Text (takeWhile_dropWhile_of_stop stop_of_dropWhile ne_of_absent)

/-! ## Cutting texts in two -/

section

variable {separator : Char} {before after characters : List Char}

theorem splitAtLast_append (absent : separator ∉ after) :
    splitAtLast separator (before ++ separator :: after) = some (before, after) := by
  -- The last separator is looked for from the end, where it is the first.
  have reversed : (before ++ separator :: after).reverse =
      after.reverse ++ separator :: before.reverse := by simp
  have inside : ∀ character ∈ after.reverse, decide (character ≠ separator) = true :=
    ne_of_absent (by simpa using absent)
  have stop : ∀ character ∈ (separator :: before.reverse).head?,
      decide (character ≠ separator) = false := by simp
  have cut := takeWhile_dropWhile_of_stop inside stop
  simp only [splitAtLast, reversed, cut.1, cut.2, List.reverse_reverse]

theorem splitAtLast_of_absent (absent : separator ∉ characters) :
    splitAtLast separator characters = none := by
  have gone : characters.reverse.dropWhile (· ≠ separator) = [] := by
    rw [List.dropWhile_eq_nil_iff]
    exact ne_of_absent (by simpa using absent)
  simp only [splitAtLast, gone]

/-- A text is split at the last separator in it, if there is one. -/
theorem splitAtLast_cases (separator : Char) (characters : List Char) :
    (separator ∉ characters ∧ splitAtLast separator characters = none) ∨
      ∃ before after, characters = before ++ separator :: after ∧ separator ∉ after ∧
        splitAtLast separator characters = some (before, after) := by
  by_cases present : separator ∈ characters
  · rcases List.eq_append_cons_of_mem (List.mem_reverse.mpr present) with
      ⟨after, before, reversed, absent⟩
    have spelled : characters = before.reverse ++ separator :: after.reverse := by
      have same := congrArg List.reverse reversed
      simpa using same
    have absent : separator ∉ after.reverse := fun member => absent (List.mem_reverse.mp member)
    exact .inr ⟨_, _, spelled, absent, spelled ▸ splitAtLast_append absent⟩
  · exact .inl ⟨present, splitAtLast_of_absent present⟩

end

/-! ## Hosts -/

/-- The characters that the account, or the authority as a whole, ends at. -/
def authoritySeparators : List Char := ['@', '/', '?', '#']

theorem inside_of_ne {character : Char}
    (other : ∀ separator ∈ authoritySeparators, character ≠ separator) :
    character ≠ '@' ∧ endsAuthority character = false := by
  have slash : character ≠ '/' := other '/' (by decide)
  have query : character ≠ '?' := other '?' (by decide)
  have hash : character ≠ '#' := other '#' (by decide)
  exact ⟨other '@' (by decide), by simp [endsAuthority, slash, query, hash]⟩

/-- The spelling of a host: without any separator, or an address of eight groups in brackets. -/
inductive HostText : List Char → Prop where
  | plain {characters : List Char} (present : characters ≠ [])
      (unseparated : ∀ character ∈ characters, character ∉ forbiddenInHost) : HostText characters
  | bracketed {inner : List Char} {address : Network.Ipv6}
      (read : Network.Reader.ipv6 inner = some (address, [])) : HostText ('[' :: (inner ++ [']']))

namespace HostText

variable {characters : List Char}

theorem present (host : HostText characters) : characters ≠ [] := by
  cases host with
  | plain present unseparated => exact present
  | bracketed read => exact List.cons_ne_nil _ _

theorem ne_of_unseparated {character separator : Char} (allowed : character ∉ forbiddenInHost)
    (separates : separator ∈ forbiddenInHost) : character ≠ separator := by
  rintro rfl
  exact allowed separates

theorem ne_of_addressCharacter {character other : Char} (fine : Network.AddressCharacter character)
    (foreign : ¬Network.AddressCharacter other) : character ≠ other := by
  rintro rfl
  exact foreign fine

/-- A host has none of the characters that the parts of an authority end at. -/
theorem inside (host : HostText characters) {character : Char} (member : character ∈ characters) :
    character ≠ '@' ∧ endsAuthority character = false := by
  cases host with
  | plain present unseparated =>
      have forbidden : ∀ separator ∈ authoritySeparators, separator ∈ forbiddenInHost := by
        simp [authoritySeparators, forbiddenInHost]
      exact inside_of_ne fun separator separates =>
        ne_of_unseparated (unseparated character member) (forbidden separator separates)
  | @bracketed inner address read =>
      have within : character = '[' ∨ character ∈ inner ∨ character = ']' := by simpa using member
      have foreign : ∀ separator ∈ authoritySeparators, ¬Network.AddressCharacter separator := by
        simp only [authoritySeparators, List.forall_mem_cons]
        exact ⟨by decide, by decide, by decide, by decide, nofun⟩
      rcases within with rfl | member | rfl
      · decide
      · have fine := Network.Reader.addressCharacter_of_ipv6 read character member
        exact inside_of_ne fun separator separates =>
          ne_of_addressCharacter fine (foreign separator separates)
      · decide

end HostText

theorem splitHost_append (inBrackets : Bool) (characters : List Char) :
    (splitHost inBrackets characters).1 ++ (splitHost inBrackets characters).2 = characters := by
  induction characters generalizing inBrackets with
  | nil => rfl
  | cons character rest ih =>
      rw [splitHost]
      split
      · rfl
      · exact congrArg (character :: ·) (ih _)

theorem splitHost_port {port : List Char} (colon : ∀ character ∈ port.head?, character = ':') :
    splitHost false port = ([], port) := by
  cases port with
  | nil => rfl
  | cons character rest =>
      rw [splitHost, if_pos ⟨colon character rfl, rfl⟩]

theorem splitHost_plain {host port : List Char}
    (unseparated : ∀ character ∈ host, character ∉ forbiddenInHost)
    (colon : ∀ character ∈ port.head?, character = ':') :
    splitHost false (host ++ port) = (host, port) := by
  induction host with
  | nil => exact splitHost_port colon
  | cons character rest ih =>
      have onward := ih fun other member => unseparated other (List.mem_cons_of_mem _ member)
      have allowed := unseparated character List.mem_cons_self
      have noColon : character ≠ ':' := HostText.ne_of_unseparated allowed (by decide)
      have noOpening : character ≠ '[' := HostText.ne_of_unseparated allowed (by decide)
      have noClosing : character ≠ ']' := HostText.ne_of_unseparated allowed (by decide)
      simp [splitHost, noColon, noOpening, noClosing, onward]

theorem splitHost_bracketed {inner port : List Char}
    (fine : ∀ character ∈ inner, Network.AddressCharacter character)
    (colon : ∀ character ∈ port.head?, character = ':') :
    splitHost true (inner ++ ']' :: port) = (inner ++ [']'], port) := by
  induction inner with
  | nil => simp [splitHost, splitHost_port colon]
  | cons character rest ih =>
      have onward := ih fun character member => fine character (List.mem_cons_of_mem _ member)
      have closing : character ≠ ']' :=
        HostText.ne_of_addressCharacter (fine character List.mem_cons_self) (by decide)
      simp [splitHost, closing, onward]

/-- A host is split from the port after it, whatever colons it has. -/
theorem splitHost_of_hostText {host port : List Char} (text : HostText host)
    (colon : ∀ character ∈ port.head?, character = ':') :
    splitHost false (host ++ port) = (host, port) := by
  cases text with
  | plain present unseparated => exact splitHost_plain unseparated colon
  | bracketed read =>
      have inner := splitHost_bracketed (Network.Reader.addressCharacter_of_ipv6 read) colon
      simp [splitHost, inner]

theorem groupsText_ne_empty {groups : List UInt16} (several : 2 ≤ groups.length) :
    Network.Ipv6.groupsText groups ≠ "" := by
  match groups, several with
  | first :: second :: rest, _ =>
      simp [Network.Ipv6.groupsText, String.intercalate_cons_cons]

theorem text_ne_empty (address : Network.Ipv6) : address.text ≠ "" := by
  have several : 2 ≤ address.groups.length := by
    rw [address.eight]
    decide
  unfold Network.Ipv6.text
  split
  · simp
  · simp only []
    split
    · simp
    · exact groupsText_ne_empty several

theorem any_forbidden_iff {characters : List Char} :
    characters.any (forbiddenInHost.contains ·) = true ↔
      ∃ character ∈ characters, character ∈ forbiddenInHost := by
  simp [List.any_eq_true]

/-- The hosts that can be read, and are there, are those that are spelled so. -/
theorem hostText_iff {characters : List Char} :
    HostText characters ↔ ∃ host, host? characters = some host ∧ host ≠ "" := by
  constructor
  · intro text
    cases text with
    | plain present unseparated =>
        refine ⟨String.ofList characters, ?_, mt String.ofList_eq_empty_iff.mp present⟩
        unfold host?
        split
        · exact absurd (by decide) (unseparated _ List.mem_cons_self)
        · refine if_neg fun forbidden => ?_
          rcases any_forbidden_iff.mp forbidden with ⟨character, member, separates⟩
          exact unseparated character member separates
    | @bracketed inner address read =>
        have split : splitAtLast ']' (inner ++ [']']) = some (inner, []) :=
          splitAtLast_append List.not_mem_nil
        refine ⟨address.text, ?_, text_ne_empty address⟩
        simp only [host?, split, read]
  · rintro ⟨host, read, present⟩
    unfold host? at read
    split at read
    · next rest =>
        rcases splitAtLast_cases ']' rest with ⟨_, split⟩ | ⟨inner, after, rfl, _, split⟩
        · simp only [split] at read
          cases read
        · simp only [split] at read
          split at read
          · next closed =>
              cases closed
              split at read
              · next whole => exact .bracketed whole
              · cases read
          · cases read
    · split at read
      · cases read
      · next allowed =>
          cases read
          refine .plain (mt String.ofList_eq_empty_iff.mpr present) ?_
          intro character member separates
          exact allowed (any_forbidden_iff.mpr ⟨character, member, separates⟩)

/-! ## Ports -/

/-- The spelling of a port with the colon before it, either of which may be left out. -/
inductive PortText : List Char → Prop where
  | unstated : PortText []
  | colonOnly : PortText [':']
  | stated {digits : List Char} {value : Nat}
      (read : Text.Decimal.digits? digits = some value) (fits : value < UInt16.size) :
      PortText (':' :: digits)

theorem digits_of_digits? {characters : List Char} {value : Nat}
    (read : Text.Decimal.digits? characters = some value) :
    characters ≠ [] ∧ ∀ character ∈ characters, character.isDigit = true := by
  unfold Text.Decimal.digits? at read
  split at read
  · cases read
  · next plain => simpa [List.isEmpty_iff] using plain

namespace PortText

variable {characters : List Char}

theorem stop (port : PortText characters) : ∀ character ∈ characters.head?, character = ':' := by
  cases port with
  | unstated => exact nofun
  | colonOnly =>
      rintro _ ⟨⟩
      rfl
  | stated read fits =>
      rintro _ ⟨⟩
      rfl

/-- A port has none of the characters that the parts of an authority end at. -/
theorem inside (port : PortText characters) {character : Char} (member : character ∈ characters) :
    character ≠ '@' ∧ endsAuthority character = false := by
  cases port with
  | unstated => cases member
  | colonOnly =>
      rw [List.mem_singleton.mp member]
      decide
  | stated read fits =>
      rcases List.mem_cons.mp member with rfl | digit
      · decide
      · have isDigit := (digits_of_digits? read).2 character digit
        have noDigit : ∀ separator ∈ authoritySeparators, separator.isDigit = false := by
          simp [authoritySeparators, Char.isDigit]
        refine inside_of_ne fun separator separates same => ?_
        rw [same, noDigit separator separates] at isDigit
        cases isDigit

end PortText

/-- The ports that can be read are those that are spelled so. -/
theorem portText_iff {characters : List Char} :
    PortText characters ↔ ∃ port, port? characters = some port := by
  constructor
  · intro text
    cases text with
    | unstated => exact ⟨none, rfl⟩
    | colonOnly => exact ⟨none, rfl⟩
    | @stated digits value read fits =>
        have present := (digits_of_digits? read).1
        refine ⟨some (UInt16.ofNat value), ?_⟩
        unfold port?
        split
        · next none => cases none
        · next colonOnly => exact absurd (List.cons.inj colonOnly).2 present
        · next other _ same =>
            cases same
            rw [read]
            exact if_pos fits
        · next other => exact absurd rfl (other digits)
  · rintro ⟨port, read⟩
    unfold port? at read
    split at read
    · exact .unstated
    · exact .colonOnly
    · rcases Option.bind_eq_some_iff.mp read with ⟨value, digits, fits⟩
      split at fits
      · next small => exact .stated digits small
      · cases fits
    · cases read

/-! ## Authorities -/

/-- A location with the account before it, if there is one. -/
def withAccount (account : Option (List Char)) (location : List Char) : List Char :=
  match account with
  | none => location
  | some text => text ++ '@' :: location

theorem splitAtLast_withAccount {account : Option (List Char)} {location : List Char}
    (absent : '@' ∉ location) :
    splitAtLast '@' (withAccount account location) = account.map (·, location) := by
  cases account with
  | none => exact splitAtLast_of_absent absent
  | some text => exact splitAtLast_append absent

theorem exists_account (authority : List Char) :
    ∃ account location, withAccount account location = authority ∧
      splitAtLast '@' authority = account.map (·, location) := by
  rcases splitAtLast_cases '@' authority with ⟨absent, split⟩ | ⟨text, location, rfl, absent, split⟩
  · exact ⟨none, authority, rfl, split⟩
  · exact ⟨some text, location, rfl, split⟩

theorem getD_split (account : Option (List Char)) (location : List Char) :
    (account.map (·, location)).getD ([], withAccount account location) =
      (account.getD [], location) := by
  cases account <;> rfl

/-- What follows the scheme of an address and the two slashes, part by part. -/
structure Spelling where
  /-- The text before the at sign, if there is one. -/
  account : Option (List Char)
  host : List Char
  port : List Char
  /-- What follows the authority. -/
  tail : List Char
  accountInside : ∀ text ∈ account, ∀ character ∈ text, endsAuthority character = false
  hostText : HostText host
  portText : PortText port
  tailStop : ∀ character ∈ tail.head?, endsAuthority character = true

namespace Spelling

def location (spelling : Spelling) : List Char :=
  spelling.host ++ spelling.port

def authority (spelling : Spelling) : List Char :=
  withAccount spelling.account spelling.location

def text (spelling : Spelling) : List Char :=
  spelling.authority ++ spelling.tail

/-- The name in the account and the password after its first colon. -/
def credentials (spelling : Spelling) : List Char × List Char :=
  splitAtFirst ':' (spelling.account.getD [])

def path (spelling : Spelling) : List Char :=
  spelling.tail.takeWhile fun character => !(character == '?' || character == '#')

variable (spelling : Spelling)

theorem location_ne_nil : spelling.location ≠ [] :=
  List.append_ne_nil_of_left_ne_nil spelling.hostText.present _

theorem inside_location {character : Char} (member : character ∈ spelling.location) :
    character ≠ '@' ∧ endsAuthority character = false := by
  rcases List.mem_append.mp member with host | port
  · exact spelling.hostText.inside host
  · exact spelling.portText.inside port

theorem inside_authority {character : Char} (member : character ∈ spelling.authority) :
    endsAuthority character = false := by
  unfold authority withAccount at member
  split at member
  · exact (spelling.inside_location member).2
  · next text stated =>
      rcases List.mem_append.mp member with account | rest
      · exact spelling.accountInside text stated character account
      · rcases List.mem_cons.mp rest with rfl | location
        · decide
        · exact (spelling.inside_location location).2

theorem splitAtLast_authority :
    splitAtLast '@' spelling.authority = spelling.account.map (·, spelling.location) :=
  splitAtLast_withAccount fun member => (spelling.inside_location member).1 rfl

theorem splitHost_location : splitHost false spelling.location = (spelling.host, spelling.port) :=
  splitHost_of_hostText spelling.hostText spelling.portText.stop

end Spelling

variable {url scheme : String}

/-- How an address is taken apart whose authority is followed by a tail. -/
theorem parts?_eq {authority tail account location hostPart portPart : List Char}
    (read : scheme? (significant url.toList) = some (scheme, '/' :: '/' :: (authority ++ tail)))
    (inside : ∀ character ∈ authority, endsAuthority character = false)
    (stop : ∀ character ∈ tail.head?, endsAuthority character = true)
    (parted : (splitAtLast '@' authority).getD ([], authority) = (account, location))
    (located : splitHost false location = (hostPart, portPart)) :
    parts? url =
      if (splitAtLast '@' authority).isSome ∧ account = [] ∧ location = [] ∧ tail ≠ [] then none
      else
        (host? hostPart).bind fun host => (port? portPart).bind fun port =>
          if host = "" ∧ (portPart ≠ [] ∨ (splitAtFirst ':' account).1 ≠ [] ∨
              (splitAtFirst ':' account).2 ≠ []) then none
          else some {
            scheme
            user := (splitAtFirst ':' account).1
            password := (splitAtFirst ':' account).2
            host := if host = "" then none else some host
            port
            path := tail.takeWhile fun character => !(character == '?' || character == '#') } := by
  have goesOn : ∀ character ∈ authority, (!endsAuthority character) = true := by
    intro character member
    rw [inside character member]
    rfl
  have ends : ∀ character ∈ tail.head?, (!endsAuthority character) = false := by
    intro character first
    rw [stop character first]
    rfl
  have cut := takeWhile_dropWhile_of_stop goesOn ends
  simp only [parts?, read, Option.bind_eq_bind, Option.bind_some, cut.1, cut.2, parted, located]
  split <;> rfl

/-- An address that is spelled so is taken apart into its parts. -/
theorem parts?_of_spelling (spelling : Spelling)
    (read : scheme? (significant url.toList) = some (scheme, '/' :: '/' :: spelling.text)) :
    ∃ host port, parts? url = some {
      scheme
      user := spelling.credentials.1
      password := spelling.credentials.2
      host := some host
      port
      path := spelling.path } := by
  rcases hostText_iff.mp spelling.hostText with ⟨host, hostRead, present⟩
  rcases portText_iff.mp spelling.portText with ⟨port, portRead⟩
  have parted : (splitAtLast '@' spelling.authority).getD ([], spelling.authority) =
      (spelling.account.getD [], spelling.location) := by
    rw [spelling.splitAtLast_authority]
    exact getD_split _ _
  refine ⟨host, port, ?_⟩
  rw [parts?_eq read (fun _ => spelling.inside_authority) spelling.tailStop parted
    spelling.splitHost_location, if_neg fun bare => spelling.location_ne_nil bare.2.2.1, hostRead,
    portRead]
  simp [present, Spelling.credentials, Spelling.path]

/-- What follows the slashes consists of an authority and a tail. -/
theorem exists_cut (rest : List Char) :
    ∃ authority tail, rest = authority ++ tail ∧
      (∀ character ∈ authority, endsAuthority character = false) ∧
      ∀ character ∈ tail.head?, endsAuthority character = true := by
  let goesOn (character : Char) : Bool := !endsAuthority character
  refine ⟨rest.takeWhile goesOn, rest.dropWhile goesOn,
    List.takeWhile_append_dropWhile.symm, ?_, ?_⟩
  · intro character member
    have inside : goesOn character = true := List.mem_takeWhile_imp member
    exact (Bool.not_eq_true' _).mp inside
  · intro character first
    have stopped : goesOn character = false := stop_of_dropWhile character first
    exact (Bool.not_eq_false' _).mp stopped

/-- An address that is taken apart and has a host is spelled so. -/
theorem exists_spelling {rest : List Char} {parts : Parts} {host : String}
    (read : scheme? (significant url.toList) = some (scheme, '/' :: '/' :: rest))
    (taken : parts? url = some parts) (present : parts.host = some host) :
    ∃ spelling : Spelling, spelling.text = rest ∧ parts.scheme = scheme ∧
      (parts.user, parts.password) = spelling.credentials ∧ parts.path = spelling.path := by
  rcases exists_cut rest with ⟨authority, tail, rfl, inside, stop⟩
  rcases exists_account authority with ⟨account, location, rfl, split⟩
  have parted := getD_split account location
  rw [← split] at parted
  rcases located : splitHost false location with ⟨hostPart, portPart⟩
  have whole : hostPart ++ portPart = location := by
    have joined := splitHost_append false location
    rwa [located] at joined
  rw [parts?_eq read inside stop parted located] at taken
  split at taken
  · cases taken
  · rcases Option.bind_eq_some_iff.mp taken with ⟨found, hostRead, taken⟩
    rcases Option.bind_eq_some_iff.mp taken with ⟨port, portRead, taken⟩
    split at taken
    · cases taken
    · cases taken
      have named : found ≠ "" := by
        rintro rfl
        cases present
      -- What the reader cut out are the parts; what it checked on the way makes them well spelled.
      let spelling : Spelling := {
        account
        host := hostPart
        port := portPart
        tail
        accountInside := by
          rintro text ⟨⟩ character member
          exact inside character (List.mem_append_left _ member)
        hostText := hostText_iff.mpr ⟨found, hostRead, named⟩
        portText := portText_iff.mpr ⟨port, portRead⟩
        tailStop := stop }
      refine ⟨spelling, ?_, rfl, rfl, rfl⟩
      exact congrArg (fun location => withAccount account location ++ tail) whole

end AdmissionControl.Remote.Address
