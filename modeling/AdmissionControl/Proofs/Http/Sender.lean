import AdmissionControl.Http.Application
import AdmissionControl.Proofs.Http.Headers
import AdmissionControl.Proofs.Network.Writing

/-!
# The sender of a request

What a request is counted under is its token, or else the first entry of its forwarding list, or
else the address of its connection (`Request.CountedUnder`). A client chooses its headers freely, so
the laws here are about all of them: no rewriting of headers that says the same moves a request to
another identity (`Request.Unnoticed`), and no identity is empty or begins or ends with padding.

Requests that say nothing are told apart by the hosts of their connections. The port is cut from the
address in writing, by the rule of `Client.host`; that this leaves the host, and that hosts are
written differently, is what `Client.host_text` and `SocketAddress.hostText_inj` are for.
-/

namespace AdmissionControl.Http

open Header (shown)

/-! ## The host of a connection -/

namespace Client

open Network

theorem host_of_unbracketed {text : List Char} (unbracketed : '[' ∉ text) :
    host text = if text.count ':' = 1 then text.takeWhile (· ≠ ':') else text := by
  unfold host
  split
  · simp at unbracketed
  · rfl

/-- The port and the brackets are cut off, and nothing else. -/
theorem host_text (address : SocketAddress) : host address.text.toList = address.hostText := by
  cases address with
  | v4 address port =>
      have uncolonned : ':' ∉ address.text.toList := SocketAddress.colon_notMem_v4 address
      have unbracketed : '[' ∉ address.text.toList :=
        SocketAddress.notMem_hostText (by decide) (.v4 address port)
      have noColon : ':' ∉ Nat.toDigits 10 port.toNat :=
        Reader.notMem_toDigits (by decide) (by decide) (by decide) port.toNat
      have noBracket : '[' ∉ Nat.toDigits 10 port.toNat :=
        Reader.notMem_toDigits (by decide) (by decide) (by decide) port.toNat
      have once : (address.text.toList ++ ':' :: Nat.toDigits 10 port.toNat).count ':' = 1 := by
        simp [List.count_append, List.count_eq_zero.mpr uncolonned,
          List.count_eq_zero.mpr noColon]
      rw [SocketAddress.text_toList_v4, host_of_unbracketed (by simp [unbracketed, noBracket]),
        if_pos once, Text.takeWhile_ne uncolonned, SocketAddress.hostText]
  | v6 address port flowLabel scope =>
      have unclosed : ']' ∉ address.text.toList ++ SocketAddress.scopeText scope :=
        SocketAddress.notMem_hostText (by decide) (.v6 address port flowLabel scope)
      rw [SocketAddress.text_toList_v6, ← List.append_assoc]
      exact Text.takeWhile_ne unclosed _

end Client

namespace Request

/-- The headers of a request do not say where it comes from. -/
def Silent (request : Request) : Prop :=
  ∀ source word, ¬Source.Says source request.headers word

/-- What a request is counted under. -/
inductive CountedUnder (request : Request) : Identity → Prop where
  | token {word : List UInt8} : Source.token.Says request.headers word →
      CountedUnder request (.token (shown word))
  | forwarded {word : List UInt8} : (∀ key, ¬Source.token.Says request.headers key) →
      Source.forwarded.Says request.headers word → CountedUnder request (.ip (shown word))
  | connection {peer : Network.SocketAddress} : request.Silent → request.peer = some peer →
      CountedUnder request (.ip (String.ofList peer.hostText))
  | unknown : request.Silent → request.peer = none → CountedUnder request (.ip "unknown")

/-- The headers of a request without the forwarding lists. -/
def unforwarded (request : Request) : List Header :=
  request.headers.filter fun header => ¬header.Named Source.forwarded.name

/-- The changes to a request that leave it with its sender. -/
inductive Unnoticed (request : Request) : Request → Prop where
  /-- A header is repeated, with any value. -/
  | repeated {before between after : List Header} {header again : Header} :
      request.headers = before ++ header :: (between ++ after) → again.Named header.name →
      Unnoticed request { request with headers := before ++ header :: (between ++ again :: after) }
  /-- A header says the same in other bytes. -/
  | restyled {before after : List Header} {header : Header} {value : List UInt8} :
      request.headers = before ++ header :: after → Restyled header value →
      Unnoticed request { request with headers := before ++ { header with value } :: after }
  /-- The connection comes from another port. -/
  | otherPort {peer : Network.SocketAddress} (port : UInt16) : request.peer = some peer →
      Unnoticed request { request with peer := some (peer.withPort port) }

end Request

/-- An identity has a value with no space or tab at either end, and an address is no list. -/
structure Clean (identity : Identity) : Prop where
  present : identity.value ≠ ""
  tight : Text.Tight Header.isGap identity.value.toList
  single : ∀ address, identity = .ip address → ',' ∉ address.toList

namespace Application

section

variable {request : Request} {word : List UInt8}

theorem clientAddress_eq (request : Request) :
    clientAddress request = ((Source.forwarded.word? request.headers).map shown).getD
      (((request.peer.map (·.hostText)).map String.ofList).getD "unknown") := by
  simp only [clientAddress, Client.address, Client.forwarded?_eq]
  cases Source.forwarded.word? request.headers with
  | some word => rfl
  | none =>
      cases request.peer with
      | none => rfl
      | some peer =>
          simp only [Option.map_some, Option.map_none, Client.stripPort, Client.host_text]
          rfl

theorem shown_ne_empty (present : word ≠ []) : shown word ≠ "" := by
  simpa [shown] using present

theorem identity_of_token (said : Source.token.word? request.headers = some word) :
    identity request = .token (shown word) := by
  have present := (Source.word?_eq_some_iff.mp said).present
  simp only [identity, Client.token_eq, said, Option.map_some, Option.getD_some]
  exact Identity.resolve_of_ne_empty (shown_ne_empty present) _

theorem identity_of_no_token (silent : Source.token.word? request.headers = none) :
    identity request = .ip (clientAddress request) := by
  simp only [identity, Client.token_eq, silent, Option.map_none, Option.getD_none,
    Identity.resolve_empty]

theorem word?_of_silent (silent : request.Silent) (source : Source) :
    source.word? request.headers = none :=
  Source.word?_eq_none_iff.mpr (silent source)

theorem identity_of_counted {subject : Identity} (counted : request.CountedUnder subject) :
    identity request = subject := by
  cases counted with
  | token said => exact identity_of_token (Source.word?_eq_some_iff.mpr said)
  | forwarded noToken said =>
      rw [identity_of_no_token (Source.word?_eq_none_iff.mpr noToken),
        clientAddress_eq, Source.word?_eq_some_iff.mpr said]
      rfl
  | connection silent known =>
      rw [identity_of_no_token (word?_of_silent silent _),
        clientAddress_eq, word?_of_silent silent, known]
      rfl
  | unknown silent unknown =>
      rw [identity_of_no_token (word?_of_silent silent _),
        clientAddress_eq, word?_of_silent silent, unknown]
      rfl

theorem exists_counted (request : Request) : ∃ subject, request.CountedUnder subject := by
  cases token : Source.token.word? request.headers with
  | some word => exact ⟨_, .token (Source.word?_eq_some_iff.mp token)⟩
  | none =>
      have noToken := Source.word?_eq_none_iff.mp token
      cases forwarded : Source.forwarded.word? request.headers with
      | some word => exact ⟨_, .forwarded noToken (Source.word?_eq_some_iff.mp forwarded)⟩
      | none =>
          have silent : request.Silent := by
            intro source
            cases source with
            | token => exact noToken
            | forwarded => exact Source.word?_eq_none_iff.mp forwarded
          cases peer : request.peer with
          | some address => exact ⟨_, .connection silent peer⟩
          | none => exact ⟨_, .unknown silent peer⟩

theorem counted_identity (request : Request) : request.CountedUnder (identity request) := by
  rcases exists_counted request with ⟨subject, counted⟩
  rwa [identity_of_counted counted]

/-- Requests that say the same and come from one host are counted under one identity. -/
theorem identity_congr {altered : Request}
    (words : ∀ source : Source, source.word? altered.headers = source.word? request.headers)
    (hosts : altered.peer.map (·.hostText) = request.peer.map (·.hostText)) :
    identity altered = identity request := by
  simp only [identity, Client.token_eq, clientAddress_eq, words, hosts]

theorem identity_of_unnoticed {altered : Request} (unnoticed : request.Unnoticed altered) :
    identity altered = identity request := by
  cases unnoticed with
  | repeated split same =>
      apply identity_congr
      · intro source
        rw [split]
        exact Source.word?_repeated same
      · rfl
  | restyled split restyled =>
      apply identity_congr
      · intro source
        rw [split]
        exact Source.word?_restyled restyled
      · rfl
  | otherPort port known =>
      apply identity_congr
      · intro source
        rfl
      · simp [known]

/-- A token is decided by the headers that are no forwarding lists. -/
theorem identity_of_unforwarded {altered : Request}
    (said : Source.token.word? request.headers = some word)
    (same : altered.unforwarded = request.unforwarded) : identity altered = identity request := by
  have also : Source.token.word? altered.headers = some word := by
    have kept := Source.word?_unforwarded altered.headers
    rw [← said, ← Source.word?_unforwarded request.headers, ← kept]
    exact congrArg Source.token.word? same
  rw [identity_of_token said, identity_of_token also]

end

/-! ## What an identity looks like -/

theorem clean_of_says {source : Source} {headers : List Header} {word : List UInt8}
    {subject : Identity} (said : source.Says headers word) (value : subject.value = shown word)
    (single : ∀ address, subject = .ip address → ',' ∉ address.toList) : Clean subject := by
  constructor
  · rw [value]
    exact shown_ne_empty said.present
  · rw [value, shown, String.toList_ofList]
    exact said.tight
  · exact single

theorem comma_notMem_shown {word : List UInt8} (unlisted : Header.comma ∉ word) :
    ',' ∉ (shown word).toList := by
  rw [shown, String.toList_ofList]
  intro member
  rcases List.mem_map.mp member with ⟨byte, inside, same⟩
  apply unlisted
  have comma : byte = Header.comma := by
    by_contra other
    exact (Header.character_ne_comma byte).mpr other same
  rwa [← comma]

theorem clean_host (peer : Network.SocketAddress) : Clean (.ip (String.ofList peer.hostText)) := by
  have unpadded : ∀ character ∈ peer.hostText, Header.isGap character = false := by
    intro character member
    by_contra gap
    simp only [Header.isGap, Bool.not_eq_false, Bool.or_eq_true, decide_eq_true_eq] at gap
    rcases gap with rfl | rfl
    · exact Network.SocketAddress.notMem_hostText (by decide) peer member
    · exact Network.SocketAddress.notMem_hostText (by decide) peer member
  constructor
  · simpa [Identity.value] using peer.hostText_ne_nil
  · rw [Identity.value, String.toList_ofList]
    constructor
    · intro character first
      exact unpadded character (List.mem_of_mem_head? first)
    · intro character last
      exact unpadded character (List.mem_of_mem_getLast? last)
  · intro address same
    cases same
    rw [String.toList_ofList]
    exact peer.notMem_hostText (by decide)

theorem clean_identity (request : Request) : Clean (identity request) := by
  generalize found : identity request = subject
  have counted := counted_identity request
  rw [found] at counted
  cases counted with
  | token said => exact clean_of_says said rfl nofun
  | forwarded noToken said =>
      apply clean_of_says said rfl
      intro address same
      cases same
      exact comma_notMem_shown said.unlisted
  | connection silent known => exact clean_host _
  | unknown silent unknown =>
      constructor
      · decide
      · constructor
        · simp [Identity.value, Header.isGap]
        · simp [Identity.value, Header.isGap]
      · intro address same
        cases same
        decide

/-! ## The laws -/

/-- A request is counted under its token, or else under the first forwarding address, or else under
the host of its connection. A token is not affected by forwarding lists or by the connection, and no
change that says the same moves a request to another identity. -/
theorem identity_of_sender (request : Request) :
    (∀ subject, identity request = subject ↔ request.CountedUnder subject) ∧
      (∀ altered : Request, (∃ word, Source.token.Says request.headers word) →
        altered.unforwarded = request.unforwarded → identity altered = identity request) ∧
      (∀ altered, request.Unnoticed altered → identity altered = identity request) ∧
      Clean (identity request) := by
  refine ⟨?_, ?_, ?_, clean_identity request⟩
  · intro subject
    constructor
    · rintro rfl
      exact counted_identity request
    · exact identity_of_counted
  · rintro altered ⟨word, said⟩ same
    exact identity_of_unforwarded (Source.word?_eq_some_iff.mpr said) same
  · intro altered unnoticed
    exact identity_of_unnoticed unnoticed

/-- A request for the greeting with some headers. -/
def requestWith (headers : List Header) (peer : Option Network.SocketAddress) : Request where
  method := "GET"
  target := { scheme := none, authority := none, path := "/", query := none }
  headers := headers
  peer := peer

/-- A request with a space before its token. -/
def keyedRequest : Request :=
  requestWith [⟨"api_key", [0x20, 0x6b]⟩, ⟨"X-Forwarded-For", [0x61]⟩] none

/-- The token is the same without a forwarding list, and with a tab before the space. -/
theorem identity_of_sender_of_token :
    identity keyedRequest = .token "k" ∧
      identity (requestWith [⟨"api_key", [0x20, 0x6b]⟩] (some (.v4 ⟨203, 0, 113, 1⟩ 54321))) =
        identity keyedRequest ∧
      identity (requestWith [⟨"api_key", [0x09, 0x20, 0x6b]⟩, ⟨"X-Forwarded-For", [0x61]⟩] none) =
        identity keyedRequest := by
  have said : Source.token.Says keyedRequest.headers [0x6b] :=
    Source.word?_eq_some_iff.mp (by decide)
  have padded : Restyled ⟨"api_key", [0x20, 0x6b]⟩ ([0x09] ++ [0x20, 0x6b] ++ []) :=
    .padded (by decide) (by simp [Text.Pads, Header.isPadding]) nofun
  rcases identity_of_sender keyedRequest with ⟨counted, alone, unnoticed, clean⟩
  have token : identity keyedRequest = .token (shown [0x6b]) := (counted _).mpr (.token said)
  have spelled : shown [0x6b] = "k" := by decide
  refine ⟨?_, alone _ ⟨_, said⟩ rfl, ?_⟩
  · rwa [spelled] at token
  · exact unnoticed _ (.restyled (show keyedRequest.headers = [] ++ _ from rfl) padded)

/-- Requests whose headers say nothing are counted under one identity exactly if they come from one
host. Its value is the canonical writing of the address, without the port and the brackets. -/
theorem identity_eq_iff_sameHost {first second : Request} {peer other : Network.SocketAddress}
    (firstSilent : first.Silent) (secondSilent : second.Silent) (firstPeer : first.peer = some peer)
    (secondPeer : second.peer = some other) :
    (identity first = identity second ↔ peer.SameHost other) ∧
      ∃ host, identity first = .ip (String.ofList host) ∧ peer.CanonicalHost host ∧
        peer.text.toList = peer.opening ++ host ++ peer.closing ++
          ':' :: Nat.toDigits 10 peer.port.toNat := by
  have here := identity_of_counted (.connection firstSilent firstPeer)
  have there := identity_of_counted (.connection secondSilent secondPeer)
  constructor
  · rw [here, there, ← Network.SocketAddress.hostText_inj]
    simp [String.ofList_inj]
  · exact ⟨peer.hostText, here, peer.canonicalHost_hostText, peer.text_toList⟩

theorem silent_of_no_headers (peer : Option Network.SocketAddress) :
    (requestWith [] peer).Silent := by
  intro source
  apply Source.word?_eq_none_iff.mp
  rfl

/-- Another port and another flow label are the same sender; another scope is not. -/
theorem identity_eq_iff_sameHost_of_scopes :
    identity (requestWith [] (some (.v6 ⟨[0xfe80, 0, 0, 0, 0, 0, 0, 1], rfl⟩ 443 7 2))) =
        identity (requestWith [] (some (.v6 ⟨[0xfe80, 0, 0, 0, 0, 0, 0, 1], rfl⟩ 8080 9 2))) ∧
      identity (requestWith [] (some (.v6 ⟨[0xfe80, 0, 0, 0, 0, 0, 0, 1], rfl⟩ 443 7 2))) ≠
        identity (requestWith [] (some (.v6 ⟨[0xfe80, 0, 0, 0, 0, 0, 0, 1], rfl⟩ 443 7 3))) := by
  constructor
  · exact (identity_eq_iff_sameHost (silent_of_no_headers _) (silent_of_no_headers _) rfl
      rfl).1.mpr ⟨rfl, rfl⟩
  · intro same
    have host := (identity_eq_iff_sameHost (silent_of_no_headers _) (silent_of_no_headers _) rfl
      rfl).1.mp same
    exact absurd host.2 (by decide)

end Application

end AdmissionControl.Http
