import AdmissionControl.Remote.Adapter

/-!
# What replies are read as

A reply may be anything: a number, a text, bytes, an array of any depth. What it is read as is said
here without regard to how it is read. A reply is a value exactly if it holds no error
(`Reply.HasError`), and a number only if it is an integer or a text that is a numeral
(`Reply.Decodes`).

Each operation of an admission check succeeds on the replies to its commands in one way only, and
fails on all others.
-/

namespace AdmissionControl.Remote

namespace Reply

/-- A reply that is an error, or an array that holds one at any depth. -/
inductive HasError : Reply → Prop
  | error (line : String) : HasError (.error line)
  | array {items : List Reply} {item : Reply} (member : item ∈ items) (inner : HasError item) :
      HasError (.array items)

/-- What a reply says as a number of 64 bits: an integer counts modulo `2 ^ 64`, and a text has to
be a numeral in UTF-8. -/
inductive Decodes : Reply → UInt64 → Prop
  | integer (value : Int) : Decodes (.integer value) (UInt64.ofInt value)
  | status {text : String} {word : UInt64} (numeral : Text.Decimal.word? text = some word) :
      Decodes (.status text) word
  | bulk {bytes : ByteArray} {text : String} {word : UInt64}
      (readable : String.fromUTF8? bytes = some text)
      (numeral : Text.Decimal.word? text = some word) : Decodes (.bulk bytes) word

variable {reply : Reply} {replies items : List Reply} {word : UInt64}

theorem hasError_array_iff : (Reply.array items).HasError ↔ ∃ item ∈ items, item.HasError := by
  constructor
  · intro faulty
    cases faulty with
    | array member inner => exact ⟨_, member, inner⟩
  · rintro ⟨item, member, inner⟩
    exact .array member inner

theorem decodes_integer_iff {number : Int} :
    (Reply.integer number).Decodes word ↔ UInt64.ofInt number = word := by
  constructor
  · rintro ⟨⟩
    rfl
  · rintro rfl
    exact .integer number

theorem decodes_status_iff {text : String} :
    (Reply.status text).Decodes word ↔ Text.Decimal.word? text = some word := by
  constructor
  · rintro ⟨⟩
    assumption
  · exact .status

theorem decodes_bulk_iff {bytes : ByteArray} :
    (Reply.bulk bytes).Decodes word ↔
      ∃ text, String.fromUTF8? bytes = some text ∧ Text.Decimal.word? text = some word := by
  constructor
  · intro decodes
    cases decodes with
    | bulk readable numeral => exact ⟨_, readable, numeral⟩
  · rintro ⟨text, readable, numeral⟩
    exact .bulk readable numeral

theorem Decodes.fine (decodes : reply.Decodes word) : ¬reply.HasError := by
  intro faulty
  cases decodes <;> cases faulty

/-! ## Reading -/

theorem read_status (text : String) :
    (Reply.status text).read = .ok (if text = "OK" then .okay else .status text) := by
  by_cases okay : text = "OK"
  · subst okay
    rw [read, if_pos rfl]
  · rw [read, if_neg okay]
    exact okay

mutual

/-- A reply has a value exactly if it holds no error. -/
theorem exists_read_iff (reply : Reply) : (∃ value, reply.read = .ok value) ↔ ¬reply.HasError := by
  cases reply with
  | nil => exact ⟨fun _ => nofun, fun _ => ⟨.nil, by rw [read]⟩⟩
  | integer value => exact ⟨fun _ => nofun, fun _ => ⟨.integer value, by rw [read]⟩⟩
  | bulk bytes => exact ⟨fun _ => nofun, fun _ => ⟨.bulk bytes, by rw [read]⟩⟩
  | status text => exact ⟨fun _ => nofun, fun _ => ⟨_, read_status text⟩⟩
  | error line =>
      constructor
      · rintro ⟨value, valued⟩
        simp [read] at valued
      · intro fine
        exact absurd (.error line) fine
  | array items =>
      have inner := exists_readAll_iff items
      have outer : (∃ value, (Reply.array items).read = .ok value) ↔
          ∃ values, readAll items = .ok values := by
        rw [read]
        cases readAll items <;> simp [Except.map]
      rw [outer, inner, hasError_array_iff]
      simp

theorem exists_readAll_iff (replies : List Reply) :
    (∃ values, readAll replies = .ok values) ↔ ∀ reply ∈ replies, ¬reply.HasError := by
  cases replies with
  | nil => simp [readAll]
  | cons reply rest =>
      have first := exists_read_iff reply
      have others := exists_readAll_iff rest
      have both : (∃ values, readAll (reply :: rest) = .ok values) ↔
          (∃ value, reply.read = .ok value) ∧ ∃ values, readAll rest = .ok values := by
        rw [readAll]
        cases reply.read with
        | error fault => simp
        | ok value => cases readAll rest <;> simp [Except.map]
      rw [both, first, others]
      simp

end

theorem word_numeral_iff {value : Value} {text : String} :
    Value.word.numeral value text = .ok word ↔ Text.Decimal.word? text = some word := by
  unfold Value.word.numeral
  cases Text.Decimal.word? text <;> simp

/-- The word of a value is what its reply says. -/
theorem word_of_read {value : Value} (valued : reply.read = .ok value) :
    value.word = .ok word ↔ reply.Decodes word := by
  cases reply with
  | nil =>
      rw [read] at valued
      cases valued
      exact ⟨nofun, nofun⟩
  | integer number =>
      rw [read] at valued
      cases valued
      rw [decodes_integer_iff, Value.word, Except.ok.injEq]
  | bulk bytes =>
      rw [read] at valued
      cases valued
      rw [decodes_bulk_iff, Value.word]
      cases String.fromUTF8? bytes with
      | none => simp
      | some text => simp [word_numeral_iff]
  | status text =>
      rw [read_status] at valued
      cases valued
      rw [decodes_status_iff]
      split
      · next okay =>
          have unread : Text.Decimal.word? "OK" = none := by decide
          simp [Value.word, okay, unread]
      · rw [Value.word, word_numeral_iff]
  | error line =>
      rw [read] at valued
      cases valued
  | array items =>
      rw [read] at valued
      cases inner : readAll items with
      | error fault =>
          rw [inner] at valued
          cases valued
      | ok values =>
          rw [inner] at valued
          cases valued
          exact ⟨nofun, nofun⟩

/-! ## The replies to an operation -/

theorem bind_eq_ok_iff {α β : Type} {computed : Except Fault α} {next : α → Except Fault β}
    {result : β} :
    computed.bind next = .ok result ↔ ∃ value, computed = .ok value ∧ next value = .ok result := by
  cases computed with
  | error fault => simp [Except.bind]
  | ok value => simp [Except.bind]

theorem readAll_cons_eq_ok_iff {values : List Value} :
    readAll (reply :: replies) = .ok values ↔
      ∃ value rest, reply.read = .ok value ∧ readAll replies = .ok rest ∧
        value :: rest = values := by
  rw [readAll]
  cases reply.read with
  | error fault => simp
  | ok value => cases readAll replies <;> simp [Except.map]

theorem readAll_nil_eq_ok_iff {values : List Value} : readAll [] = .ok values ↔ [] = values := by
  simp [readAll]

theorem readAll_single_eq_ok_iff {values : List Value} :
    readAll [reply] = .ok values ↔ ∃ value, reply.read = .ok value ∧ [value] = values := by
  simp [readAll_cons_eq_ok_iff, readAll_nil_eq_ok_iff]

variable {identity : Identity} {span : Duration}

/-- A block is found if the reply is a number other than zero. -/
theorem meaning_isBlocked_iff {found : Bool} :
    (readAll [reply]).bind (Adapter.meaning (.isBlocked identity)) = .ok found ↔
      ∃ word, reply.Decodes word ∧ found = decide (0 < word) := by
  rw [bind_eq_ok_iff]
  constructor
  · rintro ⟨values, valued, means⟩
    rcases readAll_single_eq_ok_iff.mp valued with ⟨value, single, rfl⟩
    cases read : value.word with
    | error fault => simp [Adapter.meaning, read, Except.map] at means
    | ok word =>
        simp only [Adapter.meaning, read, Except.map, Except.ok.injEq] at means
        exact ⟨word, (word_of_read single).mp read, means.symm⟩
  · rintro ⟨word, decodes, rfl⟩
    rcases (exists_read_iff reply).mpr decodes.fine with ⟨value, valued⟩
    refine ⟨[value], readAll_single_eq_ok_iff.mpr ⟨value, valued, rfl⟩, ?_⟩
    simp [Adapter.meaning, (word_of_read valued).mpr decodes, Except.map]

theorem meaning_block_iff :
    (readAll [reply]).bind (Adapter.meaning (.block identity span)) = .ok () ↔
      ¬reply.HasError := by
  rw [bind_eq_ok_iff, ← exists_read_iff]
  constructor
  · rintro ⟨values, valued, _⟩
    rcases readAll_single_eq_ok_iff.mp valued with ⟨value, single, _⟩
    exact ⟨value, single⟩
  · rintro ⟨value, valued⟩
    exact ⟨[value], readAll_single_eq_ok_iff.mpr ⟨value, valued, rfl⟩, rfl⟩

theorem countOf_list_iff {values : List Value} {count : UInt64} :
    Adapter.countOf (.list values) = .ok count ↔
      ∃ first second, values = [first, second] ∧ second.word = .ok count := by
  match values with
  | [] => simp [Adapter.countOf]
  | [_] => simp [Adapter.countOf]
  | [first, second] =>
      constructor
      · intro word
        exact ⟨first, second, rfl, word⟩
      · rintro ⟨_, _, ⟨⟩, word⟩
        exact word
  | _ :: _ :: _ :: _ => simp [Adapter.countOf]

theorem read_array_eq_ok_iff {value : Value} :
    (Reply.array items).read = .ok value ↔ ∃ values, readAll items = .ok values ∧
      .list values = value := by
  rw [read]
  cases readAll items <;> simp [Except.map]

/-- The result of a transaction is a count if it holds two results, the second of them a number. -/
theorem countOf_iff {count : UInt64} :
    reply.read.bind Adapter.countOf = .ok count ↔
      ∃ first second, reply = .array [first, second] ∧ ¬first.HasError ∧ second.Decodes count := by
  rw [bind_eq_ok_iff]
  constructor
  · rintro ⟨value, valued, counted⟩
    cases reply with
    | array items =>
        rcases read_array_eq_ok_iff.mp valued with ⟨values, inner, rfl⟩
        rcases countOf_list_iff.mp counted with ⟨first, second, rfl, word⟩
        match items with
        | [] => simp [readAll] at inner
        | [_] => simp [readAll_single_eq_ok_iff] at inner
        | [one, other] =>
            simp only [readAll_cons_eq_ok_iff, readAll_nil_eq_ok_iff] at inner
            rcases inner with ⟨_, _, readOne, ⟨_, _, readOther, rfl, rfl⟩, same⟩
            cases same
            exact ⟨one, other, rfl, (exists_read_iff one).mp ⟨_, readOne⟩,
              (word_of_read readOther).mp word⟩
        | _ :: _ :: _ :: _ => simp [readAll_cons_eq_ok_iff] at inner
    | nil =>
        rw [read] at valued
        cases valued
        cases counted
    | integer number =>
        rw [read] at valued
        cases valued
        cases counted
    | bulk bytes =>
        rw [read] at valued
        cases valued
        cases counted
    | status text =>
        rw [read_status] at valued
        cases valued
        split at counted <;> cases counted
    | error line =>
        rw [read] at valued
        cases valued
  · rintro ⟨first, second, rfl, fine, decodes⟩
    rcases (exists_read_iff first).mpr fine with ⟨one, readOne⟩
    rcases (exists_read_iff second).mpr decodes.fine with ⟨other, readOther⟩
    refine ⟨.list [one, other], read_array_eq_ok_iff.mpr ⟨[one, other], ?_, rfl⟩, ?_⟩
    · exact readAll_cons_eq_ok_iff.mpr
        ⟨one, [other], readOne, readAll_single_eq_ok_iff.mpr ⟨other, readOther, rfl⟩, rfl⟩
    · exact countOf_list_iff.mpr ⟨one, other, rfl, (word_of_read readOther).mpr decodes⟩

theorem meaning_increment_iff {begun created raised executed : Reply} {count : UInt64} :
    (readAll [begun, created, raised, executed]).bind (Adapter.meaning (.increment identity)) =
        .ok count ↔
      ¬begun.HasError ∧ ¬created.HasError ∧ ¬raised.HasError ∧
        ∃ first second, executed = .array [first, second] ∧ ¬first.HasError ∧
          second.Decodes count := by
  rw [← countOf_iff, bind_eq_ok_iff, bind_eq_ok_iff, ← exists_read_iff, ← exists_read_iff,
    ← exists_read_iff]
  simp only [readAll_cons_eq_ok_iff, readAll_nil_eq_ok_iff]
  constructor
  · rintro ⟨_, ⟨first, _, readFirst, ⟨second, _, readSecond, ⟨third, _, readThird,
      ⟨result, _, readResult, rfl, rfl⟩, rfl⟩, rfl⟩, rfl⟩, counted⟩
    exact ⟨⟨first, readFirst⟩, ⟨second, readSecond⟩, ⟨third, readThird⟩, result, readResult,
      counted⟩
  · rintro ⟨⟨first, readFirst⟩, ⟨second, readSecond⟩, ⟨third, readThird⟩, result, readResult,
      counted⟩
    exact ⟨_, ⟨first, _, readFirst, ⟨second, _, readSecond, ⟨third, _, readThird,
      ⟨result, _, readResult, rfl, rfl⟩, rfl⟩, rfl⟩, rfl⟩, counted⟩

end Reply

end AdmissionControl.Remote
