import AdmissionControl.Proofs.Network.Reading
import Mathlib.Algebra.Group.Nat.Defs
import Mathlib.Data.List.TakeWhile

/-!
# Addresses in writing

What is written for the address of a socket is read as that address again, but for the flow label,
which is not written (`SocketAddress.ofText?_text`). So two addresses of one spelling are the same,
and two that are written alike without their ports are of one host (`SocketAddress.hostText_inj`).
What the writing of eight groups looks like is `Ipv6.Canonical`.

The proof follows the writer. A number is written as digits without leading zeros, and is read back
wherever no digit follows. Groups are read back wherever the text that follows cannot be taken for a
further group (`Reader.Ends`): before two colons, before the sign of a scope and before the closing
bracket. That a reader looks for four bytes before every group does no harm, since no dot stands
among groups.
-/

namespace AdmissionControl.Network

/-! ## Numbers -/

/-- The values of the digits of a number, the highest place first. -/
structure Places (base number : Nat) (values : List Nat) : Prop where
  written : Nat.toDigits base number = values.map Nat.digitChar
  below : ∀ value ∈ values, value < base
  sum : values.foldl (fun sum digit => sum * base + digit) 0 = number
  plain : values.head? = some 0 → values.length ≤ 1

theorem exists_places {base : Nat} (proper : 1 < base) (number : Nat) :
    ∃ values, Places base number values := by
  induction number using Nat.strongRecOn with
  | ind number ih =>
      by_cases small : number < base
      · refine ⟨[number], ?_, ?_, ?_, ?_⟩
        · simp [Nat.toDigits_of_lt_base small]
        · simpa using small
        · simp
        · simp
      · have fewer : number / base < number := Nat.div_lt_self (by omega) proper
        have positive : 0 < number / base := Nat.div_pos (by omega) (by omega)
        rcases ih (number / base) fewer with ⟨values, places⟩
        refine ⟨values ++ [number % base], ?_, ?_, ?_, ?_⟩
        · rw [Nat.toDigits_of_base_le proper (by omega), places.written]
          simp
        · intro value member
          rcases List.mem_append.mp member with member | member
          · exact places.below value member
          · rw [List.mem_singleton.mp member]
            exact Nat.mod_lt _ (by omega)
        · simp [List.foldl_append, places.sum, Nat.div_add_mod']
        · intro zero
          have sum := places.sum
          cases values with
          | nil => simp at sum; omega
          | cons first rest =>
              simp only [List.cons_append, List.head?_cons] at zero
              have short := places.plain zero
              simp only [List.length_cons] at short
              have alone : rest = [] := List.length_eq_zero_iff.mp (by omega)
              simp [alone, Option.some.inj zero] at sum
              omega

namespace Reader

/-- No digit follows. -/
def Stops (base : Nat) (rest : List Char) : Prop :=
  ∀ character ∈ rest.head?, digit? base character = none

variable {base : Nat} {rest : List Char}

theorem digit?_digitChar {value : Nat} (small : base ≤ 16) (below : value < base) :
    digit? base (Nat.digitChar value) = some value := by
  have each : ∀ base ≤ 16, ∀ value < base, digit? base (Nat.digitChar value) = some value := by
    decide
  exact each base small value below

theorem Stops.of_hexadecimal (stops : Stops 16 rest) (small : base ≤ 16) : Stops base rest := by
  intro character first
  have stopped := stops character first
  cases digit : digit? base character with
  | none => rfl
  | some value =>
      have read := digit?_of_digit? small digit
      simp [stopped] at read

theorem digits_of_stops (stops : Stops base rest) : digits base rest = ([], rest) := by
  cases rest with
  | nil => rfl
  | cons character more => simp [digits, stops character rfl]

theorem digits_append {values : List Nat} (small : base ≤ 16)
    (below : ∀ value ∈ values, value < base) (stops : Stops base rest) :
    digits base (values.map Nat.digitChar ++ rest) = (values, rest) := by
  induction values with
  | nil => exact digits_of_stops stops
  | cons value values ih =>
      have digit := digit?_digitChar small (below value List.mem_cons_self)
      have more := ih (fun other member => below other (List.mem_cons_of_mem _ member))
      simp [digits, digit, more]

/-- A number is read back wherever no digit follows. -/
theorem number_toDigits {number limit : Nat} {most : Option Nat} (leadingZeros : Bool)
    (proper : 1 < base) (small : base ≤ 16) (stops : Stops base rest)
    (short : ∀ bound ∈ most, number < base ^ bound ∧ 0 < bound) (within : number ≤ limit) :
    Reader.number base most leadingZeros limit (Nat.toDigits base number ++ rest) =
      some (number, rest) := by
  rcases exists_places proper number with ⟨values, places⟩
  have present : values ≠ [] := by
    rintro rfl
    exact Nat.toDigits_ne_nil places.written
  have few : (most.all fun bound => values.length ≤ bound) = true := by
    rw [Option.all_eq_true]
    intro bound given
    rcases short bound given with ⟨below, positive⟩
    have length := (Nat.length_toDigits_le_iff proper positive).mpr below
    rw [places.written, List.length_map] at length
    exact decide_eq_true length
  have plain : (leadingZeros || values.length ≤ 1 || values.head? ≠ some 0) = true := by
    by_cases zero : values.head? = some 0
    · simp [places.plain zero]
    · simp [zero]
  simp only [Reader.number, places.written, digits_append small places.below stops, places.sum]
  rw [if_pos ⟨present, few, plain, within⟩]

/-! ## Bytes and groups -/

theorem number_of_stops {limit : Nat} {most : Option Nat} {leadingZeros : Bool}
    (stops : Stops base rest) : number base most leadingZeros limit rest = none := by
  simp [number, digits_of_stops stops]

theorem byte_toDigits (value : UInt8) (stops : Stops 10 rest) :
    byte (Nat.toDigits 10 value.toNat ++ rest) = some (value, rest) := by
  have bound := value.toNat_lt
  have read : number 10 (some 3) false 255 (Nat.toDigits 10 value.toNat ++ rest) =
      some (value.toNat, rest) :=
    number_toDigits false (by decide) (by decide) stops (by simp; omega) (by omega)
  simp [byte, read]

theorem group_toDigits (value : UInt16) (stops : Stops 16 rest) :
    group (Nat.toDigits 16 value.toNat ++ rest) = some (value, rest) := by
  have bound := value.toNat_lt
  have read : number 16 (some 4) true 65535 (Nat.toDigits 16 value.toNat ++ rest) =
      some (value.toNat, rest) :=
    number_toDigits true (by decide) (by decide) stops (by simp; omega) (by omega)
  simp [group, read]

theorem stops_cons {character : Char} (foreign : digit? base character = none) :
    Stops base (character :: rest) := by
  intro other first
  cases first
  exact foreign

end Reader

theorem Ipv4.text_toList (address : Ipv4) :
    address.text.toList = Nat.toDigits 10 address.first.toNat ++
      '.' :: (Nat.toDigits 10 address.second.toNat ++
        '.' :: (Nat.toDigits 10 address.third.toNat ++
          '.' :: Nat.toDigits 10 address.fourth.toNat)) := by
  simp [Ipv4.text]

namespace Reader

variable {rest : List Char}

theorem ipv4_text (address : Ipv4) (stops : Stops 10 rest) :
    ipv4 (address.text.toList ++ rest) = some (address, rest) := by
  have dot {more : List Char} : Stops 10 ('.' :: more) := stops_cons (by decide)
  simp only [Ipv4.text_toList, List.append_assoc, List.cons_append]
  simp [ipv4, byte_toDigits _ dot, byte_toDigits _ stops, given]

/-! ## Groups -/

/-- Groups as they are written; there is a colon before a group unless it comes first. -/
def spelling : Bool → List UInt16 → List Char
  | _, [] => []
  | comesFirst, group :: rest =>
      (if comesFirst then [] else [':']) ++ (Nat.toDigits 16 group.toNat ++ spelling false rest)

theorem groupsText_toList (groups : List UInt16) :
    (Ipv6.groupsText groups).toList = spelling true groups := by
  rw [Ipv6.groupsText, String.toList_intercalate]
  cases groups with
  | nil => rfl
  | cons group rest =>
      induction rest generalizing group with
      | nil => simp [spelling]
      | cons next rest ih =>
          have more := ih next
          simp only [List.map_cons, spelling, if_true, List.nil_append] at more ⊢
          rw [List.intercalate_cons_cons, more]
          simp

/-- Nothing follows that could be taken for more of an address: no digit, no dot, and no digit
behind a colon. -/
structure Ends (rest : List Char) : Prop where
  digit : Stops 16 rest
  dot : rest.head? ≠ some '.'
  colon : ∀ more, rest = ':' :: more → Stops 16 more

theorem byte_of_stops (stops : Stops 10 rest) : byte rest = none := by
  simp [byte, number_of_stops stops]

theorem ipv4_of_stops (stops : Stops 10 rest) : ipv4 rest = none := by
  simp [ipv4, byte_of_stops stops]

theorem group_of_stops (stops : Stops 16 rest) : group rest = none := by
  simp [group, number_of_stops stops]

theorem separated_of_ends {α : Type} {reader : Reader α} (comesFirst : Bool)
    (fails : ∀ {text}, Stops 16 text → reader text = none) (ends : Ends rest) :
    separated comesFirst reader rest = none := by
  cases comesFirst with
  | true => exact fails ends.digit
  | false =>
      cases rest with
      | nil => rfl
      | cons character more =>
          by_cases colon : character = ':'
          · subst colon
            have missed := fails (ends.colon more rfl)
            simp [separated, given, missed]
          · simp [separated, given, colon]

/-- Where nothing of an address follows, no group is read. -/
theorem groups_of_ends (slots : Nat) (comesFirst : Bool) (ends : Ends rest) :
    groups slots comesFirst rest = (([], false), rest) := by
  cases slots with
  | zero => rfl
  | succ slots =>
      have noBytes : separated comesFirst ipv4 rest = none := by
        apply separated_of_ends comesFirst _ ends
        intro text stops
        exact ipv4_of_stops (stops.of_hexadecimal (by decide))
      have noGroup := separated_of_ends comesFirst group_of_stops ends
      simp [groups, noBytes, noGroup]

theorem head?_digits_ne_dot {base : Nat} {front : List Char} (undotted : '.' ∉ front)
    (dot : rest.head? ≠ some '.') (stops : Stops base rest) :
    (digits base (front ++ rest)).2.head? ≠ some '.' := by
  induction front with
  | nil => simpa [digits_of_stops stops] using dot
  | cons character front ih =>
      simp only [List.mem_cons, not_or] at undotted
      rw [List.cons_append, digits]
      split
      · simpa using Ne.symm undotted.1
      · exact ih undotted.2

theorem rest_of_byte {text after : List Char} {value : UInt8}
    (read : byte text = some (value, after)) : after = (digits 10 text).2 := by
  simp only [byte, number, Option.map_eq_some_iff] at read
  rcases read with ⟨⟨counted, left⟩, taken, same⟩
  cases same
  split at taken
  · cases taken
    rfl
  · cases taken

/-- Four bytes are not read where no dot stands. -/
theorem ipv4_of_undotted {front : List Char} (undotted : '.' ∉ front)
    (dot : rest.head? ≠ some '.') (stops : Stops 10 rest) : ipv4 (front ++ rest) = none := by
  have left := head?_digits_ne_dot undotted dot stops
  cases first : byte (front ++ rest) with
  | none => simp [ipv4, first]
  | some read =>
      rcases read with ⟨value, after⟩
      have missed : given '.' after = none := by
        rw [← rest_of_byte first] at left
        cases after with
        | nil => rfl
        | cons character more =>
            simp only [List.head?_cons, ne_eq, Option.some.injEq] at left
            simp [given, left]
      simp [ipv4, first, missed]

theorem notMem_toDigits {base : Nat} {character : Char} (proper : 1 < base) (small : base ≤ 16)
    (foreign : ∀ value < 16, Nat.digitChar value ≠ character) (number : Nat) :
    character ∉ Nat.toDigits base number := by
  rcases exists_places proper number with ⟨values, places⟩
  intro member
  rw [places.written, List.mem_map] at member
  rcases member with ⟨value, inside, same⟩
  have below := places.below value inside
  exact foreign value (by omega) same

theorem ends_spelling (groups : List UInt16) (ends : Ends rest) :
    Stops 16 (spelling false groups ++ rest) ∧
      (spelling false groups ++ rest).head? ≠ some '.' := by
  cases groups with
  | nil => exact ⟨ends.digit, ends.dot⟩
  | cons group more => exact ⟨stops_cons (by decide), by simp [spelling]⟩

/-- Groups are read back wherever nothing of an address follows. -/
theorem groups_spelling {written : List UInt16} {slots : Nat} (comesFirst : Bool)
    (room : written.length ≤ slots) (ends : Ends rest) :
    groups slots comesFirst (spelling comesFirst written ++ rest) = ((written, false), rest) := by
  induction written generalizing slots comesFirst with
  | nil => exact groups_of_ends slots comesFirst ends
  | cons value more ih =>
      cases slots with
      | zero => simp at room
      | succ slots =>
          have fewer : more.length ≤ slots := by simpa using room
          have onward := ih false fewer
          rcases ends_spelling more ends with ⟨stops, dot⟩
          have one := group_toDigits value stops
          have undotted : '.' ∉ Nat.toDigits 16 value.toNat :=
            notMem_toDigits (by decide) (by decide) (by decide) value.toNat
          have noBytes := ipv4_of_undotted undotted dot (stops.of_hexadecimal (by decide))
          cases comesFirst with
          | true =>
              simp [groups, spelling, separated, one, noBytes, onward]
          | false =>
              simp [groups, spelling, separated, given, one, noBytes, onward]

/-! ## Addresses of eight groups -/

theorem ends_colons (more : List Char) : Ends (':' :: ':' :: more) where
  digit := stops_cons (by decide)
  dot := by simp
  colon := by
    intro after same
    cases same
    exact stops_cons (by decide)

/-- An address in which nothing is left out is read back. -/
theorem ipv6_of_full {written : List UInt16} (eight : written.length = 8) (ends : Ends rest) :
    ipv6 (spelling true written ++ rest) = some (⟨written, eight⟩, rest) := by
  have read := groups_spelling true (Nat.le_of_eq eight) ends
  simp [ipv6, read, eight]

/-- An address in which two colons stand for zero groups is read back. -/
theorem ipv6_of_gap {front back written : List UInt16} {gap : Nat} (eight : written.length = 8)
    (spelled : written = front ++ List.replicate gap 0 ++ back) (wide : 1 ≤ gap)
    (ends : Ends rest) :
    ipv6 (spelling true front ++ (':' :: ':' :: (spelling true back ++ rest))) =
      some (⟨written, eight⟩, rest) := by
  subst spelled
  simp only [List.length_append, List.length_replicate] at eight
  have roomBefore : front.length ≤ 8 := by omega
  have roomBehind : back.length ≤ 7 - front.length := by omega
  have first := groups_spelling true roomBefore (ends_colons (spelling true back ++ rest))
  have second := groups_spelling true roomBehind ends
  have partly : front.length ≠ 8 := by omega
  have filled : 8 - front.length - back.length = gap := by omega
  simp [ipv6, first, partly, given, second, filled]
  omega

theorem groups_of_bytes (address : Ipv4) (stops : Stops 10 rest) :
    groups 7 true ('f' :: 'f' :: 'f' :: 'f' :: ':' :: (address.text.toList ++ rest)) =
      ((0xffff :: pair address, true), rest) := by
  have noBytes : ipv4 ('f' :: 'f' :: 'f' :: 'f' :: ':' :: (address.text.toList ++ rest)) = none :=
    ipv4_of_stops (stops_cons (by decide))
  have one : group ('f' :: 'f' :: 'f' :: 'f' :: ':' :: (address.text.toList ++ rest)) =
      some (0xffff, ':' :: (address.text.toList ++ rest)) :=
    group_toDigits 0xffff (stops_cons (by decide))
  have bytes := ipv4_text address stops
  simp [groups, separated, noBytes, one, given, bytes]

/-- An address that stands for one of the shorter kind is read back. -/
theorem ipv6_of_bytes {written : List UInt16} (address : Ipv4) (eight : written.length = 8)
    (spelled : written = List.replicate 5 0 ++ 0xffff :: pair address) (stops : Stops 10 rest) :
    ipv6 ("::ffff:".toList ++ (address.text.toList ++ rest)) = some (⟨written, eight⟩, rest) := by
  subst spelled
  have first := groups_of_ends 8 true
    (ends_colons ('f' :: 'f' :: 'f' :: 'f' :: ':' :: (address.text.toList ++ rest)))
  have second := groups_of_bytes address stops
  simp [ipv6, first, given, second, pair]

end Reader

namespace Ipv6

open Reader (Ends spelling)

theorem bytes_join (word : UInt16) :
    (word >>> 8).toUInt8.toUInt16 <<< 8 ||| word.toUInt8.toUInt16 = word := by
  have bound := word.toNat_lt
  have low : word.toNat % 256 < 2 ^ 8 := Nat.mod_lt _ (by decide)
  have high : word.toNat >>> 8 % 256 = word.toNat / 256 := by
    rw [Nat.shiftRight_eq_div_pow]
    omega
  have shifted : (word.toNat / 256) <<< 8 % 65536 = (word.toNat / 256) <<< 8 := by
    rw [Nat.shiftLeft_eq]
    omega
  apply UInt16.toNat_inj.mp
  simp only [UInt16.toNat_or, UInt16.toNat_shiftLeft, UInt8.toNat_toUInt16,
    UInt16.toNat_toUInt8, UInt16.toNat_shiftRight, UInt16.reduceToNat, Nat.reduceMod,
    Nat.reducePow, high, shifted]
  rw [← Nat.shiftLeft_add_eq_or_of_lt low, Nat.shiftLeft_eq]
  omega

theorem replicate_append_drop (groups : List UInt16) :
    List.replicate (groups.takeWhile (· = 0)).length 0 ++
      groups.drop (groups.takeWhile (· = 0)).length = groups := by
  have zeros : groups.takeWhile (· = 0) =
      List.replicate (groups.takeWhile (· = 0)).length 0 := by
    apply List.eq_replicate_iff.mpr
    refine ⟨rfl, ?_⟩
    intro group member
    have zero := List.mem_takeWhile_imp member
    simpa using zero
  have rest : groups.drop (groups.takeWhile (· = 0)).length = groups.dropWhile (· = 0) := by
    have cut : (groups.takeWhile (· = 0) ++ groups.dropWhile (· = 0)).drop
        (groups.takeWhile (· = 0)).length = groups.dropWhile (· = 0) := List.drop_left
    rwa [List.takeWhile_append_dropWhile] at cut
  rw [← zeros, rest, List.takeWhile_append_dropWhile]

/-- The groups fall into those before the run, the run of zero groups and those behind it. -/
theorem longestZeroRun_split (groups : List UInt16) :
    groups.take (longestZeroRun groups).1 ++
      List.replicate (longestZeroRun groups).2 0 ++
        groups.drop ((longestZeroRun groups).1 + (longestZeroRun groups).2) = groups := by
  induction groups with
  | nil => rfl
  | cons group rest ih =>
      rcases found : longestZeroRun rest with ⟨start, length⟩
      simp only [found] at ih
      simp only [longestZeroRun, found]
      split
      · simpa using replicate_append_drop (group :: rest)
      · rw [show start + 1 + length = start + length + 1 by omega]
        simp only [List.take_succ_cons, List.drop_succ_cons, List.cons_append, ih]

theorem le_length_takeWhile (size : Nat) (after : List UInt16) :
    size ≤ ((List.replicate size 0 ++ after).takeWhile (· = 0)).length := by
  rw [List.takeWhile_append_of_pos (by simp), List.length_append, List.length_replicate]
  omega

/-- No run of zero groups is longer, and none of that length comes earlier. -/
theorem longestZeroRun_longest {groups before after : List UInt16} {size : Nat}
    (split : groups = before ++ List.replicate size 0 ++ after) :
    size ≤ (longestZeroRun groups).2 ∧
      (size = (longestZeroRun groups).2 → (longestZeroRun groups).1 ≤ before.length) := by
  induction groups generalizing before with
  | nil =>
      simp only [List.nil_eq, List.append_eq_nil_iff, List.replicate_eq_nil_iff] at split
      simp [longestZeroRun, split]
  | cons group rest ih =>
      rcases found : longestZeroRun rest with ⟨start, length⟩
      simp only [found] at ih
      simp only [longestZeroRun, found]
      cases before with
      | nil =>
          have here := le_length_takeWhile size after
          rw [List.nil_append] at split
          rw [← split] at here
          by_cases longer : length ≤ ((group :: rest).takeWhile (· = 0)).length
          · rw [if_pos longer]
            exact ⟨here, fun _ => Nat.zero_le _⟩
          · rw [if_neg longer]
            constructor
            · omega
            · intro same
              omega
      | cons first before =>
          simp only [List.cons_append, List.cons.injEq] at split
          rcases ih split.2 with ⟨most, earliest⟩
          by_cases longer : length ≤ ((group :: rest).takeWhile (· = 0)).length
          · rw [if_pos longer]
            exact ⟨by omega, fun _ => Nat.zero_le _⟩
          · rw [if_neg longer]
            constructor
            · exact most
            · intro same
              have within := earliest same
              simpa using within

theorem embedded?_eq_some {address : Ipv6} {inner : Ipv4}
    (embeds : address.embedded? = some inner) :
    address.groups = List.replicate 5 0 ++ 0xffff :: Reader.pair inner := by
  unfold embedded? at embeds
  split at embeds
  · next high low groups =>
      cases embeds
      rw [groups]
      simp only [Reader.pair, bytes_join]
      rfl
  · cases embeds

theorem embedded?_ne_none {address : Ipv6} {inner : Ipv4}
    (embeds : address.groups = List.replicate 5 0 ++ 0xffff :: Reader.pair inner) :
    address.embedded? ≠ none := by
  rw [embedded?, embeds]
  exact nofun

/-- The canonical writing of an address. One that stands for an address of four bytes ends in that
address. In any other the first of its longest runs of zero groups is left out, unless no two zero
groups stand side by side. -/
inductive Canonical (address : Ipv6) : List Char → Prop where
  | embedded {inner : Ipv4} :
      address.groups = List.replicate 5 0 ++ 0xffff :: Reader.pair inner →
      Canonical address ("::ffff:".toList ++ inner.text.toList)
  | compressed {front back : List UInt16} {gap : Nat} :
      (∀ inner, address.groups ≠ List.replicate 5 0 ++ 0xffff :: Reader.pair inner) →
      address.groups = front ++ List.replicate gap 0 ++ back → 2 ≤ gap →
      (∀ before size after, address.groups = before ++ List.replicate size 0 ++ after →
        size ≤ gap ∧ (size = gap → front.length ≤ before.length)) →
      Canonical address (spelling true front ++ ':' :: ':' :: spelling true back)
  | full :
      (∀ inner, address.groups ≠ List.replicate 5 0 ++ 0xffff :: Reader.pair inner) →
      (∀ before after, address.groups ≠ before ++ 0 :: 0 :: after) →
      Canonical address (spelling true address.groups)

theorem canonical_text (address : Ipv6) : address.Canonical address.text.toList := by
  rw [Ipv6.text]
  cases embeds : address.embedded? with
  | some inner =>
      simp only [String.toList_append]
      exact .embedded (embedded?_eq_some embeds)
  | none =>
      have apart : ∀ inner, address.groups ≠ List.replicate 5 0 ++ 0xffff :: Reader.pair inner :=
        fun inner same => embedded?_ne_none same embeds
      have longest {before after : List UInt16} {size : Nat}
          (split : address.groups = before ++ List.replicate size 0 ++ after) :=
        longestZeroRun_longest split
      have split := longestZeroRun_split address.groups
      rcases run : longestZeroRun address.groups with ⟨start, length⟩
      simp only [run] at longest split ⊢
      by_cases wide : 2 ≤ length
      · rw [if_pos wide]
        simp only [String.toList_append, Reader.groupsText_toList, List.append_assoc]
        apply Canonical.compressed apart split.symm wide
        intro before size after other
        have most := longest other
        refine ⟨most.1, ?_⟩
        intro same
        rw [List.length_take]
        exact Nat.le_trans (Nat.min_le_left _ _) (most.2 same)
      · rw [if_neg wide, Reader.groupsText_toList]
        apply Canonical.full apart
        intro before after other
        have two : address.groups = before ++ List.replicate 2 0 ++ after := by
          simpa using other
        have most := longest two
        omega

/-- What is written for an address is read back wherever nothing of an address follows. -/
theorem ipv6_text (address : Ipv6) {rest : List Char} (ends : Ends rest) :
    Reader.ipv6 (address.text.toList ++ rest) = some (address, rest) := by
  rw [Ipv6.text]
  cases embeds : address.embedded? with
  | some inner =>
      simp only [String.toList_append, List.append_assoc]
      exact Reader.ipv6_of_bytes inner address.eight (embedded?_eq_some embeds)
        (ends.digit.of_hexadecimal (by decide))
  | none =>
      rcases run : longestZeroRun address.groups with ⟨start, length⟩
      have split := longestZeroRun_split address.groups
      simp only [run] at split ⊢
      by_cases wide : 2 ≤ length
      · rw [if_pos wide]
        simp only [String.toList_append, Reader.groupsText_toList, List.append_assoc]
        exact Reader.ipv6_of_gap address.eight split.symm (by omega) ends
      · rw [if_neg wide, Reader.groupsText_toList]
        exact Reader.ipv6_of_full address.eight ends

end Ipv6

/-! ## Addresses of sockets -/

namespace SocketAddress

open Reader (Ends Stops stops_cons)

/-- The scope of an address in writing, where it has one. -/
def scopeText (scope : UInt32) : List Char :=
  if scope = 0 then [] else '%' :: Nat.toDigits 10 scope.toNat

/-- The address without its port and without brackets. -/
def hostText : SocketAddress → List Char
  | .v4 address _ => address.text.toList
  | .v6 address _ _ scope => address.text.toList ++ scopeText scope

/-- The address without its flow label, which is not written. -/
def unlabelled : SocketAddress → SocketAddress
  | .v4 address port => .v4 address port
  | .v6 address port _ scope => .v6 address port 0 scope

def port : SocketAddress → UInt16
  | .v4 _ port => port
  | .v6 _ port _ _ => port

/-- What stands before the address without its port. -/
def opening : SocketAddress → List Char
  | .v4 _ _ => []
  | .v6 _ _ _ _ => ['[']

/-- What stands behind the address without its port, and before the colon. -/
def closing : SocketAddress → List Char
  | .v4 _ _ => []
  | .v6 _ _ _ _ => [']']

/-- The same address with another port. -/
def withPort : SocketAddress → UInt16 → SocketAddress
  | .v4 address _, port => .v4 address port
  | .v6 address _ flowLabel scope, port => .v6 address port flowLabel scope

theorem text_toList_v4 (address : Ipv4) (port : UInt16) :
    (v4 address port).text.toList =
      address.text.toList ++ ':' :: Nat.toDigits 10 port.toNat := by
  simp [text]

theorem text_toList_v6 (address : Ipv6) (port : UInt16) (flowLabel scope : UInt32) :
    (v6 address port flowLabel scope).text.toList =
      '[' :: (address.text.toList ++
        (scopeText scope ++ ']' :: ':' :: Nat.toDigits 10 port.toNat)) := by
  by_cases unscoped : scope = 0
  · simp [text, scopeText, unscoped]
  · simp [text, scopeText, unscoped]

theorem text_toList (address : SocketAddress) :
    address.text.toList = address.opening ++ address.hostText ++ address.closing ++
      ':' :: Nat.toDigits 10 address.port.toNat := by
  cases address with
  | v4 address number => simp [text_toList_v4, opening, hostText, closing, port]
  | v6 address number flowLabel scope => simp [text_toList_v6, opening, hostText, closing, port]

end SocketAddress

namespace Reader

theorem port_text (value : UInt16) :
    port (':' :: Nat.toDigits 10 value.toNat) = some (value, []) := by
  have bound := value.toNat_lt
  have read : number 10 none true 65535 (Nat.toDigits 10 value.toNat ++ []) =
      some (value.toNat, []) :=
    number_toDigits true (by decide) (by decide) nofun nofun (by omega)
  rw [List.append_nil] at read
  simp [port, given, read]

theorem scope_text (value : UInt32) (more : List Char) :
    scope (SocketAddress.scopeText value ++ ']' :: more) = some (value, ']' :: more) := by
  by_cases unscoped : value = 0
  · simp [scope, SocketAddress.scopeText, unscoped]
  · have bound := value.toNat_lt
    have stops : Stops 10 (']' :: more) := stops_cons (by decide)
    have read : number 10 none true 4294967295 (Nat.toDigits 10 value.toNat ++ ']' :: more) =
        some (value.toNat, ']' :: more) :=
      number_toDigits true (by decide) (by decide) stops nofun (by omega)
    simp [scope, SocketAddress.scopeText, unscoped, read]

end Reader

namespace SocketAddress

open Reader (Ends Stops stops_cons)

theorem ends_nil : Ends [] where
  digit := nofun
  dot := by simp
  colon := nofun

theorem ends_bracket (more : List Char) : Ends (']' :: more) where
  digit := stops_cons (by decide)
  dot := by simp
  colon := nofun

theorem ends_scope (scope : UInt32) {rest : List Char} (ends : Ends rest) :
    Ends (scopeText scope ++ rest) := by
  by_cases unscoped : scope = 0
  · simpa [scopeText, unscoped] using ends
  · rw [scopeText, if_neg unscoped]
    constructor
    · exact stops_cons (by decide)
    · simp
    · exact nofun

/-- What is written for the address of a socket is read as that address, but for its flow label. -/
theorem ofText?_text (address : SocketAddress) :
    ofText? address.text = some address.unlabelled := by
  rw [ofText?]
  cases address with
  | v4 address port =>
      have stops : Stops 10 (':' :: Nat.toDigits 10 port.toNat) := stops_cons (by decide)
      have bytes := Reader.ipv4_text address stops
      simp [text_toList_v4, Reader.socketV4, bytes, Reader.port_text, unlabelled]
  | v6 address port flowLabel scope =>
      have noBytes : Reader.ipv4 ('[' :: (address.text.toList ++
          (scopeText scope ++ ']' :: ':' :: Nat.toDigits 10 port.toNat))) = none :=
        Reader.ipv4_of_stops (stops_cons (by decide))
      have groups := Ipv6.ipv6_text address
        (ends_scope scope (ends_bracket (':' :: Nat.toDigits 10 port.toNat)))
      simp [text_toList_v6, Reader.socketV4, noBytes, Reader.socketV6, Reader.given, groups,
        Reader.scope_text, Reader.port_text, unlabelled]

/-! ## Hosts -/

/-- The same address, and the same scope where there is one. -/
def SameHost : SocketAddress → SocketAddress → Prop
  | .v4 address _, .v4 other _ => address = other
  | .v6 address _ _ scope, .v6 other _ _ otherScope => address = other ∧ scope = otherScope
  | _, _ => False

theorem scopeText_inj {scope other : UInt32} (same : scopeText scope = scopeText other) :
    scope = other := by
  have read := Reader.scope_text scope []
  rw [same, Reader.scope_text other []] at read
  simpa using read.symm

/-- Neither a port nor brackets have to follow for an address to be read back. -/
theorem ipv6_hostText (address : Ipv6) (scope : UInt32) :
    Reader.ipv6 (address.text.toList ++ scopeText scope) = some (address, scopeText scope) := by
  have ends := ends_scope scope ends_nil
  rw [List.append_nil] at ends
  exact Ipv6.ipv6_text address ends

theorem ipv4_hostText (address : Ipv4) :
    Reader.ipv4 address.text.toList = some (address, []) := by
  have stops : Stops 10 [] := nofun
  have read := Reader.ipv4_text address stops
  rwa [List.append_nil] at read

theorem ipv6_of_ipv4 (address : Ipv4) : Reader.ipv6 address.text.toList = none := by
  simp [Reader.ipv6, Reader.groups, Reader.separated, ipv4_hostText, Reader.pair]

/-- An address of four bytes is never written like one of eight groups. -/
theorem hostText_v4_ne_v6 (address : Ipv4) (port : UInt16) (other : Ipv6) (otherPort : UInt16)
    (flowLabel scope : UInt32) :
    (v4 address port).hostText ≠ (v6 other otherPort flowLabel scope).hostText := by
  intro same
  have read := ipv6_hostText other scope
  simp only [hostText] at same
  rw [← same, ipv6_of_ipv4] at read
  cases read

/-- Two addresses are written alike, but for their ports, exactly if they are of one host. -/
theorem hostText_inj {address other : SocketAddress} :
    address.hostText = other.hostText ↔ address.SameHost other := by
  cases address with
  | v4 address port =>
      cases other with
      | v4 other otherPort =>
          constructor
          · intro same
            have read := ipv4_hostText address
            simp only [hostText] at same
            rw [same, ipv4_hostText other] at read
            simpa [SameHost] using read.symm
          · intro same
            simp only [SameHost] at same
            simp only [hostText, same]
      | v6 other otherPort flowLabel scope =>
          exact ⟨fun same => hostText_v4_ne_v6 _ _ _ _ _ _ same, False.elim⟩
  | v6 address port flowLabel scope =>
      cases other with
      | v4 other otherPort =>
          exact ⟨fun same => hostText_v4_ne_v6 _ _ _ _ _ _ same.symm, False.elim⟩
      | v6 other otherPort otherLabel otherScope =>
          constructor
          · intro same
            have read := ipv6_hostText address scope
            simp only [hostText] at same
            rw [same, ipv6_hostText other otherScope] at read
            simp only [Option.some.injEq, Prod.mk.injEq] at read
            exact ⟨read.1.symm, scopeText_inj read.2.symm⟩
          · rintro ⟨rfl, rfl⟩
            rfl

/-- The canonical writing of the address without its port. -/
inductive CanonicalHost : SocketAddress → List Char → Prop where
  | v4 {address : Ipv4} {port : UInt16} : CanonicalHost (.v4 address port)
      (Nat.toDigits 10 address.first.toNat ++ '.' :: (Nat.toDigits 10 address.second.toNat ++
        '.' :: (Nat.toDigits 10 address.third.toNat ++
          '.' :: Nat.toDigits 10 address.fourth.toNat)))
  | v6 {address : Ipv6} {port : UInt16} {flowLabel scope : UInt32} {text : List Char} :
      address.Canonical text →
      CanonicalHost (.v6 address port flowLabel scope) (text ++ scopeText scope)

theorem canonicalHost_hostText (address : SocketAddress) :
    address.CanonicalHost address.hostText := by
  cases address with
  | v4 address port =>
      rw [hostText, Ipv4.text_toList]
      exact .v4
  | v6 address port flowLabel scope => exact .v6 address.canonical_text

@[simp]
theorem hostText_withPort (address : SocketAddress) (port : UInt16) :
    (address.withPort port).hostText = address.hostText := by
  cases address with
  | v4 _ _ => rfl
  | v6 _ _ _ _ => rfl

/-- A character of an address, or the sign before its scope. -/
def HostCharacter (character : Char) : Prop :=
  AddressCharacter character ∨ character = '%'

instance (character : Char) : Decidable (HostCharacter character) :=
  inferInstanceAs (Decidable (_ ∨ _))

theorem hostCharacter_of_scopeText (scope : UInt32) :
    ∀ character ∈ scopeText scope, HostCharacter character := by
  intro character member
  by_cases unscoped : scope = 0
  · simp [scopeText, unscoped] at member
  · rw [scopeText, if_neg unscoped, List.mem_cons] at member
    rcases member with rfl | member
    · exact .inr rfl
    · rcases exists_places (by decide : 1 < 10) scope.toNat with ⟨values, places⟩
      rw [places.written, List.mem_map] at member
      rcases member with ⟨value, inside, rfl⟩
      have below := places.below value inside
      left
      left
      rw [Reader.digit?_digitChar (Nat.le_refl 16) (by omega)]
      rfl

theorem hostCharacter_of_hostText (address : SocketAddress) :
    ∀ character ∈ address.hostText, HostCharacter character := by
  intro character member
  cases address with
  | v4 address port =>
      rcases Reader.took_of_ipv4 (ipv4_hostText address) with ⟨taken, spelled, fine⟩
      rw [List.append_nil] at spelled
      rw [hostText, spelled] at member
      exact .inl (fine character member)
  | v6 address port flowLabel scope =>
      rcases Reader.took_of_ipv6 (ipv6_hostText address scope) with ⟨taken, spelled, fine⟩
      rw [hostText, List.mem_append, List.append_cancel_right spelled] at member
      rcases member with member | member
      · exact .inl (fine character member)
      · exact hostCharacter_of_scopeText scope character member

theorem hostText_ne_nil (address : SocketAddress) : address.hostText ≠ [] := by
  intro empty
  cases address with
  | v4 address port =>
      have read := ipv4_hostText address
      rw [hostText] at empty
      rw [empty] at read
      cases read
  | v6 address port flowLabel scope =>
      have read := ipv6_hostText address scope
      rw [hostText] at empty
      rw [empty] at read
      cases read

theorem notMem_hostText {character : Char} (foreign : ¬HostCharacter character)
    (address : SocketAddress) : character ∉ address.hostText :=
  fun member => foreign (hostCharacter_of_hostText address character member)

theorem colon_notMem_v4 (address : Ipv4) : ':' ∉ address.text.toList := by
  have absent (number : Nat) : ':' ∉ Nat.toDigits 10 number :=
    Reader.notMem_toDigits (by decide) (by decide) (by decide) number
  simp [Ipv4.text_toList, absent]

end SocketAddress

end AdmissionControl.Network
