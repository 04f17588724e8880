import AdmissionControl.Network.Address

/-!
# Reading the addresses of sockets

The grammar of socket addresses: `a.b.c.d:port` with decimal bytes that have no leading zeros, or
`[groups%scope]:port` with up to four hexadecimal digits a group, where `::` stands for one or more
zero groups, the last two groups may be written as four bytes, and the scope may be left out.

A reader takes a beginning of the text and gives the rest back.
-/

namespace AdmissionControl.Network

/-- A reader takes a beginning of a text, or fails. -/
abbrev Reader (α : Type) := List Char → Option (α × List Char)

namespace Reader

/-- The value of a digit in a base of at most sixteen. -/
def digit? (base : Nat) (character : Char) : Option Nat :=
  let value? :=
    if '0' ≤ character ∧ character ≤ '9' then some (character.toNat - '0'.toNat)
    else if 'a' ≤ character ∧ character ≤ 'f' then some (character.toNat - 'a'.toNat + 10)
    else if 'A' ≤ character ∧ character ≤ 'F' then some (character.toNat - 'A'.toNat + 10)
    else none
  value?.filter (· < base)

def given (expected : Char) : Reader Unit
  | [] => none
  | character :: rest => if character = expected then some ((), rest) else none

/-- The beginning of a text that consists of digits, and the rest. -/
def digits (base : Nat) : List Char → List Nat × List Char
  | [] => ([], [])
  | character :: rest =>
      match digit? base character with
      | none => ([], character :: rest)
      | some value =>
          let (values, after) := digits base rest
          (value :: values, after)

/-- Reads a number of at most `most` digits, if that is given, and at most `limit` in value. All
digits that follow belong to the number. -/
def number (base : Nat) (most : Option Nat) (leadingZeros : Bool) (limit : Nat) : Reader Nat :=
  fun text =>
    let (values, rest) := digits base text
    let value := values.foldl (fun sum digit => sum * base + digit) 0
    let short := most.all fun bound => values.length ≤ bound
    let plain := leadingZeros || values.length ≤ 1 || values.head? ≠ some 0
    if values ≠ [] ∧ short ∧ plain ∧ value ≤ limit then some (value, rest) else none

/-- Reads a decimal number of one byte without leading zeros. -/
def byte : Reader UInt8 := fun text =>
  (number 10 (some 3) false 255 text).map fun (value, rest) => (UInt8.ofNat value, rest)

def ipv4 : Reader Ipv4 := fun text => do
  let (first, text) ← byte text
  let (_, text) ← given '.' text
  let (second, text) ← byte text
  let (_, text) ← given '.' text
  let (third, text) ← byte text
  let (_, text) ← given '.' text
  let (fourth, text) ← byte text
  some (⟨first, second, third, fourth⟩, text)

def group : Reader UInt16 := fun text =>
  (number 16 (some 4) true 65535 text).map fun (value, rest) => (UInt16.ofNat value, rest)

/-- Reads something that has a colon before it unless it comes first. -/
def separated {α : Type} (comesFirst : Bool) (reader : Reader α) : Reader α := fun text =>
  if comesFirst then reader text
  else (given ':' text).bind fun (_, rest) => reader rest

def pair (address : Ipv4) : List UInt16 :=
  [address.first.toUInt16 <<< 8 ||| address.second.toUInt16,
    address.third.toUInt16 <<< 8 ||| address.fourth.toUInt16]

/-- Reads as many groups as there are, up to a number; two of them may be written as four bytes,
which ends the groups. Says also whether it did so. -/
def groups : Nat → Bool → List Char → (List UInt16 × Bool) × List Char
  | 0, _, text => (([], false), text)
  | slots + 1, comesFirst, text =>
      match if slots = 0 then none else separated comesFirst ipv4 text with
      | some (address, rest) => ((pair address, true), rest)
      | none =>
          match separated comesFirst group text with
          | some (value, rest) =>
              let ((values, bytes), after) := groups slots false rest
              ((value :: values, bytes), after)
          | none => (([], false), text)

/-- Reads eight groups, some of which `::` may stand for. -/
def ipv6 : Reader Ipv6 := fun text =>
  let ((front, bytes), rest) := groups 8 true text
  if full : front.length = 8 then some (⟨front, full⟩, rest)
  else if bytes then none
  else do
    let (_, rest) ← given ':' rest
    let (_, rest) ← given ':' rest
    let ((back, _), rest) := groups (8 - (front.length + 1)) true rest
    let all := front ++ List.replicate (8 - front.length - back.length) 0 ++ back
    if full : all.length = 8 then some (⟨all, full⟩, rest) else none

def port : Reader UInt16 := fun text => do
  let (_, text) ← given ':' text
  let (value, text) ← number 10 none true 65535 text
  some (UInt16.ofNat value, text)

/-- Reads a scope after a percent sign; without one the scope is zero. -/
def scope : Reader UInt32 := fun text =>
  match text with
  | '%' :: rest =>
      match number 10 none true (UInt32.size - 1) rest with
      | some (value, after) => some (UInt32.ofNat value, after)
      | none => some (0, text)
  | _ => some (0, text)

def socketV4 : Reader SocketAddress := fun text => do
  let (address, text) ← ipv4 text
  let (port, text) ← port text
  some (.v4 address port, text)

def socketV6 : Reader SocketAddress := fun text => do
  let (_, text) ← given '[' text
  let (address, text) ← ipv6 text
  let (scope, text) ← scope text
  let (_, text) ← given ']' text
  let (port, text) ← port text
  some (.v6 address port 0 scope, text)

end Reader

def SocketAddress.ofText? (text : String) : Option SocketAddress :=
  match (Reader.socketV4 text.toList).or (Reader.socketV6 text.toList) with
  | some (address, []) => some address
  | _ => none

end AdmissionControl.Network
