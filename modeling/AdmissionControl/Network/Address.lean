/-!
# Internet addresses

Addresses of four bytes and of eight groups, and the addresses of sockets, which add a port. Their
canonical text is `SocketAddress.text`: an address of eight groups is written in lower case, without
leading zeros, and with the first of its longest runs of at least two zero groups left out.
-/

namespace AdmissionControl.Network

/-- An address of four bytes. -/
structure Ipv4 where
  first : UInt8
  second : UInt8
  third : UInt8
  fourth : UInt8
deriving DecidableEq

/-- An address of eight groups of two bytes. -/
structure Ipv6 where
  groups : List UInt16
  eight : groups.length = 8
deriving DecidableEq

/-- The address of a socket. -/
inductive SocketAddress where
  | v4 (address : Ipv4) (port : UInt16)
  | v6 (address : Ipv6) (port : UInt16) (flowLabel scope : UInt32)
deriving DecidableEq

def Ipv4.text (address : Ipv4) : String :=
  Nat.repr address.first.toNat ++ "." ++ Nat.repr address.second.toNat ++ "."
    ++ Nat.repr address.third.toNat ++ "." ++ Nat.repr address.fourth.toNat

namespace Ipv6

def groupsText (groups : List UInt16) : String :=
  ":".intercalate (groups.map fun group => String.ofList (Nat.toDigits 16 group.toNat))

/-- The start and the length of the first longest run of zero groups. -/
def longestZeroRun : List UInt16 → Nat × Nat
  | [] => (0, 0)
  | group :: rest =>
      let (start, length) := longestZeroRun rest
      let here := ((group :: rest).takeWhile (· = 0)).length
      if length ≤ here then (0, here) else (start + 1, length)

/-- The four bytes in an address that stands for one of the shorter kind. -/
def embedded? (address : Ipv6) : Option Ipv4 :=
  match address.groups with
  | [0, 0, 0, 0, 0, 0xffff, high, low] =>
      some ⟨(high >>> 8).toUInt8, high.toUInt8, (low >>> 8).toUInt8, low.toUInt8⟩
  | _ => none

def text (address : Ipv6) : String :=
  match address.embedded? with
  | some inner => "::ffff:" ++ inner.text
  | none =>
      let (start, length) := longestZeroRun address.groups
      if 2 ≤ length then
        groupsText (address.groups.take start) ++ "::"
          ++ groupsText (address.groups.drop (start + length))
      else
        groupsText address.groups

end Ipv6

/-- The address of a socket in writing. The scope is left out where it is zero, the flow label
always. -/
def SocketAddress.text : SocketAddress → String
  | .v4 address port => address.text ++ ":" ++ Nat.repr port.toNat
  | .v6 address port _ scope =>
      if scope = 0 then "[" ++ address.text ++ "]:" ++ Nat.repr port.toNat
      else
        "[" ++ address.text ++ "%" ++ Nat.repr scope.toNat ++ "]:" ++ Nat.repr port.toNat

end AdmissionControl.Network
