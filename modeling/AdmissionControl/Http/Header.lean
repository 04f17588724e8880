/-!
# Headers of a request

A header has a name, in which case does not matter, and a value of bytes. A value is text if all its
bytes are visible ASCII characters, spaces or tabs. Of several headers with one name the first
counts.
-/

namespace AdmissionControl.Http

structure Header where
  name : String
  value : List UInt8
deriving DecidableEq

namespace Header

/-- A name with its ASCII letters in lower case. -/
def foldCase (name : String) : String :=
  String.ofList (name.toList.map Char.toLower)

def first? (name : String) (headers : List Header) : Option (List UInt8) :=
  (headers.find? fun header => foldCase header.name = foldCase name).map (·.value)

/-- Whether a byte is a visible ASCII character, a space or a tab. -/
def isTextByte (byte : UInt8) : Bool :=
  (0x20 ≤ byte && byte < 0x7f) || byte == 0x09

def characters? (value : List UInt8) : Option (List Char) :=
  if value.all isTextByte then some (value.map fun byte => Char.ofNat byte.toNat) else none

/-- The characters of the first header with a name, if it is text. -/
def firstText? (name : String) (headers : List Header) : Option (List Char) :=
  (first? name headers).bind characters?

end Header

end AdmissionControl.Http
