import AdmissionControl.Text.Quoted

/-!
# Replies of the remote store

A reply is what the store sends for one command; a reply may be an error, or hold one at any depth.
A value is a reply without an error. `Reply.read` (in the module on faults) turns the one into the
other.
-/

namespace AdmissionControl.Remote

/-- What the store sends for one command. -/
inductive Reply where
  | nil
  | integer (value : Int)
  | bulk (bytes : ByteArray)
  | status (text : String)
  | array (items : List Reply)
  | error (line : String)
deriving Inhabited

/-- A reply that holds no error. The status `OK` is a value of its own. -/
inductive Value where
  | nil
  | integer (value : Int)
  | bulk (bytes : ByteArray)
  | list (items : List Value)
  | okay
  | status (text : String)

namespace Value

mutual

/-- A value in a message. Bytes are shown as text where they are UTF-8. -/
def text : Value → String
  | .nil => "nil"
  | .integer value => "int(" ++ toString value ++ ")"
  | .bulk bytes =>
      match String.fromUTF8? bytes with
      | some content => "string-data('" ++ Text.Quoted.quoted content ++ "')"
      | none => "binary-data([" ++ ", ".intercalate (bytes.toList.map fun byte =>
          Nat.repr byte.toNat) ++ "])"
  | .list items => "bulk(" ++ ", ".intercalate (texts items) ++ ")"
  | .okay => "ok"
  | .status content => "status(" ++ Text.Quoted.quoted content ++ ")"

def texts : List Value → List String
  | [] => []
  | value :: rest => value.text :: texts rest

end

end Value

end AdmissionControl.Remote
