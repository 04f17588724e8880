import AdmissionControl.Time

/-!
# Commands to the remote store

What a client may send to the store, and the words that it sends for it.
-/

namespace AdmissionControl.Remote

inductive Command where
  /-- Give a key a value, only if it has none where that is asked for, and let it vanish after a
  lifetime in milliseconds. -/
  | set (key value : String) (onlyIfAbsent : Bool) (lifetime : UInt64)
  | increment (key : String)
  /-- Count the given key. -/
  | present (key : String)
  | delete (key : String)
  | ping
  /-- Queue the commands that follow. -/
  | begin
  /-- Carry out the queued commands together. -/
  | execute
  /-- Show a password, perhaps for a user. -/
  | authenticate (user : Option String) (password : String)
  | select (database : Int)
deriving DecidableEq

def Command.words : Command → List String
  | .set key value onlyIfAbsent lifetime =>
      ["SET", key, value] ++ (if onlyIfAbsent then ["NX"] else [])
        ++ ["PX", Nat.repr lifetime.toNat]
  | .increment key => ["INCR", key]
  | .present key => ["EXISTS", key]
  | .delete key => ["DEL", key]
  | .ping => ["PING"]
  | .begin => ["MULTI"]
  | .execute => ["EXEC"]
  | .authenticate none password => ["AUTH", password]
  | .authenticate (some user) password => ["AUTH", user, password]
  | .select database => ["SELECT", toString database]

/-- A length of time as the store is told it: whole milliseconds in 64 bits, and at least one,
because the store refuses a lifetime of zero. It refuses one that does not fit 63 bits as well, and
that is not seen to. -/
def lifetime (span : Duration) : UInt64 :=
  let milliseconds := UInt64.ofNat span.milliseconds
  if milliseconds = 0 then 1 else milliseconds

end AdmissionControl.Remote
