import AdmissionControl.Fault
import AdmissionControl.Text.Blank
import AdmissionControl.Text.Search

/-!
# Addresses of the store

The store is addressed by a URL. A bare host with a port is short for a URL of the scheme `redis`,
and blanks around an address do not belong to it.
-/

namespace AdmissionControl.StoreAddress

/-- What stands between the scheme of a URL and the rest. -/
def schemeEnd : List Char := "://".toList

def normalize (address : String) : String :=
  let trimmed := Text.trim address
  if Text.occurs schemeEnd trimmed.toList then trimmed else "redis://" ++ trimmed

def validate (url : String) : Except Fault Unit :=
  let rest? :=
    ("redis://".toList.isPrefixOf? url.toList).or ("rediss://".toList.isPrefixOf? url.toList)
  match rest? with
  | none =>
      .error (.configuration "Store URL must start with 'redis://' or 'rediss://'")
  | some [] => .error (.configuration "Store URL is missing a host")
  | some (_ :: _) => .ok ()

end AdmissionControl.StoreAddress
