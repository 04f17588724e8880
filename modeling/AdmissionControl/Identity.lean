/-!
# Identities

What a request is counted under: the API token its client sent, or else the address it came from.
The two are kept apart, so a token and an address of the same spelling are different identities.
-/

namespace AdmissionControl

/-- What a request is counted under. -/
inductive Identity where
  | ip (address : String)
  | token (key : String)
deriving DecidableEq

namespace Identity

/-- The identity of a request: a token that is not empty wins over the address, and the two are
never combined. -/
def resolve (address key : String) : Identity :=
  if key = "" then .ip address else .token key

def kind : Identity → String
  | .ip _ => "ip"
  | .token _ => "token"

def value : Identity → String
  | .ip address => address
  | .token key => key

/-- An identity in writing: its kind, a colon and its value. -/
def text (identity : Identity) : String :=
  identity.kind ++ ":" ++ identity.value

@[simp]
theorem resolve_empty (address : String) : resolve address "" = .ip address := rfl

theorem resolve_of_ne_empty {key : String} (present : key ≠ "") (address : String) :
    resolve address key = .token key := by
  simp [resolve, present]

/-- An identity can be told from its writing, whatever its value holds. -/
theorem text_inj {left right : Identity} : left.text = right.text ↔ left = right := by
  constructor
  · intro same
    cases left with
    | ip address =>
        cases right with
        | ip other => simpa [text, kind, value, String.append_right_inj] using same
        | token key =>
            have spelt := congrArg String.toList same
            simp [text, kind] at spelt
    | token key =>
        cases right with
        | ip address =>
            have spelt := congrArg String.toList same
            simp [text, kind] at spelt
        | token other => simpa [text, kind, value, String.append_right_inj] using same
  · rintro rfl
    rfl

end Identity

end AdmissionControl
