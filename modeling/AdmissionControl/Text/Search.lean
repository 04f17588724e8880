/-!
# Searching texts

Whether a text occurs within another.
-/

namespace AdmissionControl.Text

def startsWith (phrase text : List Char) : Bool :=
  phrase.isPrefixOf text

def occurs (phrase : List Char) : List Char → Bool
  | [] => startsWith phrase []
  | character :: rest => startsWith phrase (character :: rest) || occurs phrase rest

theorem occurs_iff {phrase text : List Char} : occurs phrase text = true ↔ phrase <:+: text := by
  induction text with
  | nil => simp [occurs, startsWith]
  | cons character rest inductionHypothesis =>
      rw [occurs, Bool.or_eq_true, inductionHypothesis, startsWith, List.isPrefixOf_iff_prefix,
        List.infix_cons_iff]

end AdmissionControl.Text
