import AdmissionControl.Text.Blank

/-!
# Environment files

A file of variables, one `NAME=value` a line, with comments after `#`. A value may be quoted, in
single quotes literally and in double quotes with escapes; `$NAME` and `${NAME}` stand for variables
that are set already. A variable that is set keeps its value. The file is read up to the first line
that makes no sense.
-/

namespace AdmissionControl.EnvironmentFile

/-- What variables are set to. -/
abbrev Variables := String → Option String

/-- The variables with one more, unless it is set already. -/
def setIfAbsent (environment : Variables) (name value : String) : Variables := fun other =>
  match environment other with
  | some earlier => some earlier
  | none => if other = name then some value else none

/-- Where the reader of a value stands. -/
inductive Mode where
  | plain
  | single
  | double
  /-- After a backslash; in double quotes or not. -/
  | escaped (inDouble : Bool)
  /-- After a blank that ended the value. -/
  | ending
  /-- In the name after a dollar sign, the name so far in reverse. -/
  | name (inDouble : Bool) (reversed : List Char)
  /-- In a name in braces, the name so far in reverse. -/
  | bracedName (inDouble : Bool) (reversed : List Char)

def Mode.outside (inDouble : Bool) : Mode :=
  if inDouble then .double else .plain

/-- What a name in reverse stands for. -/
def substitute (environment : Variables) (reversed : List Char) : List Char :=
  ((environment (String.ofList reversed.reverse)).getD "").toList

def escape? : Char → Option Char
  | '\\' => some '\\'
  | '\'' => some '\''
  | '"' => some '"'
  | '$' => some '$'
  | ' ' => some ' '
  | 'n' => some '\n'
  | _ => none

def valueFrom (environment : Variables) : Mode → List Char → Option (List Char)
  | .plain, [] => some []
  | .ending, [] => some []
  | .escaped _, [] => some []
  | .name false reversed, [] => some (substitute environment reversed)
  | .name true _, [] => none
  | .single, [] => none
  | .double, [] => none
  | .bracedName _ _, [] => none
  | .ending, character :: rest =>
      if character = ' ' ∨ character = '\t' then valueFrom environment .ending rest
      else if character = '#' then some []
      else none
  | .escaped inDouble, character :: rest =>
      match escape? character with
      | some meant => (valueFrom environment (.outside inDouble) rest).map (meant :: ·)
      | none => none
  | .single, character :: rest =>
      if character = '\'' then valueFrom environment .plain rest
      else (valueFrom environment .single rest).map (character :: ·)
  | .name inDouble reversed, character :: rest =>
      if character.isAlphanum then
        valueFrom environment (.name inDouble (character :: reversed)) rest
      else if character = '\x7b' ∧ reversed = [] then
        valueFrom environment (.bracedName inDouble []) rest
      else if character = '$' then
        (valueFrom environment (.name inDouble []) rest).map (substitute environment reversed ++ ·)
      else
        (valueFrom environment (.outside inDouble) rest).map
          (substitute environment reversed ++ character :: ·)
  | .bracedName inDouble reversed, character :: rest =>
      if character = '\x7d' then
        (valueFrom environment (.outside inDouble) rest).map (substitute environment reversed ++ ·)
      else valueFrom environment (.bracedName inDouble (character :: reversed)) rest
  | .double, character :: rest =>
      if character = '$' then valueFrom environment (.name true []) rest
      else if character = '"' then valueFrom environment .plain rest
      else if character = '\\' then valueFrom environment (.escaped true) rest
      else (valueFrom environment .double rest).map (character :: ·)
  | .plain, character :: rest =>
      if character = '$' then valueFrom environment (.name false []) rest
      else if character = '\'' then valueFrom environment .single rest
      else if character = '"' then valueFrom environment .double rest
      else if character = '\\' then valueFrom environment (.escaped false) rest
      else if character = ' ' ∨ character = '\t' then valueFrom environment .ending rest
      else (valueFrom environment .plain rest).map (character :: ·)

def isNameCharacter (character : Char) : Bool :=
  character.isAlphanum || character == '_' || character == '.'

/-- The name at the start of a line, and the rest without blanks before it. -/
def name? (line : List Char) : Option (String × List Char) :=
  match line with
  | [] => none
  | first :: _ =>
      if first.isAlpha || first == '_' then
        some (String.ofList (line.takeWhile isNameCharacter),
          (line.dropWhile isNameCharacter).dropWhile Text.isBlank)
      else none

/-- What a line without blanks around it sets, if anything; nothing where it makes no sense. -/
def line? (environment : Variables) (line : List Char) : Option (Option (String × String)) := do
  if line.isEmpty ∨ line.head? = some '#' then return none
  let (name, rest) ← name? line
  let (name, rest) ←
    if name = "export" ∧ rest.head? ≠ some '=' then name? rest else some (name, rest)
  match rest with
  | '=' :: rest =>
      let rest := rest.dropWhile Text.isBlank
      if rest.isEmpty ∨ rest.head? = some '#' then return some (name, "")
      let value ← valueFrom environment .plain rest
      return some (name, String.ofList value)
  | _ => none

def loadLines (environment : Variables) : List (List Char) → Variables
  | [] => environment
  | line :: rest =>
      match line? environment (Text.trimmed line) with
      | none => environment
      | some none => loadLines environment rest
      | some (some (name, value)) => loadLines (setIfAbsent environment name value) rest

def lines : List Char → List (List Char)
  | [] => [[]]
  | character :: rest =>
      if character = '\n' then [] :: lines rest
      else
        match lines rest with
        | [] => [[character]]
        | line :: others => (character :: line) :: others

def load (environment : Variables) (text : String) : Variables :=
  loadLines environment (lines text.toList)

end AdmissionControl.EnvironmentFile
