import AdmissionControl.Log
import AdmissionControl.Text.Blank

/-!
# Which events are shown

A filter is a list of directives, each a part of the program and the least important level that is
shown of it. Of the directives that fit an event the most specific one decides. Events are shown as
one line each.
-/

namespace AdmissionControl

/-- How much an event matters, as a number; the smaller, the more it does. -/
def LogLevel.rank : LogLevel → Nat
  | .error => 1
  | .warn => 2
  | .info => 3
  | .debug => 4

def LogLevel.name : LogLevel → String
  | .error => "ERROR"
  | .warn => "WARN"
  | .info => "INFO"
  | .debug => "DEBUG"

def LogValue.line : LogValue → String
  | .text value => value
  | .number value => Nat.repr value.toNat
  | .flag value => if value then "true" else "false"

def LogEvent.line (event : LogEvent) : String :=
  event.level.name ++ " " ++ event.target ++ ": " ++ event.message
    ++ String.join (event.fields.map fun field => " " ++ field.1 ++ "=" ++ field.2.line)

structure LogDirective where
  /-- The beginning of the targets that the directive is about. -/
  target : String
  /-- The largest rank that is shown. -/
  rank : Nat

structure LogFilter where
  directives : List LogDirective

namespace LogFilter

/-- The rank that the name or number of a level stands for. -/
def rank? (level : String) : Option Nat :=
  match String.ofList (level.toList.map Char.toLower) with
  | "off" => some 0
  | "error" => some 1
  | "warn" => some 2
  | "info" => some 3
  | "debug" => some 4
  | "trace" => some 5
  | "0" => some 0
  | "1" => some 1
  | "2" => some 2
  | "3" => some 3
  | "4" => some 4
  | "5" => some 5
  | _ => none

/-- The directive that a text stands for: a level for everything, or a target with a level. A target
alone is shown whole. -/
def directive? (text : String) : Option LogDirective :=
  let characters := text.toList
  let target := String.ofList (characters.takeWhile (· ≠ '='))
  match characters.dropWhile (· ≠ '=') with
  | [] =>
      match rank? text with
      | some rank => some { target := "", rank }
      | none => some { target := text, rank := 5 }
  | _ :: level => (rank? (String.ofList level)).map fun rank => { target, rank }

/-- The texts between the commas of a text, without those that are empty. -/
def parts (text : String) : List String :=
  (split text.toList).filterMap fun part =>
    if part = [] then none else some (String.ofList part)
where
  /-- The characters between commas. -/
  split : List Char → List (List Char)
    | [] => [[]]
    | character :: rest =>
        if character = ',' then [] :: split rest
        else
          match split rest with
          | [] => [[character]]
          | first :: others => (character :: first) :: others

/-- The filter that a text stands for, if all its directives make sense. -/
def ofText? (text : String) : Option LogFilter :=
  ((parts text).mapM directive?).map fun directives =>
    { directives := if directives.isEmpty then [{ target := "", rank := 1 }] else directives }

def shows (filter : LogFilter) (event : LogEvent) : Bool :=
  let fitting := filter.directives.filter fun directive =>
    directive.target.toList.isPrefixOf event.target.toList
  let deciding := fitting.foldl (fun (best : Option LogDirective) directive =>
    match best with
    | none => some directive
    | some other =>
        if other.target.length ≤ directive.target.length then some directive else some other) none
  match deciding with
  | some directive => event.level.rank ≤ directive.rank
  | none => false

end LogFilter

end AdmissionControl
