/-!
Switches of the command line. A switch has a name after two hyphens and perhaps a letter after one.
Letters can be written together; a value follows its switch, or an equals sign, or a letter.
-/

namespace Etl.CommandLine

inductive Switch where
  | verbose
  | config
  | target
  | output
  | check
  | category
  | help
  | version
deriving DecidableEq, Repr

namespace Switch

def name : Switch → String
  | verbose => "verbose"
  | config => "config"
  | target => "target"
  | output => "output"
  | check => "check"
  | category => "category"
  | help => "help"
  | version => "version"

def letter? : Switch → Option Char
  | verbose => some 'v'
  | config => some 'c'
  | target => some 't'
  | output => some 'o'
  | help => some 'h'
  | version => some 'V'
  | check | category => none

def takesValue : Switch → Bool
  | config | target | output | category => true
  | _ => false

end Switch

/-- What the arguments say, one thing after the other. -/
inductive Word where
  | flag (s : Switch)
  | value (s : Switch) (text : String)
  | plain (text : String)
  /-- The name of a command and the arguments after it. -/
  | command (name : String) (arguments : List String)
  /-- Something that is not understood; nothing after it counts. -/
  | bad
deriving DecidableEq

/-- The words of one argument, and a switch that waits for its value. -/
abbrev Reading := List Word × Option Switch

namespace Reading

/-- Reads a name after two hyphens. -/
def ofName (switches : List Switch) (cs : List Char) : Reading :=
  let (name, value) := cs.span (· ≠ '=')
  match switches.find? fun s => s.name == String.ofList name with
  | none => ([.bad], none)
  | some s =>
    match value, s.takesValue with
    | [], true => ([], some s)
    | [], false => ([.flag s], none)
    | _ :: value, true => ([.value s (String.ofList value)], none)
    | _ :: _, false => ([.bad], none)

/-- Reads letters after one hyphen. -/
def ofLetters (switches : List Switch) : List Char → Reading
  | [] => ([], none)
  | c :: cs =>
    match switches.find? fun s => s.letter? == some c with
    | none => ([.bad], none)
    | some s =>
      if s.takesValue then
        match cs with
        | [] => ([], some s)
        | '=' :: value => ([.value s (String.ofList value)], none)
        | value => ([.value s (String.ofList value)], none)
      else
        let (words, waiting) := ofLetters switches cs
        (.flag s :: words, waiting)

end Reading

/-- Whether an argument is written like a switch. A single hyphen is not. -/
def looksLikeSwitch (argument : String) : Bool :=
  match argument.toList with
  | '-' :: _ :: _ => true
  | _ => false

/-- The words of all arguments. After two hyphens alone there are no more switches. Where a command
is expected, the first plain argument names it and the rest belong to it. -/
def words (switches : List Switch) (expectsCommand : Bool) : List String → List Word
  | [] => []
  | argument :: rest =>
    let reading : Option Reading := match argument.toList with
      | ['-', '-'] | ['-'] => none
      | '-' :: '-' :: cs => some (.ofName switches cs)
      | '-' :: cs => some (.ofLetters switches cs)
      | _ => none
    match reading with
    | some (found, none) => found ++ words switches expectsCommand rest
    | some (found, some s) =>
      match rest with
      | [] => found ++ [.bad]
      | value :: rest =>
        if looksLikeSwitch value then found ++ [.bad]
        else found ++ .value s value :: words switches expectsCommand rest
    | none =>
      if argument = "--" then rest.map fun text => if expectsCommand then .bad else .plain text
      else if expectsCommand then [.command argument rest]
      else .plain argument :: words switches expectsCommand rest

end Etl.CommandLine
