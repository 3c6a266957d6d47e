/-!
Command-line arguments. A command has rules for its options, each with a long name and perhaps a
letter, and `Argument.readAll` says of every argument what it is: an option without a value, an
option with its value, an operand, or something that fits no rule. An option's value stands in the
same argument or in the next one; arguments behind `--` are operands whatever they look like.
-/

set_option autoImplicit false
set_option relaxedAutoImplicit false

namespace BootNote.Command

/-- An option that a command has. -/
structure Rule where
  name : String
  letter : Option Char := none
  takesValue : Bool := false
  deriving DecidableEq, Repr

/-- What an argument, or a part of one, says. -/
inductive Argument where
  | flag (name : String)
  | value (name value : String)
  | operand (text : String)
  /-- There is no such option, or a value is missing or out of place. -/
  | malformed
  deriving DecidableEq, Repr

namespace Argument

/-- What one argument says, and the option at its end that still needs a value. -/
structure Reading where
  said : List Argument
  awaiting : Option String := none
  deriving DecidableEq, Repr

/-- Reads an option by its long name, with the text behind it. -/
def readLong (rules : List Rule) (name : String) (behind : Option String) : Reading :=
  match rules.find? (·.name == name), behind with
  | none, _ => { said := [malformed] }
  | some rule, some text =>
    { said := [if rule.takesValue then value name text else malformed] }
  | some rule, none =>
    if rule.takesValue then { said := [], awaiting := some name } else { said := [flag name] }

/-- Reads options by their letters. The first one that takes a value takes the rest of the text, in
front of which an equals sign may stand. -/
def readLetters (rules : List Rule) : List Char → Reading
  | [] => { said := [] }
  | letter :: rest =>
    match rules.find? (·.letter == some letter) with
    | none => { said := [malformed] }
    | some rule =>
      if rule.takesValue then
        match rest with
        | [] => { said := [], awaiting := some rule.name }
        | '=' :: text => { said := [value rule.name (String.ofList text)] }
        | text => { said := [value rule.name (String.ofList text)] }
      else
        let behind := readLetters rules rest
        { behind with said := flag rule.name :: behind.said }

/-- Reads one argument. A dash alone is an operand. -/
def read (rules : List Rule) (text : String) : Reading :=
  match text.toList with
  | '-' :: '-' :: chars =>
    let name := String.ofList (chars.takeWhile (· != '='))
    match chars.dropWhile (· != '=') with
    | [] => readLong rules name none
    | _ :: behind => readLong rules name (some (String.ofList behind))
  | '-' :: letter :: rest => readLetters rules (letter :: rest)
  | _ => { said := [operand text] }

/-- Whether an argument can be the value of the option in front of it. -/
def isValue (text : String) : Bool := text == "-" || text.toList.head? != some '-'

/-- Reads all arguments of a command, in order. -/
def readAll (rules : List Rule) : List String → List Argument
  | [] => []
  | "--" :: operands => operands.map operand
  | text :: rest =>
    let reading := read rules text
    match reading.awaiting, rest with
    | none, rest => reading.said ++ readAll rules rest
    | some name, text :: rest =>
      if isValue text then reading.said ++ value name text :: readAll rules rest
      else reading.said ++ [malformed]
    | some _, [] => reading.said ++ [malformed]

end Argument

end BootNote.Command
