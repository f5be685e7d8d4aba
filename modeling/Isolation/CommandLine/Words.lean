/-!
# The words of a command line

A command line is a list of words. A word that begins with a dash stands for options; an option may
take a value, which is attached to it or is the next word. All other words are arguments, and so is
every word after a separator. Reading stops at the first word that has no place.

## Main definitions

* `Word` — what a word looks like
* `Switch`, `Rules` — the options that a command knows, and what its arguments may be
* `Reading.step`, `Rules.read` — reading one word, and all of them
-/

namespace Isolation.CommandLine

/-- What a word looks like. -/
inductive Word
  | plain (text : String)
  | separator
  | long (name : String) (attached : Option String)
  | short (letters : List Char)
  deriving DecidableEq, Repr

/-- A long option is taken apart at its first equals sign. A single dash is a plain word. -/
def Word.ofString (word : String) : Word :=
  match word.toList with
  | ['-', '-'] => separator
  | '-' :: '-' :: rest =>
    long (String.ofList (rest.takeWhile (· ≠ '='))) <|
      match rest.dropWhile (· ≠ '=') with
      | [] => none
      | _ :: value => some (String.ofList value)
  | '-' :: letter :: letters => short (letter :: letters)
  | _ => plain word

/-- What a value or an argument may be: any text, or a path, which is never empty. -/
inductive Operand
  | text
  | path
  deriving DecidableEq, Repr

/-- Whether a text will do. -/
def Operand.admits : Operand → String → Bool
  | text, _ => true
  | path, value => value ≠ ""

/-- Why a command line is read no further: it makes no sense, or something was asked for that needs
nothing else. -/
inductive Stop
  | misuse
  | help
  | version
  deriving DecidableEq, Repr

/-- An option: its name and perhaps a letter, the value that it takes, whether it may be given
again, and whether reading stops there. -/
structure Switch where
  name : String
  letter : Option Char := none
  operand : Option Operand := none
  repeatable : Bool := false
  stop : Option Stop := none
  deriving DecidableEq, Repr

/-- The options that a command knows, and what its arguments may be. -/
structure Rules where
  switches : List Switch
  arguments : Operand

namespace Rules

/-- The option of a name. -/
def named? (rules : Rules) (name : String) : Option Switch :=
  rules.switches.find? fun switch => switch.name = name

/-- The option of a letter. -/
def lettered? (rules : Rules) (letter : Char) : Option Switch :=
  rules.switches.find? fun switch => switch.letter = some letter

end Rules

/-- A part of a command line: an option, with an empty text if it takes no value, or an argument. -/
inductive Piece
  | switch (name value : String)
  | argument (text : String)
  deriving DecidableEq, Repr

/-- What was read so far, the option whose value is to come, and whether only arguments follow. -/
structure Reading where
  pieces : List Piece := []
  awaiting : Option Switch := none
  onlyArguments : Bool := false

namespace Reading

/-- Whether an option was given. -/
def gave (reading : Reading) (name : String) : Bool :=
  reading.pieces.any fun piece =>
    match piece with
    | .switch other _ => other = name
    | .argument _ => false

/-- The values of an option, in order. -/
def values (reading : Reading) (name : String) : List String :=
  reading.pieces.filterMap fun piece =>
    match piece with
    | .switch other value => if other = name then some value else none
    | .argument _ => none

/-- The arguments, in order. -/
def arguments (reading : Reading) : List String :=
  reading.pieces.filterMap fun piece =>
    match piece with
    | .switch _ _ => none
    | .argument text => some text

/-- Adds a part. -/
def add (reading : Reading) (piece : Piece) : Reading :=
  { reading with pieces := reading.pieces ++ [piece], awaiting := none }

/-- Adds an option with its value, which may be given once only unless it is repeatable. -/
def addSwitch (reading : Reading) (switch : Switch) (value : String) : Except Stop Reading :=
  if (switch.operand.all fun operand => operand.admits value) &&
      (switch.repeatable || !reading.gave switch.name) then
    .ok (reading.add (.switch switch.name value))
  else .error .misuse

/-- Adds an option that takes no value. -/
def addFlag (reading : Reading) (switch : Switch) : Except Stop Reading :=
  match switch.stop with
  | some stop => .error stop
  | none => reading.addSwitch switch ""

/-- Adds an argument. -/
def addArgument (rules : Rules) (reading : Reading) (text : String) : Except Stop Reading :=
  if rules.arguments.admits text then .ok (reading.add (.argument text)) else .error .misuse

/-- Reads an option by its name. -/
def readLong (rules : Rules) (reading : Reading) (name : String) (attached : Option String) :
    Except Stop Reading :=
  match rules.named? name with
  | none => .error .misuse
  | some switch =>
    match switch.operand, attached with
    | some _, some value => reading.addSwitch switch value
    | some _, none => .ok { reading with awaiting := some switch }
    | none, some _ => .error .misuse
    | none, none => reading.addFlag switch

/-- Reads options by their letters. What follows the letter of an option that takes a value is the
value, with or without an equals sign. -/
def readLetters (rules : Rules) (reading : Reading) : List Char → Except Stop Reading
  | [] => .ok reading
  | letter :: letters =>
    match rules.lettered? letter with
    | none => .error .misuse
    | some switch =>
      match switch.operand, letters with
      | none, letters =>
        match reading.addFlag switch with
        | .ok reading => reading.readLetters rules letters
        | .error stop => .error stop
      | some _, [] => .ok { reading with awaiting := some switch }
      | some _, '=' :: value => reading.addSwitch switch (String.ofList value)
      | some _, value => reading.addSwitch switch (String.ofList value)

/-- Reads one word. An option that still needs its value takes no word that begins with a dash. -/
def step (rules : Rules) (reading : Reading) (word : String) : Except Stop Reading :=
  if reading.onlyArguments then reading.addArgument rules word
  else
    match reading.awaiting, Word.ofString word with
    | some switch, .plain value => reading.addSwitch switch value
    | some _, _ => .error .misuse
    | none, .plain text => reading.addArgument rules text
    | none, .separator => .ok { reading with onlyArguments := true }
    | none, .long name attached => reading.readLong rules name attached
    | none, .short letters => reading.readLetters rules letters

end Reading

/-- Reads all words of a command. -/
def Rules.read (rules : Rules) (words : List String) : Except Stop Reading :=
  match words.foldlM (Reading.step rules) {} with
  | .ok reading => if reading.awaiting.isSome then .error .misuse else .ok reading
  | .error stop => .error stop

end Isolation.CommandLine
