import ClusterAgent.Net.Socket
import ClusterAgent.Text.Lines
namespace ClusterAgent
namespace Cli

/-! ## Arguments -/

/-- What a value must look like. -/
inductive Form
  | text
  | path
  | socket
  | number (least greatest : Nat)
  | choice (names : List String)
  deriving DecidableEq, Repr

/-- An option with a value, or an argument without a name, and the environment variable that
stands in for it, if there is one. -/
structure Argument where
  name : String
  form : Form
  environmentName : Option String
  deriving DecidableEq, Repr

/-- What one command accepts. -/
structure Level where
  options : List Argument
  flags : List String
  positional : Option Argument
  required : List String
  commands : List String
  hasVersion : Bool
  deriving Repr

/-- Why a command line is not carried out. -/
inductive Error
  | valueValidation
  | invalidValue
  | unknownArgument
  | missingRequiredArgument
  | invalidSubcommand
  | argumentConflict
  | tooManyValues
  | displayHelp
  | displayVersion
  deriving DecidableEq, Repr

def Error.name : Error → String
  | .valueValidation => "ValueValidation"
  | .invalidValue => "InvalidValue"
  | .unknownArgument => "UnknownArgument"
  | .missingRequiredArgument => "MissingRequiredArgument"
  | .invalidSubcommand => "InvalidSubcommand"
  | .argumentConflict => "ArgumentConflict"
  | .tooManyValues => "TooManyValues"
  | .displayHelp => "DisplayHelp"
  | .displayVersion => "DisplayVersion"

def readNumber (text : String) : Option Nat :=
  (Text.readUnsigned 10 UInt64.size text.toList).toOption

/-- Whether a value looks as it must. -/
def Form.check (form : Form) (value : String) : Except Error Unit :=
  match form with
  | .text => .ok ()
  | .path => if value.isEmpty then .error .invalidValue else .ok ()
  | .socket =>
      match SocketAddress.ofText? value with
      | some _ => .ok ()
      | none => .error .valueValidation
  | .number least greatest =>
      match readNumber value with
      | some found =>
          if least ≤ found ∧ found ≤ greatest then .ok () else .error .valueValidation
      | none => .error .valueValidation
  | .choice names => if value ∈ names then .ok () else .error .invalidValue

/-! ## Reading a level -/

/-- Values by the names of their arguments. -/
abbrev Values := List (String × String)

/-- An argument whose value has not been looked at, and the value unless it is still to
come. -/
structure Pending where
  argument : Argument
  value : Option String

/-- Takes up a value. An argument is given at most once. -/
def store (values : Values) (argument : Argument) (value : String) : Except Error Values :=
  if (values.lookup argument.name).isSome then .error .argumentConflict
  else (argument.form.check value).map fun _ => values ++ [(argument.name, value)]

/-- Looks at the pending value, which must be there. -/
def settle (values : Values) : Option Pending → Except Error Values
  | none => .ok values
  | some pending =>
      match pending.value with
      | none => .error .invalidValue
      | some value => store values pending.argument value

/-- What was read at a level: the values, the pending one, and the command with which the next
level begins. -/
structure Outcome where
  values : Values
  pending : Option Pending
  command : Option (String × List String)

/-- A name after two dashes, and the value after an equals sign. -/
def splitLong (text : List Char) : String × Option String :=
  match Text.splitOnce '=' text with
  | some (name, value) => (String.ofList name, some (String.ofList value))
  | none => (String.ofList text, none)

/-- Whether the next word without dashes is the value of an option. -/
def isAwaiting : Option Pending → Bool
  | some pending => pending.value.isNone
  | none => false

namespace Level

/-- What an argument with two dashes does: it is a flag or an option, whose value is attached
or follows. -/
def readLong (level : Level) (values : Values) (pending : Option Pending) (text : List Char) :
    Except Error (Values × Option Pending) :=
  let (name, attached) := splitLong text
  match level.options.find? fun argument => argument.name == name with
  | some argument => do
      let values ← settle values pending
      match attached with
      | none => return (values, some ⟨argument, none⟩)
      | some value => return (← store values argument value, none)
  | none =>
      let isHelp := name == "help" || (level.hasVersion && name == "version")
      if !isHelp && !level.flags.contains name then .error .unknownArgument
      else if attached.isSome then .error .tooManyValues
      else do
        let values ← settle values pending
        if isHelp then throw (if name == "help" then .displayHelp else .displayVersion)
        return (← store values ⟨name, .text, none⟩ "true", none)

/-- What an argument with one dash does: only help and version have such. -/
def readShort (level : Level) (values : Values) (pending : Option Pending) (letter : Char) :
    Error :=
  let error? :=
    if letter = 'h' then some Error.displayHelp
    else if level.hasVersion && letter == 'V' then some .displayVersion
    else none
  match error? with
  | none => .unknownArgument
  | some found =>
      match settle values pending with
      | .error error => error
      | .ok _ => found

/-- The argument without a name that has not been given. -/
def freePositional (level : Level) (values : Values) (pending : Option Pending) :
    Option Argument :=
  level.positional.filter fun argument =>
    (values.lookup argument.name).isNone &&
      !(pending.any fun other => other.argument.name == argument.name)

/-- A word that is neither an option nor a value of one. -/
def readWord (level : Level) (values : Values) (pending : Option Pending) (isTrailing : Bool)
    (word : String) : Except Error (Values × Option Pending) :=
  match level.freePositional values pending with
  | some argument => do
      let values ← settle values pending
      return (values, some ⟨argument, some word⟩)
  | none =>
      if level.commands.isEmpty || (isTrailing && level.commands.contains word) then
        .error .unknownArgument
      else .error .invalidSubcommand

/-- The arguments of one level, up to a command. After two dashes alone all arguments are
words. -/
def read (level : Level) (values : Values) (pending : Option Pending) :
    (isTrailing : Bool) → List String → Except Error Outcome
  | _, [] => .ok ⟨values, pending, none⟩
  | true, word :: rest => do
      let (values, pending) ← level.readWord values pending true word
      level.read values pending true rest
  | false, word :: rest =>
      if !isAwaiting pending && level.commands.contains word then
        .ok ⟨values, pending, some (word, rest)⟩
      else
        match word.toList with
        | ['-', '-'] => level.read values pending true rest
        | '-' :: '-' :: text => do
            let (values, pending) ← level.readLong values pending text
            level.read values pending false rest
        | '-' :: letter :: _ => .error (level.readShort values pending letter)
        | _ =>
            match pending with
            | some ⟨argument, none⟩ =>
                level.read values (some ⟨argument, some word⟩) false rest
            | _ => do
                let (values, pending) ← level.readWord values pending false word
                level.read values pending false rest

/-- The values that the environment gives to the options that were not given. -/
def fromEnvironment (environment : Values) (given : Values) :
    List Argument → Except Error Values
  | [] => .ok []
  | argument :: rest =>
      let value? :=
        if (given.lookup argument.name).isSome then none
        else argument.environmentName.bind fun name => environment.lookup name
      match value? with
      | none => fromEnvironment environment given rest
      | some value => do
          argument.form.check value
          return (argument.name, value) :: (← fromEnvironment environment given rest)

/-- Ends a level: the pending value is looked at, the environment is consulted and what is
required must have been given. -/
def finish (level : Level) (environment : Values) (outcome : Outcome) :
    Except Error (Values × Values) := do
  let given ← settle outcome.values outcome.pending
  let inherited ← fromEnvironment environment given level.options
  if level.required.any fun name => (given.lookup name).isNone then
    throw .missingRequiredArgument
  return (given, inherited)

end Level
end Cli
end ClusterAgent
