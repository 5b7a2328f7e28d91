/-!
# Command lines

A command line gives values to named options. A value is the word after its option, whatever that
word looks like, or stands in the same word after an equals sign; of two values for one option the
later holds. Help is asked for by a word of its own. After a double dash no word is an option;
words that are none are left over.
-/

namespace SensorSeries

/-- Why a command line cannot be followed. -/
inductive UsageError where
  | unknownOption (word : String)
  | missingValue (option : String)
  | unwantedValue (option : String)
  | missingOption (option : String)
  | badNumber (option value : String)
  | surplusWord (word : String)
  deriving DecidableEq, Repr

def UsageError.message : UsageError → String
  | .unknownOption word => "No such option: " ++ word
  | .missingValue option => "Option '" ++ option ++ "' requires an argument."
  | .unwantedValue option => "Option '" ++ option ++ "' does not take a value."
  | .missingOption option => "Missing option '" ++ option ++ "'."
  | .badNumber option value =>
    "Invalid value for '" ++ option ++ "': '" ++ value ++ "' is not a valid integer."
  | .surplusWord word => "Got unexpected extra argument (" ++ word ++ ")"

structure CommandLine where
  /-- Options and their values, in the order of the line. -/
  given : List (String × String) := []
  helpAsked : Bool := false
  surplus : List String := []
  deriving Repr

namespace CommandLine

/-- What a word of a line is. -/
inductive Role where
  | option (name : String) (value : Option String)
  | help
  | endOfOptions
  | surplus
  deriving DecidableEq, Repr

/-- Splits a word at its first equals sign. -/
def splitValue (word : String) : String × Option String :=
  let cs := word.toList
  match cs.dropWhile (· != '=') with
  | [] => (word, none)
  | _ :: value => (String.ofList (cs.takeWhile (· != '=')), some (String.ofList value))

/-- The role of a word that starts with a dash. One dash stands before letters, each of which would
have to ask for help. -/
def roleOfDashed (options : List String) (word : String) : Except UsageError Role :=
  let (name, value) := splitValue word
  if options.contains name then .ok (.option name value)
  else if name = "--help" then
    if value.isSome then .error (.unwantedValue name) else .ok .help
  else if !word.startsWith "--" && (word.toList.drop 1).all (· == 'h') then .ok .help
  else .error (.unknownOption name)

def role (options : List String) (word : String) : Except UsageError Role :=
  if word = "--" then .ok .endOfOptions
  else if word.startsWith "-" && word ≠ "-" then roleOfDashed options word
  else .ok .surplus

def give (line : CommandLine) (name value : String) : CommandLine :=
  { line with given := line.given ++ [(name, value)] }

/-- Reads the words of a line that has been read up to here. -/
def readFrom (options : List String) (line : CommandLine) :
    List String → Except UsageError CommandLine
  | [] => .ok line
  | word :: rest =>
    match role options word with
    | .error e => .error e
    | .ok .endOfOptions => .ok { line with surplus := line.surplus ++ rest }
    | .ok .surplus => readFrom options { line with surplus := line.surplus ++ [word] } rest
    | .ok .help => readFrom options { line with helpAsked := true } rest
    | .ok (.option name (some value)) => readFrom options (line.give name value) rest
    | .ok (.option name none) =>
      match rest with
      | [] => .error (.missingValue name)
      | value :: more => readFrom options (line.give name value) more

def read (options : List String) (words : List String) : Except UsageError CommandLine :=
  readFrom options {} words

/-- The value that holds for an option. -/
def value? (line : CommandLine) (name : String) : Option String :=
  (line.given.reverse.find? (·.1 == name)).map (·.2)

@[simp] theorem value?_give_self (line : CommandLine) (name value : String) :
    (line.give name value).value? name = some value := by
  simp [value?, give]

end CommandLine

end SensorSeries
