import ClassDiagram.Text.Digit
import ClassDiagram.Text.Line
import ClassDiagram.Text.Quoted

namespace ClassDiagram.CommandLine

/-- The switches. -/
inductive Switch where
  | help
  | version
  | outputType
  | output
  | includeEnums
  | visibilityMarkers
  | verbose
  | logFile
deriving Repr, DecidableEq

namespace Switch

/-- All switches, in the order in which they are listed. -/
def all : List Switch :=
  [.help, .version, .outputType, .output, .includeEnums, .visibilityMarkers, .verbose, .logFile]

/-- The ways to write a switch. -/
def names : Switch → List String
  | .help => ["-h", "--help"]
  | .version => ["--version"]
  | .outputType => ["-t", "--type"]
  | .output => ["-o", "--output"]
  | .includeEnums => ["--include-enums"]
  | .visibilityMarkers => ["--visibility-markers"]
  | .verbose => ["-v", "--verbose"]
  | .logFile => ["--log-file"]

/-- Does a value belong to the switch? -/
def takesValue : Switch → Bool
  | .outputType | .output | .logFile => true
  | _ => false

/-- The switch as messages show it. -/
def shown (s : Switch) : String :=
  String.intercalate "/" s.names

/-- All ways to write a switch, with the switch. -/
def spellings : List (String × Switch) :=
  all.flatMap fun s => s.names.map fun name => (name, s)

/-- The switch that is written so. -/
def ofName? (name : String) : Option Switch :=
  spellings.lookup name

end Switch

/-- What is wrong with the arguments. -/
inductive UsageError where
  /-- A switch is cut too short. -/
  | ambiguous (word : String) (candidates : List String)
  /-- The value of a switch is missing. -/
  | valueMissing (switch : Switch)
  /-- A value is joined to a switch that takes none. -/
  | valueIgnored (switch : Switch) (value : String)
  /-- There are words too many. -/
  | unrecognized (words : List String)
deriving Repr, DecidableEq

/-- The text of the error. -/
def UsageError.message : UsageError → String
  | .ambiguous word candidates =>
    "ambiguous option: " ++ word ++ " could match " ++ String.intercalate ", " candidates
  | .valueMissing switch => "argument " ++ switch.shown ++ ": expected one argument"
  | .valueIgnored switch value =>
    "argument " ++ switch.shown ++ ": ignored explicit argument " ++ Text.quoted value
  | .unrecognized words => "unrecognized arguments: " ++ String.intercalate " " words

/-- What a word is, seen alone. -/
inductive Word where
  | plain
  /-- The mark after which all words are plain. -/
  | separator
  /-- A switch, as it is written in full, with the text that is joined to it. -/
  | known (switch : Switch) (name : String) (joined : Option String)
  /-- It looks like a switch, and there is none of the kind. -/
  | unknown
deriving Repr, DecidableEq

namespace Word

/-- Splits a word at its first equals sign. -/
def splitAtEquals (cs : List Char) : Option (String × String) :=
  if cs.contains '=' then
    let name := cs.takeWhile (· ≠ '=')
    some (String.ofList name, String.ofList (cs.drop (name.length + 1)))
  else none

/-- The readings of a word that starts with two dashes: all switches that start like it. -/
def longReadings (word : String) : List (Switch × String × Option String) :=
  let (start, joined) : String × Option String :=
    match splitAtEquals word.toList with
    | some (name, value) => (name, some value)
    | none => (word, none)
  (Switch.spellings.filter fun entry => entry.1.startsWith start).map fun entry => (entry.2, entry.1, joined)

/-- The readings of a word that starts with one dash: the switch of its first letter, with the rest joined
to it. -/
def shortReadings (word : String) : List (Switch × String × Option String) :=
  let short := String.ofList (word.toList.take 2)
  let joined := String.ofList (word.toList.drop 2)
  (Switch.spellings.filter fun entry => entry.1 == short).map fun entry => (entry.2, entry.1, some joined)

/-- Does the word look like a negative number? The digits may be of any script, and one line feed may follow
them. -/
def looksNegative : List Char → Bool
  | '-' :: cs =>
    let cs := Text.dropFinalBreak cs
    let whole := cs.takeWhile Text.isDigit
    match cs.drop whole.length with
    | [] => !whole.isEmpty
    | '.' :: fraction => !fraction.isEmpty && fraction.all Text.isDigit
    | _ => false
  | _ => false

/-- What a word is that starts with a dash and is no switch as it stands. -/
def ofDashed (word : String) : Except UsageError Word :=
  let readings := if word.startsWith "--" then longReadings word else shortReadings word
  match readings with
  | [(switch, name, joined)] => .ok (.known switch name joined)
  | [] => .ok (if looksNegative word.toList || word.toList.contains ' ' then .plain else .unknown)
  | several => .error (.ambiguous word (several.map fun reading => reading.2.1))

/-- What a word is. A long switch may be cut short as long as it stays the only one that starts so, short
switches may be joined, and a value may be joined to its switch. -/
def ofText (word : String) : Except UsageError Word :=
  match word.toList with
  | '-' :: _ :: _ =>
    match Switch.ofName? word with
    | some switch => .ok (.known switch word none)
    | none =>
      match splitAtEquals word.toList with
      | none => ofDashed word
      | some (name, value) =>
        match Switch.ofName? name with
        | some switch => .ok (.known switch name (some value))
        | none => ofDashed word
  | _ => .ok .plain

/-- Tells the words apart. Behind the mark all of them are plain. -/
def classify : List String → Except UsageError (List (String × Word))
  | [] => .ok []
  | word :: rest =>
    if word = "--" then .ok ((word, .separator) :: rest.map fun word => (word, .plain))
    else do
      let kind ← ofText word
      let more ← classify rest
      .ok ((word, kind) :: more)

end Word

/-- A file as a switch names it. -/
inductive Target where
  | named (text : String)
  /-- The mark that ends the switches was joined to the switch; it counts as given, and names no file. -/
  | nameless
deriving Repr, DecidableEq

namespace Target

/-- The file that the value of a switch names. -/
def ofValue (value : String) : Target :=
  if value = "--" then .nameless else .named value

/-- The text of the name, if there is one. -/
def text? : Target → Option String
  | .named text => some text
  | .nameless => none

end Target

/-- What the arguments ask for. -/
structure Arguments where
  input : Option String := none
  outputType : Option String := none
  output : Option Target := none
  includeEnums : Bool := false
  visibilityMarkers : Bool := false
  verbose : Bool := false
  logFile : Option Target := none
deriving Repr, DecidableEq

/-- The files that a run with the arguments may write to. -/
def Arguments.writtenFiles (a : Arguments) : List String :=
  (a.output.toList ++ a.logFile.toList).filterMap Target.text?

/-- Why the arguments do not lead to a run. -/
inductive Stop where
  | help
  | version
  | usage (error : UsageError)
deriving Repr, DecidableEq

namespace Arguments

/-- Takes in a switch without a value. -/
def setFlag (a : Arguments) : Switch → Except Stop Arguments
  | .help => .error .help
  | .version => .error .version
  | .includeEnums => .ok { a with includeEnums := true }
  | .visibilityMarkers => .ok { a with visibilityMarkers := true }
  | .verbose => .ok { a with verbose := true }
  | _ => .ok a

/-- Takes in a switch with its value. The mark that ends the switches names no output type. -/
def setValue (a : Arguments) (switch : Switch) (value : String) : Arguments :=
  match switch with
  | .outputType => { a with outputType := if value = "--" then none else some value }
  | .output => { a with output := some (.ofValue value) }
  | .logFile => { a with logFile := some (.ofValue value) }
  | _ => a

/-- What a word with joined switches says: the switches without a value, and the last switch, whose value
may be joined. -/
structure Joined where
  flags : List Switch
  last : Switch
  value : Option String

/-- Takes joined short switches apart. `rest` is the text behind the switch. -/
def splitJoined (switch : Switch) (flags : List Switch) : List Char → Except UsageError Joined
  | [] => .ok { flags := flags.reverse, last := switch, value := none }
  | c :: rest =>
    if switch.takesValue then
      .ok { flags := flags.reverse, last := switch, value := some (String.ofList (c :: rest)) }
    else
      match Switch.ofName? (String.ofList ['-', c]) with
      | some next => splitJoined next (switch :: flags) rest
      | none => .error (.valueIgnored switch (String.ofList (c :: rest)))

/-- What a switch with a text joined to it says. Only short switches can be joined. -/
def readJoined (switch : Switch) (name joined : String) : Except UsageError Joined :=
  if switch.takesValue then .ok { flags := [], last := switch, value := some joined }
  else if name.startsWith "--" || joined = "" then .error (.valueIgnored switch joined)
  else splitJoined switch [] joined.toList

/-- Takes in a word with switches; the value of the last one may be the next word. Gives the words that are
left. -/
def takeSwitch (a : Arguments) (joined : Joined) (rest : List (String × Word)) :
    Except Stop (Arguments × List (String × Word)) :=
  let withFlags := joined.flags.foldlM setFlag a
  match joined.last.takesValue, joined.value with
  | true, some value => do return ((← withFlags).setValue joined.last value, rest)
  | true, none =>
    match rest with
    | (value, .plain) :: rest => do return ((← withFlags).setValue joined.last value, rest)
    | _ => .error (.usage (.valueMissing joined.last))
  | false, _ => do return (← (← withFlags).setFlag joined.last, rest)

/-- Takes in the words from left to right. The first plain word is the input, and the mark before or after
it goes with it; the words that have no place are kept for the end. -/
def takeWords :
    Nat → Arguments → Bool → List String → List (String × Word) → Except Stop Arguments
  | 0, a, _, _, _ => .ok a
  | n + 1, a, hasInput, extras, words =>
    match words with
    | [] => if extras.isEmpty then .ok a else .error (.usage (.unrecognized extras))
    | (word, .unknown) :: rest => takeWords n a hasInput (extras ++ [word]) rest
    | (_, .known switch name joined) :: rest => do
      let read : Except UsageError Joined :=
        match joined with
        | none => .ok { flags := [], last := switch, value := none }
        | some joined => readJoined switch name joined
      let joined ← read.mapError .usage
      let (a, rest) ← a.takeSwitch joined rest
      takeWords n a hasInput extras rest
    | (word, .plain) :: rest =>
      if hasInput then takeWords n a true (extras ++ [word]) rest
      else
        let rest :=
          match rest with
          | (_, .separator) :: rest => rest
          | _ => rest
        takeWords n { a with input := some word } true extras rest
    | (word, .separator) :: rest =>
      if hasInput then takeWords n a true (extras ++ [word]) rest
      else
        match rest with
        | (input, .plain) :: rest => takeWords n { a with input := some input } true extras rest
        | _ => takeWords n a true extras rest

/-- What a list of arguments asks for. Words are first told apart, without regard to their neighbours, into
switches and plain words; then they are taken in from left to right. -/
def parse (words : List String) : Except Stop Arguments := do
  let classified ← (Word.classify words).mapError Stop.usage
  takeWords (words.length + 1) {} false [] classified

end Arguments

end ClassDiagram.CommandLine
