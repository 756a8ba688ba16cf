import ClassDiagram.CommandLine.Arguments

namespace ClassDiagram.CommandLine

/-- The words that ask for more on the error stream and for a log file. -/
def logSwitches (isVerbose : Bool) (file : Option String) : List String :=
  (if isVerbose then ["-v"] else []) ++ (file.map ("--log-file=" ++ ·)).toList

namespace Arguments

/-- The arguments with what is asked of the log in front of them. -/
def addLog (isVerbose : Bool) (file : Option Target) (a : Arguments) : Arguments :=
  { a with verbose := isVerbose || a.verbose, logFile := a.logFile <|> file }

variable (isVerbose : Bool) (file : Option Target)

/-- Switches without a value and requests for the log do not interfere. The flag for more is only ever set, so
the order makes no difference. -/
theorem setFlag_addLog (a : Arguments) (switch : Switch) :
    (a.addLog isVerbose file).setFlag switch = (a.setFlag switch).map (addLog isVerbose file) := by
  cases switch <;> simp [setFlag, addLog, Except.map]

/-- A later value for the log file replaces the one from the front, and values of other switches leave it alone.
In this way the words in front only fill in what is missing. -/
theorem setValue_addLog (a : Arguments) (switch : Switch) (value : String) :
    (a.addLog isVerbose file).setValue switch value = (a.setValue switch value).addLog isVerbose file := by
  cases switch <;> simp [setValue, addLog]

theorem foldlM_setFlag_addLog (flags : List Switch) (a : Arguments) :
    flags.foldlM setFlag (a.addLog isVerbose file) = (flags.foldlM setFlag a).map (addLog isVerbose file) := by
  induction flags generalizing a with
  | nil => rfl
  | cons switch flags ih =>
    rw [List.foldlM_cons, List.foldlM_cons, setFlag_addLog]
    cases a.setFlag switch with
    | error stop => rfl
    | ok a => exact ih a

/-- A word with switches takes the same words with it, whatever was asked of the log before. -/
theorem takeSwitch_addLog (a : Arguments) (joined : Joined) (rest : List (String × Word)) :
    takeSwitch (a.addLog isVerbose file) joined rest =
      (takeSwitch a joined rest).map fun taken => (taken.1.addLog isVerbose file, taken.2) := by
  simp only [takeSwitch, foldlM_setFlag_addLog]
  cases joined.flags.foldlM setFlag a with
  | error stop => split <;> first | rfl | (split <;> rfl)
  | ok a =>
    split
    · simp [bind, Except.bind, pure, Except.pure, Except.map, setValue_addLog]
    · split
      · simp [bind, Except.bind, pure, Except.pure, Except.map, setValue_addLog]
      · rfl
    · simp only [bind, Except.bind, Except.map, setFlag_addLog]
      cases a.setFlag joined.last <;> rfl

/-- Taking words in from any state commutes with a request for the log in front of them. The induction is on the
number of words, the bound of the recursion. -/
theorem takeWords_addLog (n : Nat) (a : Arguments) (hasInput : Bool) (extras : List String)
    (words : List (String × Word)) :
    takeWords n (a.addLog isVerbose file) hasInput extras words =
      (takeWords n a hasInput extras words).map (addLog isVerbose file) := by
  induction n generalizing a hasInput extras words with
  | zero => rfl
  | succ n ih =>
    have hinput (a : Arguments) (word : String) (hasInput : Bool) (rest : List (String × Word)) :
        takeWords n { a.addLog isVerbose file with input := some word } hasInput extras rest =
          (takeWords n { a with input := some word } hasInput extras rest).map (addLog isVerbose file) :=
      ih { a with input := some word } hasInput extras rest
    match words with
    | [] =>
      rw [takeWords, takeWords]
      split <;> rfl
    | (word, .unknown) :: rest => exact ih _ _ _ _
    | (word, .known switch name joined) :: rest =>
      have htaken (joined : Joined) :
          ((a.addLog isVerbose file).takeSwitch joined rest >>= fun taken =>
              takeWords n taken.1 hasInput extras taken.2) =
            (a.takeSwitch joined rest >>= fun taken => takeWords n taken.1 hasInput extras taken.2).map
              (addLog isVerbose file) := by
        rw [takeSwitch_addLog]
        cases a.takeSwitch joined rest with
        | error stop => rfl
        | ok taken => exact ih _ _ _ _
      cases joined with
      | none => exact htaken _
      | some joined =>
        simp only [takeWords]
        cases readJoined switch name joined with
        | error error => rfl
        | ok joined => exact htaken joined
    | (word, .plain) :: rest =>
      simp only [takeWords]
      split
      · exact ih _ _ _ _
      · exact hinput a word true _
    | (word, .separator) :: rest =>
      simp only [takeWords]
      split
      · exact ih _ _ _ _
      · split
        · exact hinput a _ true _
        · exact ih _ _ _ _

/-- A word in front of others that asks something of the log. It is no mark, takes no further word with it, and
leaves the others to be told apart as they were. -/
theorem parse_cons {word name : String} {switch : Switch} {joined : Option String}
    (hmark : word ≠ "--") (hword : Word.ofText word = .ok (.known switch name joined))
    (htaken : ∀ n rest, takeWords (n + 1) {} false [] ((word, .known switch name joined) :: rest) =
      takeWords n (addLog isVerbose file {}) false [] rest) (words : List String) :
    parse (word :: words) = (parse words).map (addLog isVerbose file) := by
  rw [parse, parse, Word.classify, if_neg hmark, hword]
  cases Word.classify words with
  | error error => rfl
  | ok classified =>
    refine (htaken _ classified).trans ?_
    rw [takeWords_addLog]
    rfl

theorem parse_verbose_cons (words : List String) :
    parse ("-v" :: words) = (parse words).map (addLog true none) :=
  parse_cons true none (by decide) rfl (fun _ _ => rfl) words

/-- No switch has an equals sign in its name, so a word with a joined value is never a switch as it stands. -/
theorem ofName?_eq_none {word : String} (hequals : '=' ∈ word.toList) : Switch.ofName? word = none := by
  have hnames : ∀ entry ∈ Switch.spellings, '=' ∉ entry.1.toList := by decide
  rw [Switch.ofName?, List.lookup_eq_none_iff]
  intro entry hentry
  have hne : word ≠ entry.1 := fun hsame => hnames entry hentry (hsame ▸ hequals)
  simp [hne]

theorem toList_logFile (text : String) :
    ("--log-file=" ++ text).toList = "--log-file".toList ++ '=' :: text.toList := by
  rw [String.toList_append]
  rfl

/-- A text that is joined to the switch for the log file is its value, whatever it looks like, as the word is
split at its first equals sign. -/
theorem ofText_logFile (text : String) :
    Word.ofText ("--log-file=" ++ text) = .ok (.known .logFile "--log-file" (some text)) := by
  have hword := toList_logFile text
  have hnone : Switch.ofName? ("--log-file=" ++ text) = none := ofName?_eq_none (by simp [hword])
  have hsplit : Word.splitAtEquals ("--log-file=" ++ text).toList = some ("--log-file", text) := by
    have hname : ∀ c ∈ "--log-file".toList, decide (c ≠ '=') = true := List.all_eq_true.mp (by decide)
    have htaken : ("--log-file=" ++ text).toList.takeWhile (· ≠ '=') = "--log-file".toList := by
      rw [hword, List.takeWhile_append_of_pos hname]
      simp
    have hthere : ("--log-file=" ++ text).toList.contains '=' = true := by simp [hword]
    rw [Word.splitAtEquals, if_pos hthere, htaken, hword]
    simp
  have hdashes : ("--log-file=" ++ text).toList = '-' :: '-' :: ("log-file=" ++ text).toList := by
    rw [String.toList_append, String.toList_append]
    rfl
  rw [Word.ofText, hsplit, hnone, hdashes]
  rfl

/-- The joined switch for a log file in front of other words asks for this file, unless the words ask for
another. -/
theorem parse_logFile_cons (text : String) (words : List String) :
    parse (("--log-file=" ++ text) :: words) = (parse words).map (addLog false (some (.ofValue text))) := by
  refine parse_cons false _ ?_ (ofText_logFile text) (fun _ _ => rfl) words
  intro hmark
  have hequals : '=' ∈ "--".toList := by
    rw [← hmark, toList_logFile]
    simp
  exact absurd hequals (by decide)

/-- With switches for the log in front of them, words ask for the same, and for what the switches say of the
log. A log file that the words name themselves goes before one that is named in front of them. -/
theorem parse_logSwitches (text : Option String) (words : List String) :
    parse (logSwitches isVerbose text ++ words) =
      (parse words).map (addLog isVerbose (text.map Target.ofValue)) := by
  have hfile : parse ((text.map ("--log-file=" ++ ·)).toList ++ words) =
      (parse words).map (addLog false (text.map Target.ofValue)) := by
    cases text with
    | none =>
      have hself (a : Arguments) : a.addLog false none = a := by simp [addLog]
      cases hparse : parse words <;> simp [Except.map, hself, hparse]
    | some text => exact parse_logFile_cons text words
  rw [logSwitches, List.append_assoc]
  generalize (text.map ("--log-file=" ++ ·)).toList ++ words = rest at hfile ⊢
  cases isVerbose with
  | false => exact hfile
  | true =>
    have hcons : (if true = true then ["-v"] else []) ++ rest = "-v" :: rest := rfl
    rw [hcons, parse_verbose_cons, hfile]
    cases parse words with
    | error stop => rfl
    | ok a => simp [Except.map, addLog]

end Arguments

end ClassDiagram.CommandLine
