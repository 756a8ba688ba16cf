namespace ClassDiagram

/-- How much a record matters: the higher the rank, the more. -/
structure Level where
  rank : Int
deriving Repr, DecidableEq

namespace Level

def debug : Level := ⟨10⟩

def info : Level := ⟨20⟩

def warning : Level := ⟨30⟩

def error : Level := ⟨40⟩

def critical : Level := ⟨50⟩

/-- The name of a level in records. A level that has none is called by its rank. -/
def name (level : Level) : String :=
  if level = debug then "DEBUG"
  else if level = info then "INFO"
  else if level = warning then "WARNING"
  else if level = error then "ERROR"
  else if level = critical then "CRITICAL"
  else if level.rank = 0 then "NOTSET"
  else "Level " ++ toString level.rank

/-- Does a record of this level pass a limit? -/
def passes (level limit : Level) : Bool :=
  limit.rank ≤ level.rank

end Level

/-- The name of a part's log; the empty name stands for the whole program. -/
def loggerName (part : String) : String :=
  if part = "" then "ruml" else "ruml." ++ part

/-- A record of the log. -/
structure Record where
  logger : String
  level : Level
  message : String
deriving Repr, DecidableEq

namespace Record

/-- The line of a record on the error stream. -/
def streamLine (r : Record) : String :=
  "[ruml] " ++ r.level.name ++ " " ++ r.message ++ "\n"

/-- The line of a record in a log file. -/
def fileLine (clock : String) (r : Record) : String :=
  clock ++ " " ++ r.level.name ++ " " ++ r.logger ++ ": " ++ r.message ++ "\n"

end Record

/-- Where a handler writes. -/
inductive Sink where
  | errors
  | file (place : List String)
deriving Repr, DecidableEq

/-- How a handler words a record: by its message alone, with its level, or with all that is known of it. -/
inductive Wording where
  | bare
  | short
  | full
deriving Repr, DecidableEq

/-- A handler writes down the records from a level up. -/
structure Handler where
  sink : Sink
  limit : Level
  wording : Wording
deriving Repr, DecidableEq

namespace Handler

/-- The handler for the error stream. -/
def toErrors (limit : Level) : Handler :=
  ⟨.errors, limit, .short⟩

/-- The handler for a log file; it leaves out only what matters less than anything the program tells. -/
def toFile (place : List String) : Handler :=
  ⟨.file place, .debug, .full⟩

/-- The handler for records that find no other. -/
def lastResort : Handler :=
  ⟨.errors, .warning, .bare⟩

/-- The place of the handler's file, if it writes to one. -/
def place? (h : Handler) : Option (List String) :=
  match h.sink with
  | .errors => none
  | .file place => some place

/-- The line that the handler writes for a record. -/
def line (h : Handler) (clock : String) (r : Record) : String :=
  match h.wording with
  | .bare => r.message ++ "\n"
  | .short => r.streamLine
  | .full => r.fileLine clock

end Handler

/-- Which records are let in and where they go, and what has been written to the error stream. The log of a part
of the program stands below this one and sets nothing of its own, so a record of any part is let in by this log
and goes to its handlers. The files that handlers write to belong to the workspace. -/
structure Log where
  /-- The limit of the log, if one is set. -/
  limit : Option Level := none
  /-- Do records go on to the handlers of the surroundings? -/
  propagates : Bool := true
  handlers : List Handler := []
  /-- The handlers of the surroundings, which are not the program's to change. -/
  outer : List Handler := []
  /-- What has been written to the error stream. -/
  errors : String := ""
  /-- All records so far. -/
  records : List Record := []
deriving Repr

namespace Log

/-- The handlers that records can reach. -/
def reached (log : Log) : List Handler :=
  if log.propagates then log.handlers ++ log.outer else log.handlers

/-- The places of the files that records can go to. -/
def files (log : Log) : List (List String) :=
  log.reached.filterMap Handler.place?

/-- The place of the log file, if there is one; of several it is the first. -/
def file (log : Log) : Option (List String) :=
  log.files.head?

/-- Is a record of this level let in? Without a limit, what matters is. -/
def letsIn (log : Log) (level : Level) : Bool :=
  level.passes (log.limit.getD .warning)

/-- The handlers that write down a record of this level. -/
def takers (log : Log) (level : Level) : List Handler :=
  if log.letsIn level then
    (if log.reached.isEmpty then [.lastResort] else log.reached).filter fun h => level.passes h.limit
  else []

/-- What a record adds to the error stream. -/
def shown (log : Log) (clock : String) (r : Record) : String :=
  String.join (((log.takers r.level).filter fun h => h.place?.isNone).map fun h => h.line clock r)

/-- What a record adds to files, one line after the other. -/
def filed (log : Log) (clock : String) (r : Record) : List (List String × String) :=
  (log.takers r.level).filterMap fun h => h.place?.map fun place => (place, h.line clock r)

/-- Takes in a record, as far as the error stream goes. -/
def add (log : Log) (clock : String) (r : Record) : Log :=
  { log with errors := log.errors ++ log.shown clock r, records := log.records ++ [r] }

/-- Writes to the error stream. -/
def complain (log : Log) (text : String) : Log :=
  { log with errors := log.errors ++ text }

/-- Lets go of all handlers, and keeps to the program what is let in from now on. -/
def restart (log : Log) (limit : Level) : Log :=
  { log with limit := some limit, propagates := false, handlers := [] }

/-- Adds a handler. -/
def attach (log : Log) (h : Handler) : Log :=
  { log with handlers := log.handlers ++ [h] }

/-- The limit of the error stream: all is shown, or warnings and what matters more. -/
def streamLimit (isVerbose : Bool) : Level :=
  if isVerbose then .debug else .warning

/-- Sends records to the error stream alone. Where a file is to follow, everything that it takes is let in. -/
def streaming (log : Log) (isVerbose hasFile : Bool) : Log :=
  let limit := streamLimit isVerbose
  (log.restart (if hasFile then .debug else limit)).attach (.toErrors limit)

end Log

end ClassDiagram
