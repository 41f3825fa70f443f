import Metasearch.Command.Arguments
import Metasearch.Command.Moment
import Metasearch.Json.Printer
import Metasearch.Settings.Document
import Metasearch.Soak.Document
import Metasearch.Soak.Run

/-!
What the program does when it is run: the lines it prints, the pauses between them, what it says when it
fails, and the code it ends with.
-/

namespace Metasearch.Command

/-- One thing that a running program does. -/
inductive Act where
  | print (line : String)
  | pause (ms : Millis)
deriving DecidableEq, Repr

/-- All that a program does, from its beginning to its end. -/
structure Transcript where
  acts : List Act := []
  /-- What is said of a failure. -/
  complaint : String := ""
  code : Nat := 0
deriving DecidableEq, Repr

def version : String := "0.1.0"

/-- The lines that explain how the program is used. -/
def helpLines : List String :=
  ["Engine rotation soak test",
    "",
    "Usage: searchmux-soak [OPTIONS]",
    "",
    "Options:",
    "  -c, --config <CONFIG>      Path to TOML settings file",
    "  -n, --searches <SEARCHES>  Number of searches to perform [default: 20]",
    "  -d, --delay <DELAY>        Delay between searches in seconds [default: 1]",
    "      --json                 Print the final report as JSON instead of a summary",
    "  -h, --help                 Print help",
    "  -V, --version              Print version"]

/-- A failure with its causes, each on a line of its own. Several are numbered, and further lines of one
cause are set in. -/
def complaintText (failure : String) (causes : List String) : String :=
  let setIn (first further cause : String) : String :=
    first ++ String.ofList (cause.toList.flatMap fun c => if c = '\n' then '\n' :: further.toList else [c])
  let lines := match causes with
    | [cause] => [setIn "    " "    " cause]
    | causes => causes.zipIdx.map fun (cause, i) => setIn ("    " ++ toString i ++ ": ") "       " cause
  let heading := "Error: " ++ failure
  if causes.isEmpty then heading else "\n".intercalate ((heading ++ "\n\nCaused by:") :: lines)

/-- The causes that an error names: itself, and for a file also what the system says. -/
def causesOf (error : AppError) : List String :=
  match error with
  | .file fault => [error.message, fault.message]
  | _ => [error.message]

/-- A program that fails, after what it has printed. -/
def failing (acts : List Act) (failure : String) (causes : List String) : Transcript :=
  { acts, complaint := complaintText failure causes, code := 1 }

/-- A program that breaks down. -/
def breakingDown (acts : List Act) : Transcript :=
  { acts, code := 101 }

def fixed (x : Float) (places : Nat) : String :=
  Decimal.fixedText x places

def secondsText (time : Duration) : String :=
  fixed time.inSeconds 2 ++ "s"

/-- The names of all engines that contributed to an answer, sorted and each once. -/
def contributors (response : Response) : List String :=
  Coordinator.sortedTexts (response.results.flatMap MergedResult.engineNames)

/-- What is printed of one search. -/
def recordLines (total : Nat) (record : Soak.SearchRecord) : List String :=
  let heading :=
    ["", "[" ++ toString record.index ++ "/" ++ toString total ++ "] query: '" ++ record.query ++ "'"]
  match record.outcome with
  | .error error => heading ++ ["  failed: " ++ error.message]
  | .ok response =>
    let engines := contributors response
    heading ++
      response.unresponsive.map (fun (engine, reason) =>
        "  engine unresponsive: " ++ engine ++ " (" ++ reason ++ ")") ++
      ["  ok: " ++ toString response.numberOfResults ++ " results from " ++ toString engines.length ++
        " engines in " ++ secondsText (.ofMillis record.elapsed)] ++
      if engines.isEmpty then [] else ["  engines: " ++ ", ".intercalate engines]

/-- A share of a total in percent. -/
def shareText (part total : Nat) : String :=
  fixed (Soak.ofCount part / Soak.ofCount (max total 1) * 100.0) 1 ++ "%"

/-- What is printed of the times of a run. -/
def timeLines (report : Soak.Report) (average : Option Duration) : List String :=
  match average, report.minTime, report.maxTime with
  | some average, some least, some greatest =>
    ["", "response times:", "  average: " ++ secondsText average, "  min: " ++ secondsText least,
      "  max: " ++ secondsText greatest]
  | _, _, _ => []

/-- What is printed of the engines that gave nothing in a run. -/
def unresponsiveLines (report : Soak.Report) : List String :=
  if report.unresponsiveCounts.isEmpty then ["", "no engine was suspended during this run"]
  else
    ["", "engines unresponsive during run:"] ++
      report.unresponsiveCounts.map fun (engine, count) =>
        "  " ++ engine ++ ": " ++ toString count ++ " times (last: " ++
          (report.unresponsiveReasons.lookup engine).getD "unknown" ++ ")"

/-- What is printed at the end of a run. -/
def summaryLines (report : Soak.Report) (average : Option Duration) (startedAt : Moment) :
    List String :=
  ["", "SUMMARY", "started at: " ++ startedAt.readerText,
    "total searches: " ++ toString report.totalSearches,
    "successful: " ++ toString report.successfulSearches ++
      " (" ++ shareText report.successfulSearches report.totalSearches ++ ")",
    "failed: " ++ toString report.failedSearches ++
      " (" ++ shareText report.failedSearches report.totalSearches ++ ")",
    "total results: " ++ toString report.totalResults,
    "average results per search: " ++ fixed report.averageResults 1] ++
    timeLines report average ++
    ["", "engines used (top 10):"] ++
    (report.topEngines 10).map (fun (engine, count) =>
      "  " ++ engine ++ ": " ++ toString count ++ " results") ++
    unresponsiveLines report ++
    ["", report.verdict.message]

/-- What is printed before a run. -/
def headerLines (searches : Nat) (delay : Float) (engines : Nat) : List String :=
  ["searchmux soak test v" ++ version,
    toString searches ++ " consecutive searches, " ++ fixed delay 1 ++ "s delay, " ++
      toString engines ++ " engines"]

/-- The searches of a run as they are printed, each after the time it takes and before the pause that
follows it. -/
def recordActs (options : Soak.Options) (json : Bool) (record : Soak.SearchRecord) : List Act :=
  [.pause record.elapsed] ++
    (if json then [] else (recordLines options.searches record).map .print) ++
    if record.index < options.searches then [.pause options.delay.ticks] else []

/-- What is printed when a run has ended. -/
def closingLines (json : Bool) (report : Soak.Report) (average : Option Duration)
    (startedAt : Moment) : List String :=
  if json then [Json.prettyText (report.toValue startedAt.documentText)]
  else summaryLines report average startedAt

/-- Run searches with a coordinator and report on them. The code tells whether the run passed. -/
def soak (options : Options) (delay : Float) (pause : Duration) (coordinator : Coordinator)
    (session : Session SimulatedEngine) (startedAt : Moment) : Transcript :=
  let searches := (options.searches.getD defaultSearches).toNat
  let plan : Soak.Options := { searches, delay := pause }
  let header :=
    if options.json then []
    else (headerLines searches delay coordinator.engineIds.length).map Act.print
  match Soak.run coordinator plan session with
  | .error _ => breakingDown header
  | .ok (.error fault) => failing header (AppError.soak fault).message []
  | .ok (.ok progress) =>
    let acts := header ++ progress.records.flatMap (recordActs plan options.json)
    match progress.report.averageTime with
    | .error _ => breakingDown acts
    | .ok average =>
      { acts := acts ++
          (closingLines options.json progress.report average startedAt).map .print
        code := if progress.report.passed then 0 else 1 }

/-- Do what the command line asks for, given the settings file's bytes if it is there. -/
def perform (options : Options) (content : Option (List UInt8)) (entropy : Nat → UInt64)
    (startedAt : Moment) : Transcript :=
  let delay := options.delay.getD defaultDelay
  match delayOf delay with
  | .error fault => failing [] ("invalid delay: " ++ Decimal.plainText delay) [fault.message]
  | .ok pause =>
    let settings := if options.config.isSome then Settings.ofFile content
      else Settings.ofDefaultFile content
    match settings with
    | .error error => failing [] "failed to load settings" (causesOf error)
    | .ok settings =>
      match settings.buildCoordinator entropy with
      | .error _ => breakingDown []
      | .ok (.error error) => failing [] "failed to build coordinator" (causesOf error)
      | .ok (.ok (coordinator, session)) => soak options delay pause coordinator session startedAt

/-- What is said of a command line that is not understood. -/
def usageText : String :=
  "error: invalid arguments\n\nUsage: searchmux-soak [OPTIONS]\n\nFor more information, try '--help'."

/-- Answer a command line. The bytes of the settings file are asked for by its path, or without one for
the file at the default place. -/
def answer (request : Request) (file : Option String → Option (List UInt8))
    (entropy : Nat → UInt64) (startedAt : Moment) : Transcript :=
  match request with
  | .help => { acts := helpLines.map .print }
  | .version => { acts := [.print ("searchmux-soak " ++ version)] }
  | .misused => { complaint := usageText, code := 2 }
  | .soak options => perform options (file options.config) entropy startedAt

end Metasearch.Command
