import Metasearch.Command.Delay

/-!
The arguments of the command line. They are taken one after the other; the first that asks for help or
for the version is answered at once, and the first that is wrong ends it all.
-/

namespace Metasearch.Command

/-- What is set on the command line. -/
structure Options where
  /-- The path of the settings file. -/
  config : Option String := none
  searches : Option UInt64 := none
  delay : Option Float := none
  json : Bool := false

/-- The number of searches and the delay in seconds, unless they are set. -/
def defaultSearches : UInt64 := 20

def defaultDelay : Float := 1.0

/-- What the command line asks for. -/
inductive Request where
  | soak (options : Options)
  | help
  | version
  /-- Something that is not understood. -/
  | misused

/-- The options that can be given. -/
inductive Name where
  | config
  | searches
  | delay
  | json
  | help
  | version
deriving DecidableEq, Repr

def Name.ofLong : String → Option Name
  | "config" => some config
  | "searches" => some searches
  | "delay" => some delay
  | "json" => some json
  | "help" => some help
  | "version" => some version
  | _ => none

def Name.ofShort : Char → Option Name
  | 'c' => some config
  | 'n' => some searches
  | 'd' => some delay
  | 'h' => some help
  | 'V' => some version
  | _ => none

/-- Whether an option has a value. -/
def Name.hasValue : Name → Bool
  | config => true
  | searches => true
  | delay => true
  | _ => false

/-- Read a count: digits, after a plus sign if one likes. -/
def readCount (text : String) : Option UInt64 :=
  let digits := match text.toList with
    | '+' :: rest => rest
    | cs => cs
  let n := Decimal.digitsValue digits
  if !digits.isEmpty && digits.all isDigit && n < UInt64.size then some (UInt64.ofNat n) else none

/-- Set the value of an option. Each can be set once, and a path must not be empty. -/
def Options.set (options : Options) (name : Name) (value : String) : Option Options :=
  match name with
  | .config =>
    if options.config.isSome || value.isEmpty then none else some { options with config := some value }
  | .searches =>
    if options.searches.isSome then none
    else (readCount value).map fun n => { options with searches := some n }
  | .delay =>
    if options.delay.isSome then none
    else (readFloat value).map fun x => { options with delay := some x }
  | _ => none

/-- What one argument comes to. -/
inductive Step where
  /-- The options so far. -/
  | next (options : Options)
  /-- The value of an option is still to come. -/
  | wanting (options : Options) (name : Name)
  | done (request : Request)

/-- An option with the value that is attached to it. -/
def Step.ofValue (options : Options) (name : Name) (value : String) : Step :=
  match options.set name value with
  | some options => .next options
  | none => .done .misused

/-- An option that has no value. -/
def Step.ofFlag (options : Options) (name : Name) : Step :=
  match name with
  | .json => if options.json then .done .misused else .next { options with json := true }
  | .help => .done .help
  | .version => .done .version
  | name => .wanting options name

/-- Take an argument that begins with two hyphens, which are left out here. -/
def takeLong (options : Options) (text : List Char) : Step :=
  let name := text.takeWhile (· != '=')
  match Name.ofLong (String.ofList name), text.drop name.length with
  | none, _ => .done .misused
  | some name, [] => .ofFlag options name
  | some name, _ :: value =>
    if name.hasValue then .ofValue options name (String.ofList value) else .done .misused

/-- Take an argument that begins with one hyphen, which is left out here: options of one letter, the last
of which may have its value attached, with an equals sign or without. -/
def takeShort (options : Options) : List Char → Step
  | [] => .next options
  | c :: rest =>
    match Name.ofShort c with
    | none => .done .misused
    | some name =>
      if name.hasValue then
        match rest with
        | [] => .wanting options name
        | '=' :: value => .ofValue options name (String.ofList value)
        | value => .ofValue options name (String.ofList value)
      else match Step.ofFlag options name with
        | .next options => takeShort options rest
        | step => step

/-- What the arguments ask for, given the options before them. A value that stands alone must not begin
with a hyphen, unless it is one. -/
def readFrom (options : Options) : List String → Request
  | [] => .soak options
  | argument :: rest =>
    let step : Step := match argument.toList with
      | ['-', '-'] => if rest.isEmpty then .done (.soak options) else .done .misused
      | '-' :: '-' :: text => takeLong options text
      | '-' :: c :: text => takeShort options (c :: text)
      | _ => .done .misused
    match step with
    | .done request => request
    | .next options => readFrom options rest
    | .wanting options name =>
      match rest with
      | [] => .misused
      | value :: rest =>
        if value.startsWith "-" && value != "-" then .misused
        else match options.set name value with
          | some options => readFrom options rest
          | none => .misused

/-- What a command line asks for. -/
def Request.ofArguments (arguments : List String) : Request :=
  readFrom {} arguments

end Metasearch.Command
