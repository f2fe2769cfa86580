import IngressGateway.Notification.Threshold
import IngressGateway.Render
import IngressGateway.Settings

/-!
The arguments of the command. They are read from left to right; a request for the version or for help ends
the reading, and so does the first argument that does not fit.
-/

set_option autoImplicit false

namespace IngressGateway.CommandLine

structure ConvertArguments where
  files : List String
  output : OutputFormat
  failOn : Threshold
  settings : Settings
deriving DecidableEq, Repr

inductive Request where
  | convert (arguments : ConvertArguments)
  | version
  | help
  | misuse
deriving DecidableEq, Repr

inductive ValueOption where
  | file
  | output
  | failOn
  | gatewayClass
  | httpPort
  | httpsPort
deriving DecidableEq, Repr

inductive OptionUse where
  | value (option : ValueOption)
  | verbose
  | help
  | version
deriving DecidableEq, Repr

/-- Where an option stands: before the subcommand or behind it. -/
inductive Level where
  | top
  | sub
deriving DecidableEq, Repr

def shortOption? (level : Level) (letter : Char) : Option OptionUse :=
  match level, letter with
  | _, 'v' => some .verbose
  | _, 'h' => some .help
  | .top, 'V' => some .version
  | .sub, 'f' => some (.value .file)
  | .sub, 'o' => some (.value .output)
  | _, _ => none

def longOption? (level : Level) (name : String) : Option OptionUse :=
  match level, name with
  | _, "verbose" => some .verbose
  | _, "help" => some .help
  | .top, "version" => some .version
  | .sub, "file" => some (.value .file)
  | .sub, "output" => some (.value .output)
  | .sub, "fail-on" => some (.value .failOn)
  | .sub, "gateway-class" => some (.value .gatewayClass)
  | .sub, "http-port" => some (.value .httpPort)
  | .sub, "https-port" => some (.value .httpsPort)
  | _, _ => none

structure Given where
  verbose : Bool
  files : List String
  output : Option OutputFormat
  failOn : Option Threshold
  gatewayClass : Option String
  httpPort : Option Unsigned16
  httpsPort : Option Unsigned16
deriving DecidableEq, Repr

def Given.nothing : Given := ⟨false, [], none, none, none, none, none⟩

/-- Why the reading of arguments ends early. -/
inductive Stop where
  | version
  | help
  | misuse
deriving DecidableEq, Repr

def Stop.request : Stop → Request
  | .version => .version
  | .help => .help
  | .misuse => .misuse

/-- The digits of a number after its sign. -/
def digitsOf (s : List Char) : List Char :=
  match s with
  | '+' :: rest => rest
  | '-' :: rest => rest
  | s => s

/-- The port that an argument writes: a decimal number with or without a sign. -/
def readPort? (s : String) : Option Unsigned16 :=
  let digits := digitsOf s.toList
  if digits.isEmpty || !digits.all Char.isDigit then none
  else
    let magnitude : Int := (Text.natOfDigits digits : Nat)
    let n := if s.toList.head? = some '-' then -magnitude else magnitude
    if h : 0 ≤ n ∧ n ≤ 65535 then some ⟨n, h⟩ else none

def once {α : Type} (present : Option α) (a : Option α) : Option (Option α) :=
  match present, a with
  | none, some a => some (some a)
  | _, _ => none

namespace Given

/-- One more option with its value. Only files may be given more than once. -/
def put? (g : Given) (o : ValueOption) (value : String) : Option Given :=
  match o with
  | .file => if value.isEmpty then none else some { g with files := g.files ++ [value] }
  | .output => (once g.output (OutputFormat.ofLabel? value)).map fun x => { g with output := x }
  | .failOn => (once g.failOn (Threshold.ofLabel? value)).map fun x => { g with failOn := x }
  | .gatewayClass => (once g.gatewayClass (some value)).map fun x => { g with gatewayClass := x }
  | .httpPort => (once g.httpPort (readPort? value)).map fun x => { g with httpPort := x }
  | .httpsPort => (once g.httpsPort (readPort? value)).map fun x => { g with httpsPort := x }

/-- One more option without a value. -/
def set (g : Given) (use : OptionUse) : Except Stop Given :=
  match use with
  | .verbose => if g.verbose then .error .misuse else .ok { g with verbose := true }
  | .help => .error .help
  | .version => .error .version
  | .value _ => .error .misuse

/-- The arguments of a conversion; files have to be given, and all else has a usual value. -/
def finish (g : Given) (classOfEnvironment : Option String) : Request :=
  if g.files.isEmpty then .misuse
  else .convert
    { files := g.files
      output := g.output.getD .yaml
      failOn := g.failOn.getD .never
      settings :=
        { Settings.usual with
          gatewayClass :=
            (g.gatewayClass <|> classOfEnvironment).getD Settings.usual.gatewayClass
          httpPort := g.httpPort.getD Settings.usual.httpPort
          httpsPort := g.httpsPort.getD Settings.usual.httpsPort } }

end Given

/-- Whether an argument can be the value of the option before it. -/
def canBeValue (s : String) : Bool :=
  match s.toList with
  | '-' :: _ :: _ => false
  | _ => true

/-- What an argument of letters leads to: the options so far, and one that still lacks its value. -/
def readLetters (level : Level) (g : Given) : List Char →
    Except Stop (Given × Option ValueOption)
  | [] => .ok (g, none)
  | letter :: rest =>
    match shortOption? level letter with
    | none => .error .misuse
    | some (.value o) =>
      match rest with
      | [] => .ok (g, some o)
      | '=' :: value => attach o value
      | value => attach o value
    | some use =>
      match g.set use with
      | .error stop => .error stop
      | .ok g => readLetters level g rest
where
  attach (o : ValueOption) (value : List Char) : Except Stop (Given × Option ValueOption) :=
    match g.put? o (String.ofList value) with
    | none => .error .misuse
    | some g => .ok (g, none)

def readName (level : Level) (g : Given) (text : List Char) :
    Except Stop (Given × Option ValueOption) :=
  match Text.cutFirst? '=' text with
  | some (name, value) =>
    match longOption? level (String.ofList name) with
    | some (.value o) =>
      match g.put? o (String.ofList value) with
      | none => .error .misuse
      | some g => .ok (g, none)
    | _ => .error .misuse
  | none =>
    match longOption? level (String.ofList text) with
    | none => .error .misuse
    | some (.value o) => .ok (g, some o)
    | some use =>
      match g.set use with
      | .error stop => .error stop
      | .ok g => .ok (g, none)

/-- What an argument that is an option leads to; nothing for any other argument. -/
def readOption? (level : Level) (g : Given) (s : String) :
    Option (Except Stop (Given × Option ValueOption)) :=
  match s.toList with
  | '-' :: '-' :: c :: rest => some (readName level g (c :: rest))
  | '-' :: c :: rest => if c = '-' then none else some (readLetters level g (c :: rest))
  | _ => none

/-- The arguments behind the subcommand; `pending` is an option that still lacks its value. -/
def readSub (g : Given) (pending : Option ValueOption) : List String → Except Stop Given
  | [] => if pending.isSome then .error .misuse else .ok g
  | s :: rest =>
    match pending with
    | some o =>
      if canBeValue s then
        match g.put? o s with
        | none => .error .misuse
        | some g => readSub g none rest
      else .error .misuse
    | none =>
      match readOption? .sub g s with
      | some (.error stop) => .error stop
      | some (.ok (g, pending)) => readSub g pending rest
      | none => if s = "--" ∧ rest.isEmpty then .ok g else .error .misuse

/-- What a request for help asks for, given the arguments that say what about. -/
def readHelp : List String → Request
  | [] => .help
  | [topic] => if topic = "convert" ∨ topic = "help" then .help else .misuse
  | _ => .misuse

def readTop (g : Given) (classOfEnvironment : Option String) : List String → Request
  | [] => .misuse
  | s :: rest =>
    match readOption? .top g s with
    | some (.error stop) => stop.request
    | some (.ok (g, _)) => readTop g classOfEnvironment rest
    | none =>
      if s = "convert" then
        match readSub .nothing none rest with
        | .error stop => stop.request
        | .ok g => g.finish classOfEnvironment
      else if s = "help" then readHelp rest
      else .misuse

/-- What the command is asked to do by its arguments and by the class of its environment. -/
def read (arguments : List String) (classOfEnvironment : Option String) : Request :=
  readTop .nothing classOfEnvironment arguments

end IngressGateway.CommandLine
