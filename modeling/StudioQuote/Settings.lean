import StudioQuote.Json.Reader
import StudioQuote.Reading.Scalar
import StudioQuote.Selection
import StudioQuote.Text.Upper

/-!
# Settings

Settings come from arguments, from the environment, or from their defaults, in this
order. An argument is named like the environment variable, in any case, and the exact
name of the variable counts before the others; other arguments are refused. The names of
environment variables are compared without regard to case.
-/

namespace StudioQuote

open Number

structure Settings where
  /-- None is the place that the service itself chooses. -/
  storePath : Option String := none
  taxRate : Decimal := standardTaxRate
  logLevel : String := "INFO"
  corsOrigins : List String := ["*"]
  deriving DecidableEq

inductive SettingsFailure where
  | unreadable (problems : List Problem)
  | originsUnreadable (fault : Json.Fault)
  deriving DecidableEq

def SettingsFailure.message : SettingsFailure → String
  | .unreadable _ => ""
  | .originsUnreadable (.nestedTooDeep container) => (Json.Fault.nestedTooDeep container).message
  | .originsUnreadable _ =>
    "error parsing value for field \"cors_origins\" from source \"EnvSettingsSource\""

inductive SettingName where
  | storePath
  | taxRate
  | logLevel
  | corsOrigins
  deriving DecidableEq

namespace SettingName

def all : List SettingName := [.storePath, .taxRate, .logLevel, .corsOrigins]

def variableName : SettingName → String
  | .storePath => "SQLITE_PATH"
  | .taxRate => "TAX_RATE"
  | .logLevel => "LOG_LEVEL"
  | .corsOrigins => "CORS_ORIGINS"

def fieldName : SettingName → String
  | .storePath => "sqlite_path"
  | .taxRate => "tax_rate"
  | .logLevel => "log_level"
  | .corsOrigins => "cors_origins"

def isNamed (i : SettingName) (name : String) : Bool :=
  name.toLower == i.fieldName

end SettingName

namespace Settings

/-- The root of a path: one slash for any number of leading ones except exactly two. -/
def pathRoot (cs : List Char) : String :=
  match (cs.takeWhile (· == '/')).length with
  | 0 => ""
  | 2 => "//"
  | _ => "/"

/-- A path without repeated and trailing slashes and without single dots. -/
def normalPath (path : String) : String :=
  let parts := (path.toList.splitBy fun a b => a != '/' && b != '/').filter fun part =>
    part != ['/'] && part != ['.']
  let text := pathRoot path.toList ++ "/".intercalate (parts.map String.ofList)
  if text = "" then "." else text

def readPath : Reader (Option String)
  | .str s => .ok (some (normalPath s))
  | v => .problem v .notAPath

/-- The value given as an argument: under the name of the variable, or else the first one
under its name in another case. -/
def argument? (arguments : Json.Members) (i : SettingName) : Option Json :=
  (arguments.lookup i.variableName).or ((arguments.find? (i.isNamed ·.1)).map Prod.snd)

/-- The name under which problems are reported: that of the field when the argument has it
exactly, and that of the variable otherwise. -/
def reportedName (arguments : Json.Members) (i : SettingName) : String :=
  arguments.nameIn i.variableName i.fieldName

def environmentText? (environment : List (String × String)) (name : String) : Option String :=
  (environment.reverse.find? fun e => e.1.toLower == name.toLower).map Prod.snd

/-- The origins that the environment gives as JSON; null gives none. -/
def environmentOrigins (n : Json.Nesting) (environment : List (String × String)) :
    Except SettingsFailure (Option Json) :=
  match environmentText? environment SettingName.corsOrigins.variableName with
  | none => .ok none
  | some text =>
    match Json.read (.loose n) text with
    | .error fault => .error (.originsUnreadable fault)
    | .ok .null => .ok none
    | .ok v => .ok (some v)

/-- The value of a setting: its argument, or else what the environment gives. -/
def value? (arguments : Json.Members) (environment : List (String × String))
    (origins : Option Json) (i : SettingName) : Option Json :=
  (argument? arguments i).or
    (if i = .corsOrigins then origins
     else (environmentText? environment i.variableName).map Json.str)

/-- The given values under the names under which their problems are reported. -/
def values (arguments : Json.Members) (environment : List (String × String))
    (origins : Option Json) : Json.Members :=
  SettingName.all.filterMap fun i =>
    (value? arguments environment origins i).map (reportedName arguments i, ·)

def ofMembers (ms : Json.Members) : Reading Settings :=
  Settings.mk
    <$> ms.defaulted (name .storePath) none readPath
    <*> ms.defaulted (name .taxRate) standardTaxRate Reader.decimal
    <*> ms.defaulted (name .logLevel) "INFO" (fun v => Text.upper <$> Reader.text v)
    <*> ms.defaulted (name .corsOrigins) ["*"] (Reader.list Reader.text)
where
  name (i : SettingName) : String := ms.nameIn i.variableName i.fieldName

def unexpected (arguments : Json.Members) : List Problem :=
  (arguments.filter fun a => !SettingName.all.any (·.isNamed a.1)).map fun a =>
    (Problem.of a.2 .unexpected).under (.key a.1)

def load (n : Json.Nesting) (arguments : Json.Members) (environment : List (String × String)) :
    Except SettingsFailure Settings :=
  match environmentOrigins n environment with
  | .error e => .error e
  | .ok origins =>
    match ofMembers (values arguments environment origins), unexpected arguments with
    | .ok s, [] => .ok s
    | .ok _, ps => .error (.unreadable ps)
    | .failed ps, qs => .error (.unreadable (ps ++ qs))

end Settings

end StudioQuote
