import DeviceRegistry.Net.SocketAddress
import DeviceRegistry.Text.Blank
import DeviceRegistry.Text.Quoted
import DeviceRegistry.Url.Parser

/-! Settings of the service, from variables of its environment. A variable that holds nothing but
blanks counts as unset; the first variable that is missing or wrong is reported. -/
namespace DeviceRegistry

inductive SettingsError where
  | missing (name : String)
  | invalid (name reason : String)
deriving DecidableEq, Inhabited

namespace SettingsError

def name : SettingsError → String
  | missing name => name
  | invalid name _ => name

def message : SettingsError → String
  | missing name => "missing required environment variable: $" ++ name
  | invalid name reason => "invalid value for $" ++ name ++ ": " ++ reason

end SettingsError

inductive LogFormat where
  | pretty | json
deriving DecidableEq, Inhabited

/-- Where the certificate and the key of the service are. -/
structure TlsPaths where
  certificate : String
  key : String
deriving DecidableEq, Inhabited

structure Settings where
  listenAddress : SocketAddress
  encoderUrl : Url
  databasePath : String
  password : String
  verbose : Bool
  tls : Option TlsPaths
  logFormat : LogFormat
deriving DecidableEq

namespace Settings

def addressVariable : String := "DEVICEREG_ADDR"
def encoderVariable : String := "DEVICEREG_ENCODER_URL"
def databaseVariable : String := "DEVICEREG_DATABASE_PATH"
def passwordVariable : String := "DEVICEREG_ENCRYPTION_PASSWORD"
def verboseVariable : String := "DEVICEREG_VERBOSE"
def certificateVariable : String := "DEVICEREG_TLS_CERT_PATH"
def keyVariable : String := "DEVICEREG_TLS_KEY_PATH"
def logVariable : String := "LOG_FORMAT"

/-- All variables that the settings are made of. -/
def variableNames : List String :=
  [addressVariable, encoderVariable, databaseVariable, passwordVariable, verboseVariable,
    certificateVariable, keyVariable, logVariable]

def defaultAddress : String := "0.0.0.0:8080"
def defaultDatabasePath : String := "/data/devicereg.redb"

/-- The words for yes and no, of which the case and the blanks around do not matter. -/
def flag? (s : String) : Option Bool :=
  let word := String.ofList ((Text.trim s).toList.map Char.toLower)
  if ["1", "true", "yes", "on"].contains word then some true
  else if ["0", "false", "no", "off"].contains word then some false
  else none

def addressOf (s : String) : Except SettingsError SocketAddress :=
  match SocketAddress.parse? s with
  | some address => .ok address
  | none => .error (.invalid addressVariable "invalid socket address syntax")

def encoderUrlOf (s : String) : Except SettingsError Url :=
  (Url.parse s).mapError fun e => .invalid encoderVariable e.message

def flagOf (s : String) : Except SettingsError Bool :=
  match flag? s with
  | some b => .ok b
  | none => .error (.invalid verboseVariable ("expected a boolean, got " ++ Text.quoted s))

def required (name : String) : Option String → Except SettingsError String
  | some s => .ok s
  | none => .error (.missing name)

/-- Both paths or none. -/
def tlsOf : Option String → Option String → Except SettingsError (Option TlsPaths)
  | some certificate, some key => .ok (some ⟨certificate, key⟩)
  | none, none => .ok none
  | some _, none => .error (.missing keyVariable)
  | none, some _ => .error (.missing certificateVariable)

/-- The settings that the variables of an environment make. -/
def ofVariables (environment : String → Option String) : Except SettingsError Settings := do
  let get (name : String) : Option String := (environment name).filter (!Text.isBlankText ·)
  let listenAddress ← addressOf ((get addressVariable).getD defaultAddress)
  let encoderUrl ← encoderUrlOf (← required encoderVariable (get encoderVariable))
  let password ← required passwordVariable (get passwordVariable)
  let verbose ← match get verboseVariable with
    | some s => flagOf s
    | none => pure false
  let tls ← tlsOf (get certificateVariable) (get keyVariable)
  return { listenAddress, encoderUrl, password, verbose, tls
           databasePath := (get databaseVariable).getD defaultDatabasePath
           logFormat := if get logVariable = some "json" then .json else .pretty }

end Settings
end DeviceRegistry
