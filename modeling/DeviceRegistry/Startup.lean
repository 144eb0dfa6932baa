import DeviceRegistry.Encoder.Client
import DeviceRegistry.Net.Listening
import DeviceRegistry.Registrar.Basic
import DeviceRegistry.Settings
import DeviceRegistry.Store.Disk
import DeviceRegistry.Tls.Identity

/-! Starting the service: opening its store, building the registrar over it, and finding out
whether it can be served. -/
namespace DeviceRegistry

inductive StartupError where
  | store (error : StoreError)
  | tls (reason : String)
  | serve (reason : String)
deriving DecidableEq, Inhabited

def StartupError.message : StartupError → String
  | store error => "failed to open device store: " ++ error.message
  | tls reason => "failed to load TLS certificate: " ++ reason
  | serve reason => "server error: " ++ reason

/-- A service that runs: its registrar, the client by which it calls the encoder, and the place of
its store. -/
structure Service where
  registrar : Registrar Store
  encoder : EncoderClient
  place : Place

namespace Service

/-- Builds the service. The key pairs it makes come from a source of their own. -/
def build (settings : Settings) (keys : KeySource) (source : Tables → Entropy) :
    EStateM StartupError Disk Service := fun disk =>
  match disk.openStore settings.databasePath settings.password source with
  | .ok (place, store) disk =>
    .ok { registrar := { store, keys, verbose := settings.verbose }
          encoder := ⟨settings.encoderUrl⟩, place } disk
  | .error e disk => .error (.store e) disk

def saved (s : Service) (disk : Disk) : Disk := disk.save s.place s.registrar.store

def readFile (disk : Disk) (path : String) : Except StartupError Bytes :=
  (disk.read path).mapError fun e =>
    .tls ("failed to read from file `" ++ path ++ "`: " ++ e.message)

/-- The file of the certificate is read first, then that of the key. -/
def checkTls (disk : Disk) (paths : TlsPaths) : Except StartupError Unit := do
  let certificateFile ← readFile disk paths.certificate
  let keyFile ← readFile disk paths.key
  (Identity.check certificateFile keyFile).mapError fun e => .tls e.message

/-- Fails if the service cannot be served where its settings say. -/
def checkServing (settings : Settings) (disk : Disk) : Except StartupError Unit := do
  if let some paths := settings.tls then checkTls disk paths
  if let some e := settings.listenAddress.listenError? then throw (.serve e.message)

/-- Builds the service and finds out whether it can be served. -/
def start (settings : Settings) (keys : KeySource) (source : Tables → Entropy) :
    EStateM StartupError Disk Service := do
  let s ← build settings keys source
  match checkServing settings (← get) with
  | .ok () => return s
  | .error e => throw e

end Service

/-- What the program says before it refuses to start. -/
def refusal (e : SettingsError) : String := "FATAL: " ++ e.message ++ "\n"

end DeviceRegistry
