import DeviceRegistry.Http.Router
import DeviceRegistry.Startup

/-! The command line. Settings come from the environment. A request is a line of standard input:
a method, a target and, behind a blank, a body in JSON; its answer is a line with the status and
the body. A call to the encoder is a line that begins with an arrow, and the next line of input is
the encoder's reply. Nothing is kept beyond the end of the program. -/
namespace DeviceRegistry.Console

/-- The variables of the environment that the settings are made of. -/
def environment : IO (String → Option String) := do
  let values ← Settings.variableNames.mapM fun name => return (name, ← IO.getEnv name)
  return fun name => (values.lookup name).join

/-- Random bytes, as many draws as lengths are given. -/
def draws (lengths : List Nat) : IO (Nat → Draw) := do
  let values ← lengths.mapM fun n => return (← IO.getRandomBytes n.toUSize).data.toList
  return fun n => values[n]?

def keySource : IO KeySource := do
  let secret ← draws [KeyPair.secretLength, KeyPair.secretLength]
  return { pair := fun n => KeyPair.generate (secret n) }

def openingEntropy : IO Entropy :=
  return { draw := ← draws [ColumnCipher.saltLength, Gcm.nonceLength] }

/-- What one claim draws to seal its keys. -/
def sealingEntropy : IO Entropy := return { draw := ← draws [Gcm.nonceLength, Gcm.nonceLength] }

def readLine (input : IO.FS.Stream) : IO (List Char) :=
  return (← input.getLine).toList.filter (· != '\n')

/-- The word in front of the first blank, and what stands behind it. -/
def splitWord (cs : List Char) : String × List Char :=
  (String.ofList (cs.takeWhile (· != ' ')), (cs.dropWhile (· != ' ')).drop 1)

/-- Writes the message out and takes the next line for its reply. -/
def network (input : IO.FS.Stream) : Network IO := fun posted => do
  IO.println ("-> " ++ posted.url.text ++ " " ++ posted.body.lossyText)
  let (status, body) := splitWord (← readLine input)
  return status.toNat?.map fun n => ⟨n, Bytes.ofText (String.ofList body)⟩

def perform (input : IO.FS.Stream) (encoder : EncoderClient) (c : EncoderCall)
    (r : Registrar Store) : IO (Except EncoderError c.Answer × Duration × Registrar Store) := do
  let start ← IO.monoNanosNow
  let answer ← encoder.call (network input) c
  return (answer, { nanoseconds := (← IO.monoNanosNow) - start }, r)

def report (n : Notice) : IO Unit :=
  let facts := n.fields.map fun (name, value) => name ++ "=" ++ value
  IO.eprintln (" ".intercalate (n.message :: facts))

def serve (input : IO.FS.Stream) (s : Service) (r : Http.Request) : IO Service := do
  let registrar := { s.registrar with
    keys := ← keySource, store.entropy := ← sealingEntropy, log := [] }
  let (response, registrar) ←
    Progress.run (perform input s.encoder) (Http.respond "console" r registrar)
  registrar.log.forM report
  IO.println (toString response.status ++ " " ++ response.body.lossyText)
  return { s with registrar }

/-- Answers requests until an empty line or the end of the input. -/
partial def loop (input : IO.FS.Stream) (s : Service) : IO Unit := do
  let (method, rest) := splitWord (← readLine input)
  if method != "" then
    let (target, body) := splitWord rest
    let headers := [("content-type", "application/json")]
    loop input (← serve input s ⟨method, target, headers, Bytes.ofText (String.ofList body)⟩)

/-- Serves over an empty disk, if that can be done. A failure is a matter of the log. -/
def run (settings : Settings) : IO UInt32 := do
  let keys ← keySource
  let entropy ← openingEntropy
  match Service.start settings keys (fun _ => entropy) {} with
  | .ok s _ => loop (← IO.getStdin) s; return 0
  | .error e _ => IO.println ("server failed: " ++ e.message); return 1

end DeviceRegistry.Console

open DeviceRegistry in
def main : IO UInt32 := do
  match Settings.ofVariables (← Console.environment) with
  | .ok settings => Console.run settings
  | .error e => IO.eprint (refusal e); return 1
