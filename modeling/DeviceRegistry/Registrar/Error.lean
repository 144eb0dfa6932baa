import DeviceRegistry.Crypto.KeyPair
import DeviceRegistry.Encoder.Call
import DeviceRegistry.Message.Problem
import DeviceRegistry.Store.Error

/-! Why the registrar refuses a request. Either an argument has to be mended by the caller, or
something failed inside; then the message says first what was being attempted. -/
namespace DeviceRegistry

inductive Attempt where
  | userKeys | deviceKeys | startTransaction | upsertUser | insertDevice | commitClaim
  | createStream | recordStream | commitStream | deleteDevice | countDevices | deleteUser
  | commitRevoke | deleteStream | reachStore
deriving DecidableEq, Inhabited

def Attempt.message : Attempt → String
  | userKeys => "failed to generate user key pair"
  | deviceKeys => "failed to generate device key pair"
  | startTransaction => "failed to start transaction"
  | upsertUser => "failed to upsert user"
  | insertDevice => "failed to insert device"
  | commitClaim => "failed to commit claim"
  | createStream => "failed to create stream"
  | recordStream => "failed to record stream"
  | commitStream => "failed to commit stream"
  | deleteDevice => "failed to delete device"
  | countDevices => "failed to count remaining devices"
  | deleteUser => "failed to delete user"
  | commitRevoke => "failed to commit revoke"
  | deleteStream => "failed to delete stream"
  | reachStore => "store is not reachable"

inductive Fault where
  | store (error : StoreError)
  | keys (error : KeyError)
  | encoder (error : EncoderError)
  | other (reason : String)
deriving DecidableEq, Inhabited

def Fault.message : Fault → String
  | store error => error.message
  | keys error => error.message
  | encoder error => error.message
  | other reason => reason

inductive RegistrationError where
  | invalidArgument (argument message : String)
  | internal (attempt : Option Attempt) (fault : Fault)
deriving DecidableEq, Inhabited

namespace RegistrationError

def required (argument : String) : RegistrationError :=
  .invalidArgument argument (argument ++ " is required")

def failed (attempt : Attempt) (fault : Fault) : RegistrationError := .internal attempt fault

def message : RegistrationError → String
  | invalidArgument _ message => message
  | internal none fault => fault.message
  | internal (some attempt) fault => attempt.message ++ ": " ++ fault.message

def toProblem : RegistrationError → Problem
  | invalidArgument argument message => .invalidArgument argument message
  | e => .internal e.message

end RegistrationError
end DeviceRegistry
