import DeviceRegistry.Message.Claim
import DeviceRegistry.Message.Revoke
import DeviceRegistry.Registrar.Error

/-! What the registrar and its HTTP surface put on record while they work. -/
namespace DeviceRegistry

inductive NoticeLevel where
  | info | warning | error
deriving DecidableEq, Inhabited

inductive Notice where
  | claiming (request : ClaimRequest)
  | revoking (request : RevokeRequest)
  /-- A claim was undone after its stream was created. -/
  | streamOrphaned (uid token : String) (error : RegistrationError)
  /-- A claim could not be undone. -/
  | undoFailed (token : String) (error : RegistrationError)
  /-- A device was revoked, but these of its streams were left at the encoder. -/
  | streamsAbandoned (token : String) (uids : List String) (error : EncoderError)
  | requestFailed (method : String) (error : RegistrationError)
  | notReady (error : RegistrationError)
deriving DecidableEq, Inhabited

namespace Notice

def level : Notice → NoticeLevel
  | claiming _ | revoking _ => .info
  | requestFailed .. => .error
  | _ => .warning

def quotedList (texts : List String) : String :=
  "[" ++ ", ".intercalate (texts.map Text.quoted) ++ "]"

def message : Notice → String
  | claiming _ => "claiming device"
  | revoking _ => "revoking device"
  | streamOrphaned .. => "claim undone after stream creation; remote stream is orphaned"
  | undoFailed .. => "failed to undo claim; device row left without a stream"
  | streamsAbandoned .. => "device revoked locally but remote streams were not deleted"
  | requestFailed .. => "request failed"
  | notReady _ => "readiness check failed"

/-- The facts beside the message, by name. -/
def fields : Notice → List (String × String)
  | claiming r => [("method", "ClaimDevice"), ("device_token", r.deviceToken),
      ("broker", r.broker), ("disposition", r.disposition.wireName)]
  | revoking r => [("method", "RevokeDevice"), ("device_token", r.deviceToken)]
  | streamOrphaned uid token e =>
    [("stream_uid", uid), ("device_token", token), ("error", e.message)]
  | undoFailed token e => [("device_token", token), ("error", e.message)]
  | streamsAbandoned token uids e =>
    [("device_token", token), ("abandoned", quotedList uids), ("error", e.message)]
  | requestFailed method e => [("method", method), ("error", e.message)]
  | notReady e => [("error", e.message)]

end Notice
end DeviceRegistry
