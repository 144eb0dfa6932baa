import DeviceRegistry.Json.Record
import DeviceRegistry.Table

/-! Problems as callers see them: a code that fixes the HTTP status, a message, and further facts
by name. -/
namespace DeviceRegistry

inductive ErrorCode where
  | invalidArgument | malformed | badRoute | internal
deriving DecidableEq, Inhabited

namespace ErrorCode

def name : ErrorCode → String
  | invalidArgument => "invalid_argument"
  | malformed => "malformed"
  | badRoute => "bad_route"
  | internal => "internal"

def status : ErrorCode → Nat
  | invalidArgument => 400
  | malformed => 400
  | badRoute => 404
  | internal => 500

def known : List (String × ErrorCode) :=
  [invalidArgument, malformed, badRoute, internal].map fun c => (c.name, c)

def read : Json.Reader ErrorCode := Json.Reader.variant known

end ErrorCode

structure Problem where
  code : ErrorCode
  message : String
  facts : Table String String := .empty
deriving Inhabited

namespace Problem

/-- With one more fact, in place of one of the same name. -/
def withFact (p : Problem) (name value : String) : Problem :=
  { p with facts := p.facts.insert name value }

/-- An argument that the caller has to mend. -/
def invalidArgument (argument message : String) : Problem :=
  ({ code := .invalidArgument, message } : Problem).withFact "argument" argument

def malformed (message : String) : Problem := { code := .malformed, message }
def internal (message : String) : Problem := { code := .internal, message }
def badRoute (message : String) : Problem := { code := .badRoute, message }

def shape : Json.Shape Problem where
  title := "struct ErrorBody"
  initial := { code := .internal, message := "" }
  members := [
    ⟨"code", true, do let c ← ErrorCode.read; return ({ · with code := c })⟩,
    ⟨"msg", true, do let s ← Json.Reader.text; return ({ · with message := s })⟩,
    ⟨"meta", false, do
      let facts ← Json.Reader.textObject
      return ({ · with facts := .ofList facts })⟩]

/-- The facts come in ascending order of their names and are left out when there are none. -/
def toJson (p : Problem) : Json.Value :=
  .object <|
    [("code", .text p.code.name), ("msg", .text p.message)] ++
    if p.facts.isEmpty then []
    else [("meta", .object (p.facts.entries.map fun (name, value) => (name, .text value)))]

end Problem
end DeviceRegistry
