import LedgerService.Rpc.Error
import LedgerService.Text.Numeral

/-!
# Endpoints

The address at which a server listens: a host and a port, separated by the last colon. Only the machine's own
addresses can be listened at.
-/

namespace LedgerService

/-- An address to listen at. -/
structure Endpoint where
  host : String
  port : UInt16
deriving DecidableEq, Repr, Inhabited

/-- A reason why an address cannot be listened at. -/
inductive EndpointFault where
  | noPort
  | badPort
  | noHost
  | unknownHost
  | foreignHost
deriving DecidableEq, Repr, Inhabited

/-- The wording of the reason. -/
def EndpointFault.message : EndpointFault → String
  | .noPort => "invalid socket address"
  | .badPort => "invalid port value"
  | .noHost => "failed to lookup address information: Name or service not known"
  | .unknownHost => "failed to lookup address information: Temporary failure in name resolution"
  | .foreignHost => "Cannot assign requested address (os error 99)"

namespace Endpoint

/-- The endpoint that a text describes. -/
def parse (text : String) : Except EndpointFault Endpoint :=
  let (port, rest) := text.toList.reverse.span (· ≠ ':')
  match rest with
  | [] => .error .noPort
  | _ :: host =>
    match Text.numeral UInt16.size (String.ofList port.reverse) with
    | .error _ => .error .badPort
    | .ok port => .ok ⟨String.ofList host.reverse, UInt16.ofNat port⟩

/-- The four numbers of a dotted address. -/
def dotted? (host : String) : Option (List Nat) := do
  let numbers ← (host.splitOn ".").mapM fun part =>
    if part.toList.all Char.isDigit then (Text.numeral 256 part).toOption else none
  if numbers.length = 4 then return numbers else none

/-- The names and addresses of the machine itself, beside those of the form `127.x.y.z`. -/
def ownHosts : List String := ["localhost", "0.0.0.0", "[::1]", "[::]", "::1", "::"]

/-- The reason why a host cannot be listened at, if there is one. -/
def hostFault? (host : String) : Option EndpointFault :=
  if ownHosts.contains host then none
  else if host.isEmpty then some .noHost
  else
    match dotted? host with
    | some (127 :: _) => none
    | some _ => some .foreignHost
    | none => some .unknownHost

/-- The endpoint that a text describes, if it can be listened at. -/
def listen (text : String) : Except SetupError Endpoint :=
  match parse text with
  | .error fault => .error (.binding text fault.message)
  | .ok endpoint =>
    match hostFault? endpoint.host with
    | some fault => .error (.binding text fault.message)
    | none => .ok endpoint

end Endpoint

end LedgerService
