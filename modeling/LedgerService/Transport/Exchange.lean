import LedgerService.Json.Access
import LedgerService.Json.Reading
import LedgerService.Rpc.Service
import LedgerService.Traffic.Schedule

/-!
# Exchanges of messages

Calls as JSON-RPC messages. A message is one call, a notification, to which nobody replies, or a list of both. What
is wrong with a message is told in the reply, and so is an unknown method: the service only sees calls of methods
that it has.
-/

namespace LedgerService

/-- A call in a message, with the identifier that its reply repeats. -/
structure Call where
  identifier : Json
  method : String
  params : Json
deriving Repr, Inhabited

/-- What is wrong with a message. -/
inductive MessageFault where
  | unreadable
  | invalid
  | unknownMethod
  | tooLong
deriving DecidableEq, Repr, Inhabited

/-- The size of the longest message, in octets. -/
def longestMessage : Nat := 512 * 1024

namespace MessageFault

/-- The code of the fault. -/
def code : MessageFault → Int
  | unreadable => -32700
  | invalid => -32600
  | unknownMethod => -32601
  | tooLong => -32007

/-- The wording of the fault. -/
def message : MessageFault → String
  | unreadable => "Parse error"
  | invalid => "Invalid request"
  | unknownMethod => "Method not found"
  | tooLong => "Request is too big"

end MessageFault

/-- A reply: the status of the transport, and a message unless there is nothing to tell. -/
structure Reply where
  status : Nat
  message : Option Json
deriving Repr, Inhabited

/-- A part of a message. -/
inductive MessagePart where
  | call (call : Call)
  | notification
  | faulty (identifier : Option Json)
deriving Repr, Inhabited

namespace MessagePart

/-- Identifiers are null, natural numbers of 64 bits and texts. -/
def isIdentifier : Json → Bool
  | .null | .text _ => true
  | .integer value => 0 ≤ value
  | _ => false

/-- The identifier of a part, if it has one. -/
def identifier? (part : Json) : Option Json := (part.member? "id").filter isIdentifier

/-- The part that a value describes. -/
def ofJson (part : Json) : MessagePart :=
  match part.textAt? "jsonrpc", part.textAt? "method" with
  | some "2.0", some method =>
    match identifier? part with
    | some identifier => .call ⟨identifier, method, part.memberOrNull "params"⟩
    | none => if (part.member? "id").isSome then .faulty none else .notification
  | _, _ => .faulty (identifier? part)

end MessagePart

/-- A reply to a call. -/
def replyTo (identifier : Json) (outcome : String × Json) : Json :=
  .object [("jsonrpc", .text "2.0"), ("id", identifier), outcome]

/-- The error in a reply. -/
def errorMember (code : Int) (message : String) (more : List (String × Json)) : String × Json :=
  ("error", .object (("code", .integer code) :: ("message", .text message) :: more))

/-- The reply that tells what is wrong with a message. -/
def MessageFault.reply (fault : MessageFault) (identifier : Json) : Json :=
  let more : List (String × Json) :=
    if fault = .tooLong then [("data", .text ("Exceeded max limit of " ++ toString longestMessage))] else []
  replyTo identifier (errorMember fault.code fault.message more)

/-- The outcome of a call in its reply. -/
def outcomeMember : Outcome → String × Json
  | .ended (.answered (.ok value)) => ("result", value)
  | .ended (.answered (.error error)) => errorMember error.code error.message []
  | .ended (.panicked _) | .withdrawn => errorMember (-32603) "Internal error" []

namespace Switchboard

variable {σ : Type}

/-- Lets a call happen, and gives its reply; nothing else is under way. -/
def replyToCall (switchboard : Switchboard σ) (traffic : Traffic σ) (call : Call) : Traffic σ × Json :=
  if (switchboard.methods.find? call.method).isNone then
    (traffic, MessageFault.unknownMethod.reply call.identifier)
  else
    let traffic := traffic.apply (switchboard.arrival "" call.method call.params)
    let outcome := (traffic.outcomes.head?.map Prod.snd).getD .withdrawn
    ({ traffic with outcomes := [] }, replyTo call.identifier (outcomeMember outcome))

/-- The reply to a part of a message, if there is one. -/
def replyToPart (switchboard : Switchboard σ) (traffic : Traffic σ) : MessagePart → Traffic σ × Option Json
  | .call call =>
    let (traffic, reply) := switchboard.replyToCall traffic call
    (traffic, some reply)
  | .notification => (traffic, none)
  | .faulty identifier => (traffic, some (MessageFault.invalid.reply (identifier.getD .null)))

/-- The replies to the parts of a message, in their order. -/
def replyToParts (switchboard : Switchboard σ) (traffic : Traffic σ) : List Json → Traffic σ × List Json
  | [] => (traffic, [])
  | part :: parts =>
    let (traffic, reply) := switchboard.replyToPart traffic (.ofJson part)
    let (traffic, replies) := switchboard.replyToParts traffic parts
    (traffic, reply.toList ++ replies)

/-- The reply to a message. -/
def reply (switchboard : Switchboard σ) (traffic : Traffic σ) (message : String) : Traffic σ × Reply :=
  if longestMessage < message.utf8ByteSize then (traffic, ⟨413, some (MessageFault.tooLong.reply .null)⟩)
  else
    let unreadable : Json := MessageFault.unreadable.reply .null
    match message.toList.dropWhile Char.isWhitespace, Json.parse message with
    | '[' :: _, .ok (.array []) => (traffic, ⟨200, some (MessageFault.invalid.reply .null)⟩)
    | '[' :: _, .ok (.array parts) =>
      let (traffic, replies) := switchboard.replyToParts traffic parts
      (traffic, ⟨200, if replies.isEmpty then none else some (.array replies)⟩)
    | '\x7b' :: _, .ok part =>
      match MessagePart.ofJson part with
      | .faulty none => (traffic, ⟨200, some unreadable⟩)
      | part =>
        let (traffic, reply) := switchboard.replyToPart traffic part
        (traffic, ⟨200, reply⟩)
    | '[' :: _, _ | '\x7b' :: _, _ => (traffic, ⟨200, some unreadable⟩)
    | _, _ => (traffic, ⟨400, some unreadable⟩)

end Switchboard

end LedgerService
