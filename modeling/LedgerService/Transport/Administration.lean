import LedgerService.Metrics.Exposition
import LedgerService.Text.Blank

/-!
# Administration

The replies to those who look at the metrics. Of a request only the first line matters, and of that line only the
method and the path; whatever else is asked for is not there.
-/

namespace LedgerService

/-- A reply to a request over HTTP. -/
structure PlainReply where
  status : String
  contentType : String
  body : String
deriving DecidableEq, Repr, Inhabited

namespace PlainReply

/-- The lines in front of the body. -/
def head (reply : PlainReply) : List String :=
  ["HTTP/1.1 " ++ reply.status, "Content-Type: " ++ reply.contentType,
    "Content-Length: " ++ toString reply.body.utf8ByteSize, "Connection: close"]

/-- The whole reply. -/
def text (reply : PlainReply) : String :=
  String.join (reply.head.map (· ++ "\r\n")) ++ "\r\n" ++ reply.body

end PlainReply

namespace Administration

/-- The path of the metrics. -/
def metricsPath : String := "/metrics"

/-- The first line of a text, without the marks of its end. -/
def firstLine (text : String) : List Char :=
  let (line, rest) := text.toList.span (· ≠ '\n')
  match rest, line.reverse with
  | _ :: _, '\r' :: kept => kept.reverse
  | _, _ => line

/-- The words of a line: its longest parts without white space. -/
def words (line : List Char) : List String :=
  let (word, rest) := line.foldr
    (fun character (word, rest) =>
      if !Text.isBlank character then (character :: word, rest)
      else if word.isEmpty then ([], rest) else ([], String.ofList word :: rest))
    ([], [])
  if word.isEmpty then rest else String.ofList word :: rest

/-- The method and the path that a request names; the path ends before a question mark. -/
def asked (request : String) : String × String :=
  let words := words (firstLine request)
  let target := (words[1]?).getD "/"
  (words.headD "", String.ofList (target.toList.takeWhile (· ≠ '?')))

/-- The reply to a request. -/
def reply (registry : Registry) (request : String) : PlainReply :=
  let (method, path) := asked request
  if path ≠ metricsPath then ⟨"404 Not Found", "text/plain", "not found\n"⟩
  else if method ≠ "GET" then ⟨"405 Method Not Allowed", "text/plain", "method not allowed\n"⟩
  else ⟨"200 OK", "text/plain; version=0.0.4", registry.exposition⟩

end Administration

end LedgerService
