import SchemaGuide.Json.Parser
import SchemaGuide.Json.Printer
import SchemaGuide.Session.Answer

/-! Envelopes: how messages and answers travel. A message that expects an answer has an
identifier, and its answer carries the same one; log messages travel as notifications. -/
namespace SchemaGuide

/-- A message in its envelope. -/
structure Envelope where
  /-- Present if an answer is expected. -/
  id : Option Json
  method : String
  params : Json

namespace Envelope

/-- The envelope that a value describes. -/
def ofJson? (value : Json) : Option Envelope := do
  let method ← (← value.member? "method").text?
  some ⟨value.member? "id", method, (value.member? "params").getD .null⟩

/-- The envelope that a text spells. -/
def parse? (text : String) : Option Envelope :=
  (Json.parse? text).bind ofJson?

/-- A value in an envelope, under the version of the protocol. -/
def sealed (members : List (String × Option Json)) : Json :=
  .ofMembers (("jsonrpc", some (.ofText "2.0")) :: members)

/-- The envelope of a result. -/
def ofResult (id result : Json) : Json :=
  sealed [("result", some result), ("id", some id)]

/-- The envelope of an error. -/
def ofError (id : Json) (code : Int) (message : String) : Json :=
  sealed [
    ("error", some (.ofMembers [
      ("code", some (.ofInt code)), ("message", some (.ofText message))])),
    ("id", some id)]

/-- The envelope of a log message. -/
def ofLog (text : String) : Json :=
  sealed [
    ("method", some (.ofText "window/logMessage")),
    ("params", some (.ofMembers [("type", some (.ofInt 3)), ("message", some (.ofText text))]))]

/-- The envelopes of an answer, its log messages first. -/
def ofAnswer (id : Option Json) (answer : Answer) : List Json :=
  answer.logs.map ofLog ++
    match id, answer.result with
    | some id, some (.ok result) => [ofResult id result]
    | some id, some (.error error) => [ofError id error.code error.message]
    | _, _ => []

/-- The envelopes that tell of a method that does not exist. A notification of one is passed
over. -/
def ofUnknownMethod (id : Option Json) : List Json :=
  match id with
  | some id => [ofError id (-32601) "Method not found"]
  | none => []

/-- The number of bytes that a header line announces, if it is the line that does. -/
def announcedLength? (line : String) : Option Nat :=
  let name := "Content-Length:"
  if Text.startsWith name.toList line.toList then
    let digits := (line.toList.drop name.length).filter fun c => !c.isWhitespace
    (String.ofList digits).toNat?
  else none

/-- A value with its header lines in front. -/
def framed (value : Json) : String :=
  let text := value.print
  "Content-Length: " ++ toString text.utf8ByteSize ++ "\r\n\r\n" ++ text

end Envelope

/-- The options of a command line, or the argument that does not belong there. -/
def LaunchOptions.ofArguments (options : LaunchOptions) :
    List String → Except String LaunchOptions
  | [] => .ok options
  | "--config" :: path :: rest => ofArguments { options with settingsFile := some ⟨path⟩ } rest
  | "--schema" :: path :: rest => ofArguments { options with schema := some ⟨path⟩ } rest
  | "--log-level" :: _ :: rest => ofArguments options rest
  | argument :: _ => .error argument

end SchemaGuide
