import LoadHarness.Json.Writer
import LoadHarness.Scenario.Iteration
import LoadHarness.Url.Basic

/-!
# Exchanges over HTTP

A request of a step goes to its own path below the base address. The base path is kept whole:
it gets a slash at its end if it has none, and the path of the step follows. What comes back
is an answer with its body, or the reason why there is none.
-/

namespace LoadHarness

/-- A request as it is sent. Its content is always announced as JSON. -/
structure HttpRequest where
  method : Method
  url : Url
  authorization : Option String
  body : Option String

def Method.word : Method → String
  | .get => "GET"
  | .post => "POST"

namespace HttpRequest

/-- The segments of a relative path; slashes in front of it do not count. -/
def relativeSegments (path : String) : List String :=
  (splitChars '/' (path.toList.dropWhile (· = '/'))).map String.ofList

/-- Where a path leads below a base address. -/
def address (base : Url) (path : String) : Url :=
  base.withTrailingSlash.join (relativeSegments path)

/-- A token as credentials. -/
def credentials (token : String) : String := "Bearer " ++ token

/-- Whether a text can be sent in a header: it has no controls but tabs. -/
def isHeaderText (text : String) : Bool :=
  text.toList.all fun c => c == '\t' || (32 ≤ c.toNat && c.toNat != 127)

/-- The request that is sent for a step; none if its token cannot be sent. -/
def ofRequest? (base : Url) (r : Request) : Option HttpRequest :=
  let authorization := r.bearer.map credentials
  if authorization.all isHeaderText then
    some {
      method := r.method
      url := (address base r.path).withQuery r.query
      authorization
      body := r.body.map JsonValue.compact }
  else none

/-- The announced type of a content. -/
def contentType : String := "application/json"

end HttpRequest

/-- What becomes of a request that was sent. -/
inductive HttpReply where
  | response (status : Nat) (body : ByteArray)
  /-- The connection ended before the announced end of the body. -/
  | cutShort (status : Nat)
  /-- No response came, or none came in time. -/
  | nothing

/-- Whether a status ends an exchange. Other responses come before the one that does, except
that `101` ends it too. -/
def isFinal (status : Nat) : Bool := status == 101 || (200 ≤ status && status < 1000)

/-- Whether responses with a status have no body, whatever is announced. -/
def isBodyless (status : Nat) : Bool := status < 200 || status == 204 || status == 304

namespace Answer

/-- The answer to a request that could not be sent. -/
def unsendable (base : Url) (r : Request) : Answer :=
  .failure (.exchange (HttpRequest.address base r.path).toText "builder error")

/-- The answer that a reply makes. -/
def ofReply (base : Url) (r : Request) (sent : HttpRequest) (reply : HttpReply) : Answer :=
  let failure (reason : String) : Answer :=
    .failure (.exchange (HttpRequest.address base r.path).toText reason)
  let unanswered := failure ("error sending request for url (" ++ sent.url.toText ++ ")")
  match reply with
  | .nothing => unanswered
  | .response status body =>
    if !isFinal status then unanswered
    else .response status (if isBodyless status then .empty else body)
  | .cutShort status =>
    if !isFinal status then unanswered
    else if isBodyless status then .response status .empty
    else failure "error decoding response body"

end Answer

/-- A server with the state `σ`. -/
abbrev HttpServer (σ : Type) := σ → HttpRequest → σ × HttpReply

/-- A server as a service; what is measured of its latency is given. -/
def HttpServer.service {σ : Type} (server : HttpServer σ) (base : Url) (latency : Duration) :
    Service σ :=
  fun state r =>
    match HttpRequest.ofRequest? base r with
    | none => (state, .unsendable base r, latency)
    | some sent =>
      let (state, reply) := server state sent
      (state, .ofReply base r sent reply, latency)

end LoadHarness
