import FleetWatch.Cluster.Wire
import FleetWatch.Feed
import FleetWatch.Url

/-! # The gateway

The calls that the gateway's admin API knows, the HTTP request that each of them is, and what the
end of an exchange means for the caller. An exchange itself, with all that can happen on the way,
is given as a value; nothing here is sent.
-/

namespace FleetWatch

inductive Method where
  | get
  | post
  | patch
  deriving Repr, DecidableEq, Inhabited

def Method.name : Method → String
  | get => "GET"
  | post => "POST"
  | patch => "PATCH"

/-- A request ready to be sent; a body is a JSON document. -/
structure HttpRequest where
  method : Method
  url : Url
  body : Option Bytes
  /-- Who asks, where the endpoint says so. -/
  login : Option Url.Login := none
  deriving Repr, DecidableEq, Inhabited

/-- How an exchange may end. -/
inductive Exchange where
  /-- Nobody listens at the host. -/
  | unreachable
  /-- No answer came in time. -/
  | timedOut
  /-- The connection was closed without an answer. -/
  | brokenOff
  /-- An answer came. Its body is missing when it broke off before its end. -/
  | answered (status : Nat) (body : Option Bytes)
  deriving Repr, DecidableEq, Inhabited

inductive AdminCall where
  | clusters
  | stats
  | health
  | command (command : Command)
  deriving Repr, DecidableEq, Inhabited

namespace AdminCall

def method : AdminCall → Method
  | clusters | stats | health => .get
  | command (.setEnabled ..) => .patch
  | command .discover | command (.add _) => .post

/-- The path of a call, behind the endpoint. -/
def path : AdminCall → List Char
  | clusters => "/api/clusters".toList
  | stats => "/api/stats".toList
  | health => "/api/health".toList
  | command (.setEnabled name _) => "/api/cluster/".toList ++ Percent.segment name
  | command .discover => "/api/cluster/discover".toList
  | command (.add _) => "/api/cluster".toList

def body : AdminCall → Option Json
  | clusters | stats | health => none
  | command (.setEnabled name enabled) => some (UpdateRequest.toJson ⟨name, enabled⟩)
  | command .discover => none
  | command (.add request) => some request.toJson

end AdminCall

/-- A gateway, by where its admin API is. -/
structure Gateway where
  endpoint : String
  deriving Repr, DecidableEq, Inhabited

namespace Gateway

/-- A text without the slashes at its end. -/
def withoutSlashes (text : List Char) : List Char := (text.reverse.dropWhile (· = '/')).reverse

/-- The gateway at an endpoint; slashes at its end do not count. -/
def ofEndpoint (endpoint : String) : Gateway := ⟨String.ofList (withoutSlashes endpoint.toList)⟩

/-- The request of a call, or why none can be made: the endpoint and the path are no URL, or not
one of HTTP. -/
def request? (g : Gateway) (call : AdminCall) : Except Fault HttpRequest :=
  match Url.parse? (g.endpoint ++ String.ofList call.path) with
  | none => .error (.request "builder error")
  | some parsed =>
    let url := parsed.withoutCredentials
    if url.isHttp && url.isSendable then
      .ok ⟨call.method, url, call.body.map Json.compact, parsed.login?⟩
    else .error (.request ("builder error for url (" ++ url.text ++ ")"))

def sendingError (url : Url) : String := "error sending request for url (" ++ url.text ++ ")"

def isSuccess (status : Nat) : Bool := 200 ≤ status && status < 300

/-- What is left of an exchange when it is taken for a call: the answer's body, or a fault. -/
def outcome (call : AdminCall) (request : HttpRequest) : Exchange → Except Fault (Option Bytes)
  | .unreachable => .error (.connection (sendingError request.url))
  | .timedOut => .error .timeout
  | .brokenOff => .error (.request (sendingError request.url))
  | .answered status body =>
    if isSuccess status then .ok body
    else .error (.status call.method.name (String.ofList call.path) status)

def call (g : Gateway) (network : HttpRequest → Exchange) (call : AdminCall) :
    Except Fault (Option Bytes) := do
  let request ← g.request? call
  outcome call request (network request)

/-- The fault of a body that is not of the expected form or not complete. -/
def badBody : Fault := .decode "error decoding response body"

/-- The value in the body of an answer. -/
def bodyValue {α : Type} (read? : Json → Option α) (body : Option Bytes) : Except Fault α :=
  match (body.bind Json.read?).bind read? with
  | some v => .ok v
  | none => .error badBody

def stats (g : Gateway) (network : HttpRequest → Exchange) : Except Fault Stats := do
  bodyValue Stats.ofJson? (← g.call network .stats)

def clusters (g : Gateway) (network : HttpRequest → Exchange) : Except Fault (List Cluster) := do
  bodyValue Cluster.listOfJson? (← g.call network .clusters)

/-- Asks whether the gateway is well. The body of the answer is of no account. -/
def health (g : Gateway) (network : HttpRequest → Exchange) : Except Fault Unit := do
  let _ ← g.call network .health

/-- Carries out a command. The body of the answer is of no account. -/
def execute (g : Gateway) (network : HttpRequest → Exchange) (command : Command) :
    Except Fault Unit := do
  let _ ← g.call network (.command command)

end Gateway

end FleetWatch
