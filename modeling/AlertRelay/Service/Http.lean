import AlertRelay.Document.Render
import AlertRelay.Metrics.Exposition
import AlertRelay.Shutdown

/-!
# Health and metrics over HTTP

Two pages answer requests to read: one says whether the service is healthy or draining, the other
writes out the metrics. Every other path is unknown.
-/

namespace AlertRelay

/-- A request, as far as the service looks at it. -/
structure HttpRequest where
  method : String
  target : String
  deriving DecidableEq, Inhabited

/-- The body of a response. -/
inductive HttpBody where
  | empty
  | text (value : String)
  | json (value : Document)

/-- A response. -/
structure HttpResponse where
  status : Nat
  contentType : Option String
  body : HttpBody

/-- What the service shows: the families of metrics, and the state of the shutdown. -/
structure MetricsService where
  metrics : Metrics
  /-- Families shown besides those of the relay. -/
  extra : List Family
  shutdown : Shutdown
  uptimeSeconds : Nat

/-- Why the service could not be served. -/
inductive ServeError where
  | addressInUse
  deriving DecidableEq, Inhabited

namespace HttpResponse

/-- A response without a body. -/
def bare (status : Nat) : HttpResponse := ⟨status, none, .empty⟩

/-- A response to a request that asks for the head only. -/
def headOnly (r : HttpResponse) : HttpResponse := { r with body := .empty }

end HttpResponse

namespace MetricsService

/-- The version that the service reports. -/
def version : String := "0.3.0"

/-- The path of a request target, without the query. -/
def pathOf (target : String) : String := String.ofList (target.toList.takeWhile fun c => c ≠ '?')

/-- The health page. -/
def health (s : MetricsService) : HttpResponse where
  status := if s.shutdown.begun then 503 else 200
  contentType := some "application/json"
  body := .json (.ofFields
    [("status", .text (if s.shutdown.begun then "draining" else "healthy")),
      ("version", .text version), ("uptime_seconds", .integer s.uptimeSeconds),
      ("in_flight", .integer s.metrics.traffic.inFlight)])

/-- The metrics page. -/
def scrape (s : MetricsService) : HttpResponse :=
  match Exposition.encode? (s.extra ++ s.metrics.families) with
  | some text => ⟨200, some "text/plain; version=0.0.4", .text text⟩
  | none => .bare 500

/-- The page of a path. -/
def page? (s : MetricsService) (path : String) : Option HttpResponse :=
  if path = "/health" then some s.health
  else if path = "/metrics" then some s.scrape
  else none

/-- The response to a request. -/
def respond (s : MetricsService) (r : HttpRequest) : HttpResponse :=
  match s.page? (pathOf r.target) with
  | none => .bare 404
  | some page =>
    if r.method = "GET" then page
    else if r.method = "HEAD" then page.headOnly
    else .bare 405

/-- Serves requests until the shutdown begins, if the port is free. -/
def serve (s : MetricsService) (portFree : Bool) (requests : List HttpRequest) :
    Except ServeError (List HttpResponse) :=
  if portFree then .ok (requests.map s.respond) else .error .addressInUse

end MetricsService

end AlertRelay
