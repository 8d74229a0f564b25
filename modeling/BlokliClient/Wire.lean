import Mathlib.Algebra.Ring.Nat
import Mathlib.Data.Int.Notation
import Mathlib.Data.List.Basic

/-!
# What crosses the wire

The values the client exchanges with Blokli: text, JSON, GraphQL responses and
their errors, the items of an SSE stream, and the error type the client hands
to its callers.

Text is a list of characters, so that the text passes of the combined document
can be run and compared. Instants and durations are nanoseconds.
-/

namespace Blokli

/-- The content of a `String`. -/
abbrev Text := List Char

/-- Nanoseconds since some origin. -/
abbrev Instant := ℕ

/-- Nanoseconds. -/
abbrev Duration := ℕ

/-- The longest `Duration`: `u64::MAX` seconds and `999_999_999` nanoseconds. -/
def Duration.max : Duration := 2 ^ 64 * 10 ^ 9 - 1

def Duration.fromMillis (n : ℕ) : Duration := n * 10 ^ 6

def Duration.fromSecs (n : ℕ) : Duration := n * 10 ^ 9

/-- `Duration::saturating_mul`. -/
def Duration.saturatingMul (d : Duration) (n : ℕ) : Duration := min (d * n) Duration.max

/-- A JSON value. An object is its list of members, no key twice. -/
inductive Json
  | null
  | bool (b : Bool)
  | number (mantissa : ℤ) (exponent : ℕ)
  | string (s : Text)
  | array (xs : List Json)
  | object (members : List (Text × Json))
  deriving Inhabited

namespace Json

def isNull : Json → Bool
  | .null => true
  | _ => false

/-- `Value::as_object`. -/
def asObject : Json → Option (List (Text × Json))
  | .object members => some members
  | _ => none

end Json

/-- Lookup in a map that is kept as a list of members. -/
def lookup {K V : Type} [DecidableEq K] (k : K) : List (K × V) → Option V
  | [] => none
  | (k', v) :: m => if k' = k then some v else lookup k m

section lookup

variable {K V : Type} [DecidableEq K] {k : K} {v : V} {m : List (K × V)}

@[simp] theorem lookup_nil : lookup k ([] : List (K × V)) = none := rfl

/-- The first entry of the key is the one that counts. -/
theorem lookup_cons (k k' : K) (v : V) (m : List (K × V)) :
    lookup k ((k', v) :: m) = if k' = k then some v else lookup k m := rfl

/-- What is found is an entry. -/
theorem mem_of_lookup (h : lookup k m = some v) : (k, v) ∈ m := by
  induction m with
  | nil => cases h
  | cons p m ih =>
    obtain ⟨k', v'⟩ := p
    rw [lookup_cons] at h
    split at h
    · next h_eq =>
      obtain rfl := Option.some.inj h
      subst h_eq
      exact List.mem_cons_self
    · exact List.mem_cons_of_mem _ (ih h)

/-- Nothing is found exactly where the key is missing. -/
theorem lookup_eq_none_iff : lookup k m = none ↔ k ∉ m.map Prod.fst := by
  induction m with
  | nil => exact ⟨fun _ => List.not_mem_nil, fun _ => rfl⟩
  | cons p m ih =>
    obtain ⟨k', v'⟩ := p
    rw [lookup_cons, List.map_cons, List.mem_cons, not_or]
    split
    · next h_eq => exact ⟨fun h => (by cases h), fun h => absurd h_eq.symm h.1⟩
    · next h_ne => exact ⟨fun h => ⟨fun h_eq => h_ne h_eq.symm, ih.mp h⟩, fun h => ih.mpr h.2⟩

/-- When no key occurs twice, the entries are what the lookup finds. -/
theorem lookup_eq_some_iff (h : (m.map Prod.fst).Nodup) : lookup k m = some v ↔ (k, v) ∈ m := by
  refine ⟨mem_of_lookup, fun h_mem => ?_⟩
  induction m with
  | nil => exact absurd h_mem List.not_mem_nil
  | cons p m ih =>
    obtain ⟨k', v'⟩ := p
    obtain ⟨h_fresh, h_rest⟩ := List.nodup_cons.mp h
    rw [lookup_cons]
    rcases List.mem_cons.mp h_mem with h_eq | h_mem
    · obtain ⟨rfl, rfl⟩ := Prod.mk.inj h_eq
      exact if_pos rfl
    · have h_ne : k' ≠ k := fun h_eq => by
        rw [h_eq] at h_fresh
        exact h_fresh (List.mem_map.mpr ⟨(k, v), h_mem, rfl⟩)
      rw [if_neg h_ne]
      exact ih h_rest h_mem

/-- Without the entries of a key, only this key is missing. -/
theorem lookup_filter_ne (k k' : K) (m : List (K × V)) :
    lookup k (m.filter fun p => p.1 != k') = if k = k' then none else lookup k m := by
  induction m with
  | nil => rw [List.filter_nil, lookup_nil, ite_self]
  | cons p m ih =>
    obtain ⟨k₁, v₁⟩ := p
    by_cases h : k₁ = k'
    · rw [List.filter_cons_of_neg (by simpa using h), ih, lookup_cons, h]
      split
      · rfl
      · next h_ne => exact (if_neg fun h_eq => h_ne h_eq.symm).symm
    · rw [List.filter_cons_of_pos (by simpa using h), lookup_cons, lookup_cons, ih]
      split
      · next h_eq => exact (if_neg fun h' => h (h_eq.trans h')).symm
      · rfl

end lookup

/-- `Map::insert`: an existing key keeps its place and gets the new value. -/
def insertMember {V : Type} (k : Text) (v : V) : List (Text × V) → List (Text × V)
  | [] => [(k, v)]
  | (k', v') :: m => if k' = k then (k, v) :: m else (k', v') :: insertMember k v m

/-! ### GraphQL responses -/

/-- `GraphQlErrorPathSegment`. -/
inductive PathSegment
  | field (name : Text)
  | index (i : ℤ)
  deriving DecidableEq

/-- `GraphQlError`, without its extensions, which nothing reads. -/
structure GraphQlError where
  message : Text
  locations : Option (List (ℤ × ℤ)) := none
  path : Option (List PathSegment) := none
  deriving DecidableEq

/-- `GraphQlResponse<serde_json::Value>`. The data, when it is an object, is a
map: no key occurs twice. -/
structure GraphQlResponse where
  data : Option Json
  errors : Option (List GraphQlError)
  keysDistinct : ∀ members, data = some (.object members) → (members.map Prod.fst).Nodup

/-! ### SSE items and errors -/

/-- `eventsource_client::Error`, as far as the client tells the variants apart.
The flag of a transport error says whether a timeout is among its causes, as
`caused_by_timeout` finds out. -/
inductive SseError
  | timedOut
  | transport (timeout : Bool)
  | httpStream (timeout : Bool)
  | unexpectedResponse (status : ℕ)
  | eof
  | unexpectedEof
  | invalidLine
  | invalidEvent
  | other
  deriving DecidableEq

/-- One item of the event source's stream. The data of an event is what
`serde_json` reads from it: `none` when it is not a GraphQL response. -/
inductive SseItem
  | event (data : Option GraphQlResponse)
  | comment
  | connected
  | error (error : SseError)

/-- What an in-memory client reports: a text, or the failure of an internal
transaction of a safe. -/
inductive MockError
  | message (message : Text)
  | internalTx (reason : Text)
  deriving DecidableEq

/-- `ErrorKind`, the variants that a subscription or an in-memory client can yield.
Durations are in seconds. -/
inductive ErrorKind
  | noData
  | blokliError (kind code message : Text)
  | invalidInput (message : Text)
  | parseError
  | subscription (error : SseError)
  | urlParse
  | serialization
  | graphQLError (error : GraphQlError)
  | hoprActionRejected (operation reason message : Text)
  | hoprActionThrottled (operation reason : Text) (retryAfter : ℕ) (message : Text)
  | mockClientError (error : MockError)
  deriving DecidableEq

/-- What went wrong most recently. -/
inductive SubscriptionProblem
  | transport
  | timeout
  | httpStatus (status : ℕ)
  | closed
  | malformedEvent
  | graphQl
  | lagged
  deriving DecidableEq

/-- What an SSE error says about the subscription. -/
def problemOf : SseError → SubscriptionProblem
  | .timedOut => .timeout
  | .transport true => .timeout
  | .httpStream true => .timeout
  | .unexpectedResponse status => .httpStatus status
  | .eof => .closed
  | .unexpectedEof => .malformedEvent
  | .invalidLine => .malformedEvent
  | .invalidEvent => .malformedEvent
  | .transport false => .transport
  | .httpStream false => .transport
  | .other => .transport

/-- Whether an HTTP status means Blokli refuses the subscription, rather than
being briefly unavailable. -/
def isRejection (status : ℕ) : Bool :=
  decide (400 ≤ status ∧ status < 500) && !(status == 408 || status == 425 || status == 429)

/-- The status of an SSE error that is a refusal. -/
def rejectionOf (error : SseError) : Option SubscriptionProblem :=
  match problemOf error with
  | .httpStatus status => if isRejection status then some (.httpStatus status) else none
  | _ => none

/-- One step of the `reduce` in `response_to_data`. -/
def GraphQlError.merge (acc next : GraphQlError) : GraphQlError where
  message := acc.message ++ (if acc.message.isEmpty then [] else ", ".toList) ++ next.message
  locations :=
    match next.locations with
    | none => acc.locations
    | some locs => some (acc.locations.getD [] ++ locs)
  path :=
    match next.path with
    | none => acc.path
    | some path => some (acc.path.getD [] ++ path)

/-- `response_to_data` at `serde_json::Value`. -/
def responseToData (response : GraphQlResponse) : Except ErrorKind Json :=
  match response.data, response.errors with
  | some data, _ => .ok data
  | none, some [] => .error .noData
  | none, some (e :: es) => .error (.graphQLError (es.foldl GraphQlError.merge e))
  | none, none => .error .noData

/-- `errors_to_client_error`. -/
def errorsToClientError (errors : List GraphQlError) : ErrorKind :=
  match responseToData { data := none, errors := some errors, keysDistinct := nofun } with
  | .error e => e
  | .ok _ => .noData

/-! ### The client's configuration -/

/-- The part of `BlokliClientConfig` that the subscription hub reads. -/
structure BlokliClientConfig where
  /-- Maximum delay used by SSE reconnect backoff. -/
  streamReconnectTimeout : Duration := Duration.fromSecs 30
  /-- Delay before recreating a completed SSE stream; `none` lets it end. -/
  subscriptionStreamRestartDelay : Option Duration := some (Duration.fromSecs 1)
  /-- How long a subscription may go without any traffic before it counts as stalled. -/
  subscriptionStallThreshold : Option Duration := some (Duration.fromSecs 90)

def minReconnectionDelay : Duration := Duration.fromMillis 1

/-- First wait before reconnecting after a malformed event, used when no stream
restart delay is configured. -/
def defaultMalformedEventDelay : Duration := Duration.fromSecs 1

/-- The wait before retrying a subscription Blokli rejected. -/
def rejectedRetryDelay (cfg : BlokliClientConfig) : Duration :=
  max cfg.streamReconnectTimeout minReconnectionDelay

/-- The wait before reconnecting after a malformed event, and the new value of
the backoff state. -/
def nextMalformedEventDelay (cfg : BlokliClientConfig) (state : Option Duration) :
    Duration × Option Duration :=
  let first :=
    max (cfg.subscriptionStreamRestartDelay.getD defaultMalformedEventDelay) minReconnectionDelay
  let delay :=
    match state with
    | none => first
    | some last => min (last.saturatingMul 2) (max cfg.streamReconnectTimeout first)
  (delay, some delay)

/-- The reconnect delay of a resumable connection after an error of its stream. -/
def nextReconnectDelay (cfg : BlokliClientConfig) (state : Option Duration) : Duration :=
  let max' := max cfg.streamReconnectTimeout minReconnectionDelay
  match state with
  | none => min max' (Duration.fromSecs 2)
  | some last => min (last.saturatingMul 2) max'

end Blokli
