/-!
# Errors

The causes for which brokers, stores, the enrichment of events and the relay itself give up, each
with its message. Only an error of the broker that says so may be tried again.
-/

namespace AlertRelay

/-- Why a broker refused an operation. -/
inductive BrokerError where
  /-- The operation may succeed when it is tried again. -/
  | transient (detail : String)
  /-- The client can do nothing more. -/
  | fatal (detail : String)
  /-- The operation does not fit the state of the transaction. -/
  | state (detail : String)
  /-- The client has been closed. -/
  | closed
  deriving DecidableEq, Inhabited

/-- Why a store refused an operation. -/
inductive StoreError where
  /-- The database or the connection to it failed. -/
  | database (detail : String)
  | unavailable (detail : String)
  /-- A stored row could not be read. -/
  | corrupt (detail : String)
  | closed
  deriving DecidableEq, Inhabited

/-- Why an event could not be enriched. -/
inductive EnrichmentError where
  | normalization (detail : String)
  | scoring (detail : String)
  | labeling (detail : String) (retryable : Bool)
  deriving DecidableEq, Inhabited

/-- Why the relay gave up on a record or on a run. -/
inductive RelayError where
  | broker (cause : BrokerError)
  | store (cause : StoreError)
  | enrichment (cause : EnrichmentError)
  | deserialization (detail : String)
  | serialization (detail : String)
  | config (detail : String)
  | offset (detail : String)
  /-- The last of so many attempts failed with an error that could be tried again. -/
  | retriesExhausted (attempts : Nat) (cause : RelayError)
  | channel (detail : String)
  | shutdown (detail : String)
  deriving DecidableEq, Inhabited

namespace BrokerError

/-- The name of an error's kind. -/
def kind : BrokerError → String
  | transient _ => "Transient"
  | fatal _ => "Fatal"
  | state _ => "State"
  | closed => "Closed"

/-- The message of an error. -/
def message : BrokerError → String
  | transient detail => "transient broker error: " ++ detail
  | fatal detail => "fatal broker error: " ++ detail
  | state detail => "invalid transaction state: " ++ detail
  | closed => "broker client closed"

/-- Whether the operation may succeed when it is tried again. -/
def isTransient : BrokerError → Bool
  | transient _ => true
  | _ => false

end BrokerError

namespace StoreError

/-- The name of an error's kind. -/
def kind : StoreError → String
  | database _ => "Database"
  | unavailable _ => "Unavailable"
  | corrupt _ => "Corrupt"
  | closed => "Closed"

/-- The message of an error. -/
def message : StoreError → String
  | database detail => "database error: " ++ detail
  | unavailable detail => "datastore unavailable: " ++ detail
  | corrupt detail => "corrupt alert row: " ++ detail
  | closed => "datastore closed"

end StoreError

namespace EnrichmentError

/-- The name of an error's kind. -/
def kind : EnrichmentError → String
  | normalization _ => "Normalization"
  | scoring _ => "Scoring"
  | labeling _ _ => "Labeling"

/-- The message of an error. -/
def message : EnrichmentError → String
  | normalization detail => "normalization failed: " ++ detail
  | scoring detail => "scoring failed: " ++ detail
  | labeling detail _ => "labeling failed: " ++ detail

/-- Whether labeling may succeed when it is tried again. -/
def isRetryable : EnrichmentError → Bool
  | labeling _ retryable => retryable
  | _ => false

end EnrichmentError

namespace RelayError

/-- The name of an error's kind. -/
def kind : RelayError → String
  | broker _ => "Broker"
  | store _ => "Store"
  | enrichment _ => "Enrichment"
  | deserialization _ => "Deserialization"
  | serialization _ => "Serialization"
  | config _ => "Config"
  | offset _ => "Offset"
  | retriesExhausted _ _ => "RetriesExhausted"
  | channel _ => "Channel"
  | shutdown _ => "Shutdown"

/-- The message of an error. -/
def message : RelayError → String
  | broker cause => "Broker error: " ++ cause.message
  | store cause => "Store error: " ++ cause.message
  | enrichment cause => "Enrichment error: " ++ cause.message
  | deserialization detail => "Deserialization error: " ++ detail
  | serialization detail => "Serialization error: " ++ detail
  | config detail => "Configuration error: " ++ detail
  | offset detail => "Offset error: " ++ detail
  | retriesExhausted attempts cause =>
    "Retries exhausted after " ++ toString attempts ++ " attempts: " ++ cause.message
  | channel detail => "Channel error: " ++ detail
  | shutdown detail => "Shutdown error: " ++ detail

/-- The message of the error behind an error, if there is one. -/
def causeMessage? : RelayError → Option String
  | broker cause => some cause.message
  | store cause => some cause.message
  | enrichment cause => some cause.message
  | serialization detail => some detail
  | retriesExhausted _ cause => some cause.message
  | _ => none

/-- Whether the unit of work may be tried again. -/
def isRetryable : RelayError → Bool
  | broker cause => cause.isTransient
  | _ => false

/-- The error of a delivery to a worker that has gone. -/
def receiverGone : RelayError := channel "Failed to send: channel closed"

end RelayError

end AlertRelay
