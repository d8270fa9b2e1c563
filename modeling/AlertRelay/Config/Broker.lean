import AlertRelay.Config.Consumer
import AlertRelay.Text.Blank

/-!
# Connecting to the broker

The settings of the connection and the client properties that they come to. Properties that are
given freely come from a list, and none of those on it has to do with security.
-/

namespace AlertRelay

/-- A text that is not shown. -/
structure Secret where
  value : String
  deriving DecidableEq, Inhabited

/-- The settings of the connection to the broker. -/
structure BrokerSettings where
  bootstrapServers : String
  saslUsername : Option String
  saslPassword : Option Secret
  saslMechanism : String
  sslCaLocation : Option String
  /-- The identifiers of transactional producers begin with this. -/
  transactionalId : String
  transactionTimeoutMillis : Nat
  transactionOpTimeoutMillis : Nat
  /-- Properties given freely, sorted by name. -/
  properties : List (String × String)
  deriving Inhabited

namespace Secret

/-- What is shown of a secret. -/
def shown (_ : Secret) : String := "***"

/-- What is shown of a secret that may be missing. -/
def shownOptional : Option Secret → String
  | some s => "Some(" ++ s.shown ++ ")"
  | none => "None"

end Secret

namespace BrokerSettings

/-- The properties that may be given freely. -/
def allowedProperties : List String :=
  ["compression.type", "compression.level", "fetch.min.bytes", "fetch.wait.max.ms",
    "fetch.max.bytes", "max.partition.fetch.bytes", "request.timeout.ms", "metadata.max.age.ms",
    "socket.receive.buffer.bytes", "socket.send.buffer.bytes", "queued.min.messages",
    "queued.max.messages.kbytes", "fetch.error.backoff.ms", "max.poll.interval.ms", "linger.ms",
    "batch.num.messages", "message.max.bytes", "reconnect.backoff.ms", "reconnect.backoff.max.ms",
    "connections.max.idle.ms", "socket.keepalive.enable", "statistics.interval.ms"]

/-- The settings when nothing is set. -/
def standard : BrokerSettings where
  bootstrapServers := "localhost:9092"
  saslUsername := none
  saslPassword := none
  saslMechanism := "SCRAM-SHA-512"
  sslCaLocation := none
  transactionalId := "ai-service-txn"
  transactionTimeoutMillis := 60000
  transactionOpTimeoutMillis := 30000
  properties := []

/-- The properties that have to do with security. -/
def securityProperties (s : BrokerSettings) : List (String × String) :=
  match s.saslUsername, s.saslPassword with
  | some user, some password =>
    [("security.protocol", "SASL_SSL"), ("sasl.mechanism", s.saslMechanism),
      ("sasl.username", user), ("sasl.password", password.value)]
  | _, _ => if s.sslCaLocation.isSome then [("security.protocol", "SSL")] else []

/-- The properties of consumers and producers. -/
def clientProperties (s : BrokerSettings) : List (String × String) :=
  [("bootstrap.servers", s.bootstrapServers)] ++ s.securityProperties ++
    (s.sslCaLocation.map fun path => ("ssl.ca.location", path)).toList ++ s.properties

/-- The identifier of the transactional producer of a worker. -/
def workerTransactionalId (s : BrokerSettings) (worker : Nat) : String :=
  s.transactionalId ++ "-" ++ toString worker

/-- Names in quotes, between brackets. -/
def quotedList (names : List String) : String :=
  "[" ++ ", ".intercalate (names.map fun name => "\"" ++ name ++ "\"") ++ "]"

/-- The first complaint about settings, if there is one. -/
def complaint? (s : BrokerSettings) : Option String :=
  if (trimText s.bootstrapServers).isEmpty then some "kafka.bootstrap_servers is empty"
  else if (trimText s.transactionalId).isEmpty then some "kafka.transactional_id is empty"
  else if s.saslUsername.isSome != s.saslPassword.isSome then
    some "kafka SASL username and password must be set together"
  else
    (s.properties.find? fun p => !allowedProperties.contains p.1).map fun p =>
      "Disallowed Kafka property '" ++ p.1 ++ "'. Allowed properties: " ++
        quotedList allowedProperties

/-- Sets a property. -/
def setProperty (s : BrokerSettings) (name value : String) : BrokerSettings :=
  { s with properties := Json.insertMember name value s.properties }

/-- The document of all settings. -/
def toDocument (s : BrokerSettings) : Document :=
  .ofFields [("bootstrap_servers", .text s.bootstrapServers),
    ("sasl_username", ConsumerConfig.textDocument s.saslUsername),
    ("sasl_password", ConsumerConfig.textDocument (s.saslPassword.map Secret.value)),
    ("sasl_mechanism", .text s.saslMechanism),
    ("ssl_ca_location", ConsumerConfig.textDocument s.sslCaLocation),
    ("transactional_id", .text s.transactionalId),
    ("transaction_timeout_ms", .integer s.transactionTimeoutMillis),
    ("transaction_op_timeout_ms", .integer s.transactionOpTimeoutMillis),
    ("properties", .ofFields (s.properties.map fun (name, value) => (name, .text value)))]

/-- The settings that have been read. -/
structure Fields where
  bootstrapServers : Option String
  saslUsername : Option (Option String)
  saslPassword : Option (Option Secret)
  saslMechanism : Option String
  sslCaLocation : Option (Option String)
  transactionalId : Option String
  transactionTimeoutMillis : Option Nat
  transactionOpTimeoutMillis : Option Nat
  properties : Option (List (String × String))

/-- Reads a secret. -/
def secretDecoder : Decoder Secret := fun rules d => (Decoder.text rules d).map Secret.mk

/-- Reads properties. -/
def propertiesDecoder : Decoder (List (String × String)) := fun rules d =>
  (Decoder.members Decoder.text rules d).map Json.sortMembers

/-- Reads settings; what is missing is standard. -/
def decoder : Decoder BrokerSettings :=
  Decoder.record
    [.named "bootstrap_servers" Decoder.text Fields.bootstrapServers
        fun v found => { found with bootstrapServers := some v },
      .named "sasl_username" (Decoder.optional Decoder.text) Fields.saslUsername
        fun v found => { found with saslUsername := some v },
      .named "sasl_password" (Decoder.optional secretDecoder) Fields.saslPassword
        fun v found => { found with saslPassword := some v },
      .named "sasl_mechanism" Decoder.text Fields.saslMechanism
        fun v found => { found with saslMechanism := some v },
      .named "ssl_ca_location" (Decoder.optional Decoder.text) Fields.sslCaLocation
        fun v found => { found with sslCaLocation := some v },
      .named "transactional_id" Decoder.text Fields.transactionalId
        fun v found => { found with transactionalId := some v },
      .named "transaction_timeout_ms" ConsumerConfig.word Fields.transactionTimeoutMillis
        fun v found => { found with transactionTimeoutMillis := some v },
      .named "transaction_op_timeout_ms" ConsumerConfig.word Fields.transactionOpTimeoutMillis
        fun v found => { found with transactionOpTimeoutMillis := some v },
      .named "properties" propertiesDecoder Fields.properties
        fun v found => { found with properties := some v }]
    ⟨none, none, none, none, none, none, none, none, none⟩
    fun found => some {
      bootstrapServers := found.bootstrapServers.getD standard.bootstrapServers
      saslUsername := found.saslUsername.getD standard.saslUsername
      saslPassword := found.saslPassword.getD standard.saslPassword
      saslMechanism := found.saslMechanism.getD standard.saslMechanism
      sslCaLocation := found.sslCaLocation.getD standard.sslCaLocation
      transactionalId := found.transactionalId.getD standard.transactionalId
      transactionTimeoutMillis :=
        found.transactionTimeoutMillis.getD standard.transactionTimeoutMillis
      transactionOpTimeoutMillis :=
        found.transactionOpTimeoutMillis.getD standard.transactionOpTimeoutMillis
      properties := found.properties.getD standard.properties }

end BrokerSettings

end AlertRelay
