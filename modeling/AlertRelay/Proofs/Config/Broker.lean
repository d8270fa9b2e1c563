import AlertRelay.Config.Service
import AlertRelay.Proofs.Document.Records
import AlertRelay.Proofs.Json.Sorted

/-!
# Client properties

Settings that are accepted come to client properties of which no name is given twice: the names that
the settings give themselves are reserved, and none of them is among those that may be given freely
(`BrokerSettings.clientProperties_distinct`). Settings that are read have each free property once
(`ServiceConfig.wellFormed_load`).
-/

namespace AlertRelay

namespace BrokerSettings

variable {s : BrokerSettings} {name value : String}

/-- Whether the free properties are sorted by name, each name once. -/
def WellFormed (s : BrokerSettings) : Prop := Json.Sorted s.properties

/-- Whether a user and a password are set. -/
def HasCredentials (s : BrokerSettings) : Prop :=
  s.saslUsername.isSome = true ∧ s.saslPassword.isSome = true

/-- The names of properties that come from settings of their own, in the order of the list. -/
def reserved : List String :=
  ["bootstrap.servers", "security.protocol", "sasl.mechanism", "sasl.username", "sasl.password",
    "ssl.ca.location"]

/-- The properties that come from settings of their own. -/
def ownProperties (s : BrokerSettings) : List (String × String) :=
  [("bootstrap.servers", s.bootstrapServers)] ++ s.securityProperties ++
    (s.sslCaLocation.map fun path => ("ssl.ca.location", path)).toList

/-- The properties of a client are those that come from settings of their own, and behind them the
free ones. -/
theorem clientProperties_eq (s : BrokerSettings) :
    s.clientProperties = s.ownProperties ++ s.properties := rfl

/-! ## What is accepted -/

/-- Free properties that are accepted are on the list, and the user and the password are set both
or neither. -/
theorem accepted_properties (accepted : s.complaint? = none) :
    (∀ p ∈ s.properties, p.1 ∈ allowedProperties) ∧
      s.saslUsername.isSome = s.saslPassword.isSome := by
  unfold BrokerSettings.complaint? at accepted
  split at accepted
  · cases accepted
  · split at accepted
    · cases accepted
    · split at accepted
      · cases accepted
      · next paired =>
          have none := List.find?_eq_none.mp (Option.map_eq_none_iff.mp accepted)
          exact ⟨fun p among => by simpa using none p among, by simpa using paired⟩

/-- No name that may be given freely is reserved. -/
theorem allowed_not_reserved : ∀ name ∈ allowedProperties, name ∉ reserved := by decide

/-- No free property of accepted settings has a name that comes from a setting of its own. -/
theorem not_reserved (accepted : s.complaint? = none) : ∀ p ∈ s.properties, p.1 ∉ reserved :=
  fun p among => allowed_not_reserved p.1 ((accepted_properties accepted).1 p among)

/-- In accepted settings a user is set just if a password is. -/
theorem hasCredentials_iff (accepted : s.complaint? = none) :
    (s.HasCredentials ↔ s.saslUsername.isSome = true) ∧
      (s.HasCredentials ↔ s.saslPassword.isSome = true) := by
  have paired := (accepted_properties accepted).2
  exact ⟨and_iff_left_of_imp paired.symm.trans, and_iff_right_of_imp paired.trans⟩

/-- Accepted settings without credentials have neither a user nor a password. -/
theorem not_hasCredentials_iff (accepted : s.complaint? = none) :
    ¬ s.HasCredentials ↔ s.saslUsername = none ∧ s.saslPassword = none := by
  obtain ⟨user, password⟩ := hasCredentials_iff accepted
  constructor
  · intro missing
    exact ⟨Option.not_isSome_iff_eq_none.mp (mt user.mpr missing),
      Option.not_isSome_iff_eq_none.mp (mt password.mpr missing)⟩
  · rintro ⟨missing, _⟩ complete
    rw [user, missing] at complete
    cases complete

/-! ## Own properties -/

/-- The names of the own properties are reserved, and each comes once. -/
theorem names_ownProperties (s : BrokerSettings) :
    (s.ownProperties.map Prod.fst).Sublist reserved := by
  obtain ⟨_, user, password, _, path, _⟩ := s
  cases user <;> cases password <;> cases path <;>
    simp [BrokerSettings.ownProperties, BrokerSettings.securityProperties, reserved]

/-- Of the own properties, each says what its setting says. -/
theorem mem_ownProperties (s : BrokerSettings) (value : String) :
    (("bootstrap.servers", value) ∈ s.ownProperties ↔ value = s.bootstrapServers) ∧
      (("security.protocol", value) ∈ s.ownProperties ↔
        s.HasCredentials ∧ value = "SASL_SSL" ∨
          ¬ s.HasCredentials ∧ s.sslCaLocation.isSome = true ∧ value = "SSL") ∧
      (("sasl.mechanism", value) ∈ s.ownProperties ↔
        s.HasCredentials ∧ value = s.saslMechanism) ∧
      (("sasl.username", value) ∈ s.ownProperties ↔
        s.HasCredentials ∧ s.saslUsername = some value) ∧
      (("sasl.password", value) ∈ s.ownProperties ↔
        s.HasCredentials ∧ s.saslPassword.map Secret.value = some value) ∧
      (("ssl.ca.location", value) ∈ s.ownProperties ↔ s.sslCaLocation = some value) := by
  obtain ⟨_, user, password, _, path, _⟩ := s
  unfold BrokerSettings.ownProperties BrokerSettings.securityProperties
    BrokerSettings.HasCredentials
  cases user <;> cases password <;> cases path <;> simp [eq_comm]

/-- What has a reserved name comes from a setting of its own. -/
theorem mem_clientProperties (accepted : s.complaint? = none) (reserves : name ∈ reserved) :
    (name, value) ∈ s.clientProperties ↔ (name, value) ∈ s.ownProperties := by
  rw [clientProperties_eq, List.mem_append]
  exact or_iff_left fun free => not_reserved accepted _ free reserves

/-! ## All properties -/

/-- The free properties of the standard settings are sorted. -/
theorem wellFormed_standard : standard.WellFormed := .nil

/-- To set a property keeps the free ones sorted. -/
theorem WellFormed.setProperty (wellFormed : s.WellFormed) :
    (s.setProperty name value).WellFormed := Json.sorted_insertMember wellFormed

/-- Sorted properties have distinct names. -/
theorem WellFormed.nodup (wellFormed : s.WellFormed) : (s.properties.map Prod.fst).Nodup :=
  List.pairwise_map.mpr (wellFormed.imp fun before => Std.ne_of_lt before)

/-- All properties of a client have distinct names, if its settings are accepted. -/
theorem nodup_clientProperties (wellFormed : s.WellFormed) (accepted : s.complaint? = none) :
    (s.clientProperties.map Prod.fst).Nodup := by
  rw [clientProperties_eq, List.map_append]
  refine List.nodup_append.mpr ⟨(names_ownProperties s).nodup (by decide), wellFormed.nodup, ?_⟩
  rintro name own _ free rfl
  obtain ⟨p, among, rfl⟩ := List.mem_map.mp free
  exact not_reserved accepted p among ((names_ownProperties s).subset own)

/-- A client has a property just if the name comes with a value. -/
theorem mem_names : name ∈ s.clientProperties.map Prod.fst ↔
    ∃ value, (name, value) ∈ s.clientProperties := by
  constructor
  · intro among
    obtain ⟨⟨_, value⟩, there, rfl⟩ := List.mem_map.mp among
    exact ⟨value, there⟩
  · rintro ⟨value, there⟩
    exact List.mem_map_of_mem there

/-- The protocol is the one for credentials if they are set, or else the one for a path if it is. -/
theorem mem_protocol (accepted : s.complaint? = none) :
    ("security.protocol", value) ∈ s.clientProperties ↔
      s.HasCredentials ∧ value = "SASL_SSL" ∨
        (s.saslUsername = none ∧ s.saslPassword = none) ∧
          s.sslCaLocation.isSome = true ∧ value = "SSL" := by
  rw [mem_clientProperties accepted (by decide), (mem_ownProperties s value).2.1,
    not_hasCredentials_iff accepted]

/-- A client is told no protocol just if it has neither credentials nor a certificate of its own. -/
theorem protocol_notMem_iff (accepted : s.complaint? = none) :
    "security.protocol" ∉ s.clientProperties.map Prod.fst ↔
      (s.saslUsername = none ∧ s.saslPassword = none) ∧ s.sslCaLocation = none := by
  rw [mem_names, not_exists]
  simp only [mem_protocol accepted]
  constructor
  · intro silent
    have missing := (not_hasCredentials_iff accepted).mp fun complete =>
      silent "SASL_SSL" (.inl ⟨complete, rfl⟩)
    refine ⟨missing, Option.not_isSome_iff_eq_none.mp fun path => ?_⟩
    exact silent "SSL" (.inr ⟨missing, path, rfl⟩)
  · rintro ⟨missing, path⟩ value (⟨complete, _⟩ | ⟨_, there, _⟩)
    · exact (not_hasCredentials_iff accepted).mpr missing complete
    · rw [path] at there
      cases there

/-- Without credentials nothing is said about them. -/
theorem hasCredentials_of_mem_names (accepted : s.complaint? = none)
    (listed : name ∈ ["sasl.mechanism", "sasl.username", "sasl.password"])
    (named : name ∈ s.clientProperties.map Prod.fst) : s.HasCredentials := by
  obtain ⟨value, there⟩ := mem_names.mp named
  obtain ⟨_, _, mechanism, user, password, _⟩ := mem_ownProperties s value
  simp only [List.mem_cons, List.not_mem_nil, or_false] at listed
  rcases listed with rfl | rfl | rfl
  · exact (mechanism.mp ((mem_clientProperties accepted (by decide)).mp there)).1
  · exact (user.mp ((mem_clientProperties accepted (by decide)).mp there)).1
  · exact (password.mp ((mem_clientProperties accepted (by decide)).mp there)).1

/-- With settings that are accepted, no name is given twice: no free property has a reserved name,
each comes once, as it was given, and what has a reserved name says what its setting says. The
protocol is `SASL_SSL` with credentials, `SSL` with no more than a path, and not given otherwise;
and nothing of the credentials is given without `SASL_SSL`. -/
theorem clientProperties_distinct (wellFormed : s.WellFormed) (accepted : s.complaint? = none) :
    (s.clientProperties.map Prod.fst).Nodup ∧
      (∀ p ∈ s.properties, p.1 ∉ reserved ∧ p ∈ s.clientProperties ∧
        (s.clientProperties.map Prod.fst).count p.1 = 1) ∧
      (∀ value,
        (("bootstrap.servers", value) ∈ s.clientProperties ↔ value = s.bootstrapServers) ∧
        (("sasl.mechanism", value) ∈ s.clientProperties ↔
          s.HasCredentials ∧ value = s.saslMechanism) ∧
        (("sasl.username", value) ∈ s.clientProperties ↔ s.saslUsername = some value) ∧
        (("sasl.password", value) ∈ s.clientProperties ↔
          s.saslPassword.map Secret.value = some value) ∧
        (("ssl.ca.location", value) ∈ s.clientProperties ↔ s.sslCaLocation = some value)) ∧
      (("security.protocol", "SASL_SSL") ∈ s.clientProperties ↔ s.HasCredentials) ∧
      (("security.protocol", "SSL") ∈ s.clientProperties ↔
        (s.saslUsername = none ∧ s.saslPassword = none) ∧ s.sslCaLocation.isSome = true) ∧
      ("security.protocol" ∉ s.clientProperties.map Prod.fst ↔
        (s.saslUsername = none ∧ s.saslPassword = none) ∧ s.sslCaLocation = none) ∧
      ∀ name ∈ ["sasl.mechanism", "sasl.username", "sasl.password"],
        name ∈ s.clientProperties.map Prod.fst →
          ("security.protocol", "SASL_SSL") ∈ s.clientProperties := by
  have distinct := nodup_clientProperties wellFormed accepted
  have secured : ("security.protocol", "SASL_SSL") ∈ s.clientProperties ↔ s.HasCredentials := by
    simp [mem_protocol accepted]
  refine ⟨distinct, fun p among => ?_, fun value => ?_, secured, ?_, protocol_notMem_iff accepted,
    fun name listed named => secured.mpr (hasCredentials_of_mem_names accepted listed named)⟩
  · have there : p ∈ s.clientProperties := List.mem_append_right _ among
    exact ⟨not_reserved accepted p among, there,
      distinct.count.trans (if_pos (List.mem_map_of_mem there))⟩
  · obtain ⟨servers, _, mechanism, user, password, path⟩ := mem_ownProperties s value
    obtain ⟨userSet, passwordSet⟩ := hasCredentials_iff accepted
    have own {name : String} (reserves : name ∈ reserved) :
        (name, value) ∈ s.clientProperties ↔ (name, value) ∈ s.ownProperties :=
      mem_clientProperties accepted reserves
    refine ⟨(own (by decide)).trans servers, (own (by decide)).trans mechanism,
      (own (by decide)).trans (user.trans (and_iff_right_of_imp fun is => ?_)),
      (own (by decide)).trans (password.trans (and_iff_right_of_imp fun is => ?_)),
      (own (by decide)).trans path⟩
    · exact userSet.mpr (Option.isSome_of_eq_some is)
    · rw [passwordSet, ← Option.isSome_map, is]
      rfl
  · simp [mem_protocol accepted]

/-- Settings with credentials, a path and two free properties. -/
theorem clientProperties_distinct_secured :
    let s := ({ standard with
      saslUsername := some "relay", saslPassword := some ⟨"hush"⟩,
      sslCaLocation := some "/ca.pem" }.setProperty "linger.ms" "5").setProperty
        "compression.type" "lz4"
    s.WellFormed ∧ s.complaint? = none ∧
      s.clientProperties.map Prod.fst = reserved ++ ["compression.type", "linger.ms"] ∧
      (s.clientProperties.map Prod.fst).Nodup ∧
      (("linger.ms", "5") ∈ s.clientProperties ∧
        (s.clientProperties.map Prod.fst).count "linger.ms" = 1) ∧
      ("security.protocol", "SASL_SSL") ∈ s.clientProperties := by
  intro s
  have wellFormed : s.WellFormed := wellFormed_standard.setProperty.setProperty
  have accepted : s.complaint? = none := by decide +kernel
  have distinct := clientProperties_distinct wellFormed accepted
  exact ⟨wellFormed, accepted, by decide, distinct.1,
    (distinct.2.1 ("linger.ms", "5") (by decide)).2, distinct.2.2.2.1.mpr ⟨rfl, rfl⟩⟩

/-! ## Settings that are read -/

/-- Whether the free properties that are given are sorted by name, each name once. -/
def FieldsWellFormed (found : Fields) : Prop := ∀ given ∈ found.properties, Json.Sorted given

/-- Settings that are read have sorted properties: what is given is sorted, and what is missing is
empty. -/
theorem wellFormed_of_decoder {rules : DecodeRules} {d : Document}
    (read : decoder rules d = .ok s) : s.WellFormed := by
  obtain ⟨found, sorted, complete⟩ := Decoder.exists_of_record FieldsWellFormed
    (by
      intro field listed
      simp only [List.mem_cons, List.not_mem_nil, or_false] at listed
      rcases listed with rfl | rfl | rfl | rfl | rfl | rfl | rfl | rfl | rfl
      -- Only the last field holds free properties.
      all_goals try exact Decoder.keeps_named fun _ _ _ _ _ held => held
      apply Decoder.keeps_named
      intro rules d given read found held other is
      cases is
      unfold propertiesDecoder at read
      cases members : Decoder.members Decoder.text rules d with
      | error fault =>
          rw [members] at read
          cases read
      | ok members' =>
          rw [members] at read
          cases read
          exact Json.sorted_sortMembers members')
    (fun _ none => by cases none) read
  cases complete
  unfold BrokerSettings.WellFormed
  cases given : found.properties with
  | none => exact wellFormed_standard
  | some given' => exact sorted given' given

end BrokerSettings

namespace ServiceConfig

variable {c : ServiceConfig}

/-- Whether the section on the broker has sorted properties, if it is given. -/
def BrokerWellFormed (found : Fields) : Prop := ∀ s ∈ found.broker, s.WellFormed

/-- The free properties of settings that were read are sorted. -/
theorem wellFormed_of_decoder {rules : DecodeRules} {d : Document}
    (read : decoder rules d = .ok c) : c.broker.WellFormed := by
  obtain ⟨found, wellFormed, complete⟩ := Decoder.exists_of_record BrokerWellFormed
    (by
      intro field listed
      simp only [List.mem_cons, List.not_mem_nil, or_false] at listed
      rcases listed with rfl | rfl | rfl | rfl | rfl
      -- Only the first section is about the broker.
      all_goals try exact Decoder.keeps_named fun _ _ _ _ _ held => held
      apply Decoder.keeps_named
      intro rules d s read found held other is
      cases is
      exact BrokerSettings.wellFormed_of_decoder read)
    (fun _ none => by cases none) read
  cases complete
  change (found.broker.getD .standard).WellFormed
  cases given : found.broker with
  | none => exact BrokerSettings.wellFormed_standard
  | some s => exact wellFormed s given

/-- Accepted service settings have nothing to complain about in their broker section. -/
theorem complaint_of_validate (valid : c.validate = .ok ()) : c.complaint? = none := by
  unfold ServiceConfig.validate at valid
  split at valid
  · cases valid
  · next none => exact none

/-- What the settings were read from, before the environment overrode some of them. -/
theorem exists_of_load {file : SettingsFile} {env : Environment} (loaded : load file env = .ok c) :
    ∃ read : ServiceConfig, (read = standard ∨ ∃ text, ofToml text = .ok read) ∧
      c = read.applyEnvironment env ∧ c.complaint? = none := by
  have checked {read : ServiceConfig}
      (ended : ((read.applyEnvironment env).validate >>= fun _ => .ok (read.applyEnvironment env)) =
        Except.ok c) : c = read.applyEnvironment env ∧ c.complaint? = none := by
    obtain ⟨_, valid, same⟩ := bind_eq_ok ended
    cases same
    exact ⟨rfl, complaint_of_validate valid⟩
  unfold ServiceConfig.load at loaded
  cases file with
  | unset =>
      obtain ⟨read, given, rest⟩ := bind_eq_ok loaded
      exact ⟨read, .inl (Except.ok.inj given).symm, checked rest⟩
  | missing => cases loaded
  | holds text =>
      obtain ⟨read, spelled, rest⟩ := bind_eq_ok loaded
      exact ⟨read, .inr ⟨text, spelled⟩, checked rest⟩

/-- Settings that are read from a text come from a document. -/
theorem exists_of_ofToml {text : String} (read : ofToml text = .ok c) :
    ∃ d, decoder .toml d = .ok c := by
  unfold ServiceConfig.ofToml at read
  split at read
  · cases read
  · next d _ =>
      cases decoded : decoder .toml d with
      | error fault =>
          rw [decoded] at read
          cases read
      | ok c' =>
          rw [decoded] at read
          cases read
          exact ⟨d, decoded⟩

/-- The free properties of settings that were read from a text are sorted. -/
theorem wellFormed_ofToml {text : String} (read : ofToml text = .ok c) : c.broker.WellFormed := by
  obtain ⟨d, decoded⟩ := exists_of_ofToml read
  exact wellFormed_of_decoder decoded

/-- Whatever the file and the environment hold, the settings that come of it are of those that
`BrokerSettings.clientProperties_distinct` is about. -/
theorem wellFormed_load {file : SettingsFile} {env : Environment} (loaded : load file env = .ok c) :
    c.broker.WellFormed ∧ c.broker.complaint? = none := by
  obtain ⟨read, origin, rfl, accepted⟩ := exists_of_load loaded
  refine ⟨?_, (Option.or_eq_none_iff.mp accepted).1⟩
  change read.broker.WellFormed
  rcases origin with rfl | ⟨text, spelled⟩
  · exact BrokerSettings.wellFormed_standard
  · exact wellFormed_ofToml spelled

end ServiceConfig

end AlertRelay
