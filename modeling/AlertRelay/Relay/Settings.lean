import AlertRelay.Config.Consumer

/-!
# Settings of relay work

The topics that relay work writes to, the group it commits offsets for, and how often it tries.
-/

namespace AlertRelay

/-- The settings of relay work. -/
structure RelaySettings where
  group : String
  outputTopic : String
  alertsTopic : String
  deadLetterTopic : String
  /-- How often the work on a record is attempted. -/
  retry : RetryPolicy
  /-- How often the label of an event is asked for. -/
  labelerRetry : RetryPolicy
  deriving Inhabited

namespace RelaySettings

/-- The settings of relay work that the consumer loop is set up with. -/
def ofConsumer (c : ConsumerConfig) : RelaySettings :=
  ⟨c.groupId, c.outputTopic, c.alertsTopic, c.deadLetters, c.retryPolicy, c.labelerRetryPolicy⟩

end RelaySettings

end AlertRelay
