import Redelivery.Connection
import Redelivery.Settings

/-!
# Report

The chains of all endpoints of a configuration in lines of text, and the topics to create for them.
The endpoints are bound one after the other; the lines that come before an error count.
-/

namespace Redelivery

/-- Why a report is not complete. -/
inductive ReportError where
  | settings (cause : SettingsError)
  | configuration (cause : ConfigurationError)
  | transport (cause : TransportError)
  deriving Repr, DecidableEq

/-- The text of a report error. -/
def ReportError.message : ReportError → String
  | .settings cause => cause.message
  | .configuration cause => cause.message
  | .transport cause => cause.message

/-- The lines and the topics of endpoints. -/
structure Report where
  lines : List String := []
  topics : List TopicRequest := []
  outcome : Except ReportError Unit := .ok ()

namespace Report

/-- The width of the column of topics. -/
def topicWidth : Nat := 40

/-- The width of the column of roles. -/
def roleWidth : Nat := 28

/-- A text with blanks after it up to a width. -/
def pad (width : Nat) (s : String) : String :=
  s ++ String.ofList (List.replicate (width - s.length) ' ')

/-- The line of an endpoint. -/
def endpointLine (e : Endpoint) (c : Configuration) : String :=
  s!"{e.id} (group {e.group}, configuration {c.name})"

/-- The line of a stage of the chain of a main topic. -/
def stageLine (mainTopic : String) (s : Stage) : String :=
  "  " ++ pad topicWidth (s.topicFor mainTopic) ++ " " ++ pad roleWidth s.role.name ++
    s!" delay={s.delay.toNat}ms"

/-- The report of one endpoint. -/
def ofEndpoint (e : Endpoint) (c : Configuration) : Report where
  lines := endpointLine e c :: e.topics.flatMap fun t => c.chain.stages.map (stageLine t)
  topics := e.topics.flatMap c.topicsToCreate

/-- Two reports, one after the other. -/
def append (a b : Report) : Report := ⟨a.lines ++ b.lines, a.topics ++ b.topics, b.outcome⟩

/-- The report of endpoints up to the first whose topics cannot be bound. -/
def ofEndpoints (r : Registry) : List Endpoint → Report
  | [] => {}
  | e :: es =>
      match r.bindTopics e.topics with
      | (.error cause, _) => { outcome := .error (.configuration cause) }
      | (.ok c, r) => (ofEndpoint e c).append (ofEndpoints r es)

/-- The report after its topics are created, for which a broker has to be reached unless there are
none. -/
def create (r : Report) (kind : MessagingKind) : Report :=
  match r.outcome, r.topics with
  | .error _, _ | .ok _, [] => r
  | .ok _, topics =>
      let connection := (Connection.connect fun _ => kind.connect).1
      { r with outcome :=
          (connection.mapError ReportError.transport).map fun b =>
            let _created := b.createTopics topics
            () }

/-- The report of a whole configuration. -/
def ofSettings (s : Settings) (draw : UInt32 → Nat) : Report :=
  match s.registry draw with
  | .error cause => { outcome := .error (.settings cause) }
  | .ok r => (ofEndpoints r s.endpoints).create s.messaging.kind

end Report

end Redelivery
