import UaFlow.Ua.NodeId
import UaFlow.Ua.QualifiedName
import UaFlow.Json.Value
/-!
# Event filters

An event subscription selects fields of the events it receives. A field is named by a path of
browse names from the base event type, written with dots (`EnabledState.Id`); each segment,
empty ones included, is one name in namespace `0`. A filter built from field names selects one
clause per field, in order, each reading the value attribute; reading the names back from the
clauses gives the field names again.

Seven standard event types are known by name, and every event node selects the same 27 fields of
the base event, condition, acknowledgeable condition, alarm and limit alarm types.
-/

namespace UaFlow.Ua

open UaFlow.Json

/-- The base event type, the type definition of every select clause. -/
def baseEventType : NodeId := ⟨0, .numeric 2041⟩

/-- The value attribute, the attribute every select clause reads. -/
def valueAttribute : Nat := 13

/-- The standard event types, by name and node id text. -/
def standardEventTypes : List (String × String) :=
  [("BaseEventType", "ns=0;i=2041"), ("AlarmConditionType", "ns=0;i=2915"),
    ("LimitAlarmType", "ns=0;i=2955"), ("ExclusiveLevelAlarmType", "ns=0;i=9482"),
    ("NonExclusiveLevelAlarmType", "ns=0;i=10060"), ("OffNormalAlarmType", "ns=0;i=10637"),
    ("TripAlarmType", "ns=0;i=10751")]

/-- The name of a standard event type, by the exact text of its node id. -/
def eventTypeName? (id : String) : Option String :=
  (standardEventTypes.find? fun entry => entry.2 = id).map Prod.fst

/-- The fields every event node selects, in order. -/
def eventFields : List String :=
  ["EventId", "EventType", "SourceNode", "SourceName", "Time", "ReceiveTime", "Message",
    "Severity", "ConditionClassId", "ConditionClassName", "ConditionName", "BranchId", "Retain",
    "EnabledState", "Quality", "LastSeverity", "Comment", "ClientUserId", "AckedState",
    "ConfirmedState", "ActiveState", "InputNode", "SuppressedState", "HighLimit", "LowLimit",
    "HighHighLimit", "LowLowLimit"]

/-- One selected field: a browse path from a type definition, and the attribute read. -/
structure SelectClause where
  typeDefinition : NodeId
  browsePath : List QualifiedName
  attributeId : Nat
  deriving DecidableEq, Inhabited

/-- A filter of selected fields, with an empty where clause. -/
structure EventFilter where
  selectClauses : List SelectClause
  deriving DecidableEq, Inhabited

/-- The clause selecting a field named by its dotted path. -/
def SelectClause.ofField (field : String) : SelectClause :=
  ⟨baseEventType, (field.splitOn ".").map fun segment => ⟨0, segment⟩, valueAttribute⟩

/-- The filter selecting fields, one clause per field in order. -/
def EventFilter.ofFields (fields : List String) : EventFilter :=
  ⟨fields.map SelectClause.ofField⟩

/-- The dotted name of the field a clause selects. -/
def SelectClause.fieldName (c : SelectClause) : String :=
  ".".intercalate (c.browsePath.map QualifiedName.name)

/-- The dotted names of the fields a filter selects. -/
def EventFilter.fieldNames (f : EventFilter) : List String :=
  f.selectClauses.map SelectClause.fieldName

/-- The JSON form of a select clause. -/
def SelectClause.toValue (c : SelectClause) : Value :=
  Value.object [("typeDefinitionId", .str c.typeDefinition.render),
    ("browsePath", .arr (c.browsePath.map fun q =>
      Value.object [("namespaceIndex", .num (Number.ofNat q.namespaceIndex)), ("name", .str q.name)])),
    ("attributeId", .num (Number.ofNat c.attributeId))]

/-- The JSON form of a filter. -/
def EventFilter.toValue (f : EventFilter) : Value :=
  Value.object [("selectClauses", .arr (f.selectClauses.map SelectClause.toValue)),
    ("whereClause", Value.object [("elements", .arr [])])]

end UaFlow.Ua
