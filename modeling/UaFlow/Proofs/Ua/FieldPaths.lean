import UaFlow.Flow.Node
import UaFlow.Proofs.Text.Split
/-!
# Field paths of event filters

A select clause names a field of the base event type by a path of browse names: the field's
dotted name split at every dot, empty segments included, each segment a name in namespace `0`.
Joining the path back with dots gives the field name, whatever characters it holds, so the field
names of the filter built from a list of names are that list (`EventFilter.fieldNames_ofFields`).
Main statement (`EventFilter.ofFields_spec`): that, the JSON form of such a filter clause by
clause, and, for every event node and message, the event fields and the filter it sets both
naming the same 27 fields.
-/

namespace UaFlow.Ua

open UaFlow.Json UaFlow.Text

/-- The browse path of a field is its name split at dots, each segment in namespace `0`. -/
theorem SelectClause.browsePath_ofField (field : String) :
    (SelectClause.ofField field).browsePath =
      (field.toList.splitOn '.').map fun segment => ⟨0, String.ofList segment⟩ := by
  rw [SelectClause.ofField, show "." = String.singleton '.' from rfl, splitOn_singleton,
    List.map_map]
  rfl

/-- Joining a field's path with dots gives the field name back. -/
theorem SelectClause.fieldName_ofField (field : String) :
    (SelectClause.ofField field).fieldName = field := by
  have hnames : (QualifiedName.name ∘ fun segment => (⟨0, segment⟩ : QualifiedName)) = id := rfl
  rw [SelectClause.fieldName, SelectClause.ofField, List.map_map, hnames, List.map_id]
  exact intercalate_splitOn_singleton field '.'

theorem EventFilter.fieldNames_ofFields (fields : List String) :
    (EventFilter.ofFields fields).fieldNames = fields := by
  simp only [EventFilter.fieldNames, EventFilter.ofFields, List.map_map]
  conv_rhs => rw [← List.map_id fields]
  exact List.map_congr_left fun field _ => SelectClause.fieldName_ofField field

/-- The JSON form of the clause for a field: type definition `i=2041`, the field's dotted name
split at every dot into names in namespace `0`, and the value attribute `13`. -/
theorem SelectClause.toValue_ofField (field : String) :
    (SelectClause.ofField field).toValue = Value.object [("typeDefinitionId", .str "i=2041"),
      ("browsePath", .arr ((field.toList.splitOn '.').map fun segment =>
        Value.object [("namespaceIndex", .num (Number.ofNat 0)), ("name", .str (String.ofList segment))])),
      ("attributeId", .num (Number.ofNat 13))] := by
  have hbase : baseEventType.render = "i=2041" := by decide
  rw [SelectClause.toValue, SelectClause.browsePath_ofField, List.map_map]
  simp only [SelectClause.ofField, hbase, valueAttribute]
  rfl

/-- **Filters built from field names.** Reading the field names back from the filter built from
any list of names gives the list; its JSON form has one clause per field, in order, and an empty
where clause; and every event node sets, on every message, the standard event fields and the JSON
form of the filter built from them, whose field names are those fields. -/
theorem EventFilter.ofFields_spec :
    (∀ fields : List String, (EventFilter.ofFields fields).fieldNames = fields) ∧
    (∀ fields : List String, (EventFilter.ofFields fields).toValue =
      Value.object [("selectClauses", .arr (fields.map fun field =>
          Value.object [("typeDefinitionId", .str "i=2041"),
            ("browsePath", .arr ((field.toList.splitOn '.').map fun segment =>
              Value.object [("namespaceIndex", .num (Number.ofNat 0)),
                ("name", .str (String.ofList segment))])),
            ("attributeId", .num (Number.ofNat 13))])),
        ("whereClause", Value.object [("elements", .arr [])])]) ∧
    (∀ (c : Flow.EventConfig) (m : Flow.Message),
      (c.process m).eventFields = some eventFields ∧
      (c.process m).eventFilter = some (EventFilter.ofFields eventFields).toValue ∧
      (EventFilter.ofFields eventFields).fieldNames = eventFields) := by
  refine ⟨EventFilter.fieldNames_ofFields, fun fields => ?_,
    fun c m => ⟨rfl, rfl, EventFilter.fieldNames_ofFields eventFields⟩⟩
  simp only [EventFilter.toValue, EventFilter.ofFields, List.map_map, Function.comp_def,
    SelectClause.toValue_ofField]

end UaFlow.Ua
