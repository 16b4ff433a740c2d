import VectorClient.Wire.Message

/-!
# Types with a JSON form

`Document α` pairs the text that is written for a value with the reading that
accepts it. Columns, results, messages, statuses and policies have such a form;
`Document.normalize?` reads a text and writes it anew, fields in their declared
order and sets and maps sorted.
-/

namespace VectorClient.Wire

/-- A type whose values are written as JSON text and read from it. -/
class Document (α : Type) where
  text : α → String
  reading : Json.Reading α

namespace Document

variable {α : Type} [Document α]

/-- The value that a text describes. -/
def read? (s : String) : Option α := (reading : Json.Reading α).ofText s

/-- The written form of the value that a text describes. -/
def normalize? (α : Type) [Document α] (s : String) : Option String :=
  (read? s : Option α).map text

end Document

instance : Document Column := ⟨columnText, columnReading⟩

instance : Document SparseVector := ⟨sparseText, sparseReading⟩

instance : Document ResultSet := ⟨resultSetText, resultSetReading⟩

instance : Document HitPage := ⟨hitPageText, hitPageReading⟩

instance : Document PrimaryKey := ⟨primaryKeyText, primaryKeyReading⟩

instance : Document HitKeys := ⟨hitKeysText, hitKeysReading⟩

instance : Document DataType := ⟨dataTypeText, dataTypeReading⟩

instance : Document FieldSchema := ⟨fieldSchemaText, fieldSchemaReading⟩

instance : Document Consistency := ⟨consistencyText, consistencyReading⟩

instance : Document Metric := ⟨metricText, metricReading⟩

instance : Document QueryRequest := ⟨queryRequestText, queryRequestReading⟩

instance : Document QueryReply := ⟨queryReplyText, queryReplyReading⟩

instance : Document SearchRequest := ⟨searchRequestText, searchRequestReading⟩

instance : Document SearchReply := ⟨searchReplyText, searchReplyReading⟩

instance : Document MutationRequest := ⟨mutationRequestText, mutationRequestReading⟩

instance : Document MutationReply := ⟨mutationReplyText, mutationReplyReading⟩

instance : Document DropRequest := ⟨dropRequestText, dropRequestReading⟩

instance : Document TransportCode := ⟨transportCodeText, transportCodeReading⟩

instance : Document ServerStatus := ⟨serverStatusText, serverStatusReading⟩

instance : Document RetryPolicy := ⟨retryPolicyText, retryPolicyReading⟩

end VectorClient.Wire
