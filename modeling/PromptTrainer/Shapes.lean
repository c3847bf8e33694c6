import PromptTrainer.Schema.Build
/-!
# Reference record shapes and their recognizers

Fixed schemas for the records that modules exchange: generic inputs and outputs, chat
messages, embeddings, entities, relations, knowledge graphs, predictions, instructions and
search queries.

A recognizer decides from a schema alone whether it has a shape, always through
`Schema.contains`, in one of two ways:

* canonical: the schema contains the full reference schema (chat messages, embeddings,
  predictions, instructions);
* presence: the schema declares the listed names, with any type and any `required` flag
  (entities, relations, knowledge graphs, searches), checked as containment of a schema of
  optional `any` fields.
-/

namespace PromptTrainer
namespace Shapes

/-- A required `map<any>` field with a description. -/
def anyMap (name description : String) : Field :=
  (Field.ofRequired name (.map .any)).withDescription description

/-- The embedding vector field. -/
def embeddingField : Field :=
  (Field.ofRequired "embedding" (.list .number)).withDescription "The embedding vector"

/-- The entity label field. -/
def entityLabel : Field :=
  (Field.ofRequired "label" .string).withDescription "The entity label"

/-- The optional reward field, null by default. -/
def rewardField (description : String) : Field :=
  ((Field.ofOptional "reward" (.optional .number)).withDefault .null).withDescription description

/-- A required string field of a search query. -/
def searchLabel (name description : String) : Field :=
  (Field.ofRequired name .string).withDescription description

/-- A titled schema of fields known to have distinct names and valid defaults. -/
def titled (title : String) (fields : List Field) : Schema := ⟨some title, fields⟩

/-- The three chat roles. -/
def chatRoles : List String := ["system", "user", "assistant"]

/-- The default label of a prediction. -/
def predictionLabel : String := "Prediction"

/-- The default label of an instruction set. -/
def instructionsLabel : String := "Instructions"

/-- Generic inputs. -/
def genericInputs : Schema := titled "GenericInputs" [anyMap "inputs" "The inputs"]

/-- Generic outputs. -/
def genericOutputs : Schema := titled "GenericOutputs" [anyMap "outputs" "The outputs"]

/-- Generic inputs and outputs. -/
def genericIO : Schema :=
  titled "GenericIO" [anyMap "inputs" "The inputs", anyMap "outputs" "The outputs"]

/-- A generic result list. -/
def genericResult : Schema :=
  titled "GenericResult"
    [(Field.ofRequired "result" (.list .any)).withDescription "The result"]

/-- A chat message: a role and a content. -/
def chatMessage : Schema :=
  titled "ChatMessage"
    [Field.ofRequired "role" (FieldType.ofStrings chatRoles), Field.ofRequired "content" .string]

/-- A list of chat messages. -/
def chatMessages : Schema :=
  titled "ChatMessages"
    [(Field.ofRequired "messages" (.list (.object chatMessage))).withDescription
      "The list of chat messages"]

/-- An embedding vector. -/
def embedding : Schema := titled "Embedding" [embeddingField]

/-- A list of embedding vectors. -/
def embeddings : Schema :=
  titled "Embeddings"
    [(Field.ofRequired "embeddings" (.list (.list .number))).withDescription
      "The list of embedding vectors"]

/-- An entity: a label. -/
def entity : Schema := titled "Entity" [entityLabel]

/-- An entity with an embedding. -/
def embeddedEntity : Schema := titled "EmbeddedEntity" [entityLabel, embeddingField]

/-- A relation between two entities. -/
def relation : Schema :=
  titled "Relation"
    [(Field.ofRequired "subj" (.object entity)).withDescription "The subject entity",
     (Field.ofRequired "label" .string).withDescription "The relation label",
     (Field.ofRequired "obj" (.object entity)).withDescription "The object entity"]

/-- A list of entities. -/
def entities : Schema :=
  titled "Entities"
    [(Field.ofRequired "entities" (.list (.object entity))).withDescription
      "The list of entities"]

/-- A list of relations. -/
def relations : Schema :=
  titled "Relations"
    [(Field.ofRequired "relations" (.list (.object relation))).withDescription
      "The list of relations"]

/-- Entities and relations. -/
def knowledgeGraph : Schema :=
  titled "KnowledgeGraph"
    [(Field.ofRequired "entities" (.list (.object entity))).withDescription
      "The list of entities",
     (Field.ofRequired "relations" (.list (.object relation))).withDescription
      "The list of relations"]

/-- A prediction: label, inputs, outputs and reward. -/
def prediction : Schema :=
  titled "Prediction"
    [(Field.ofOptional "label" .string).withDefault (.string predictionLabel),
     anyMap "inputs" "The inputs",
     anyMap "outputs" "The outputs",
     rewardField "The prediction's reward"]

/-- An instruction set: label, instructions and reward. -/
def instructions : Schema :=
  titled "Instructions"
    [(Field.ofOptional "label" .string).withDefault (.string instructionsLabel),
     (Field.ofRequired "instructions" (.list .string)).withDescription
      "The list of instructions",
     rewardField "The instruction's reward"]

/-- A similarity search over entities. -/
def similaritySearch : Schema :=
  titled "SimilaritySearch"
    [searchLabel "entity_label"
      "The label of the entity to look for (use `*` to match them all)",
     searchLabel "similarity_search"
      "The natural language similarity query to match specific entities"]

/-- A similarity search over triplets. -/
def tripletSearch : Schema :=
  titled "TripletSearch"
    [searchLabel "subject_label"
      "The label of the subject entity (use `*` to match them all)",
     searchLabel "subject_similarity_search"
      "The natural language similarity query to match specific subject entities",
     searchLabel "relation_label" "The label of the relation to search for",
     searchLabel "object_label"
      "The label of the object entity (use `*` to match them all)",
     searchLabel "object_similarity_search"
      "The natural language similarity query to match specific object entities"]

/-- The input of instruction optimization: the pool of earlier instruction candidates and
the predictions made, both with their rewards. -/
def optimizationInput : Schema :=
  titled "OPROInputs"
    [(Field.ofRequired "instructions_candidates" (.list (.object instructions))).withDescription
      "The list of previous instructions candidates",
     (Field.ofRequired "predictions" (.list (.object prediction))).withDescription
      "The list of previous predictions"]

/-- The output of instruction optimization: an instruction set without its label and
reward. -/
def optimizationOutput : Schema :=
  ⟨instructions.title, instructions.fields.filter (fun f => f.name == "instructions")⟩

/-- The schema of optional `any` fields of the given names. -/
def presence (names : List String) : Schema :=
  titled "Presence" (names.map (fun n => Field.ofOptional n .any))

/-- The recognizable shapes, in their listing order. -/
inductive Recognizer where
  | chatMessage
  | chatMessages
  | embedding
  | embeddings
  | entity
  | embeddedEntity
  | entities
  | relation
  | relations
  | knowledgeGraph
  | prediction
  | instructions
  | similaritySearch
  | tripletSearch
deriving BEq, Repr

/-- Every recognizer, in listing order. -/
def Recognizer.all : List Recognizer :=
  [.chatMessage, .chatMessages, .embedding, .embeddings, .entity, .embeddedEntity, .entities,
   .relation, .relations, .knowledgeGraph, .prediction, .instructions, .similaritySearch,
   .tripletSearch]

/-- The name of a recognizer's shape. -/
def Recognizer.name : Recognizer → String
  | .chatMessage => "chat_message"
  | .chatMessages => "chat_messages"
  | .embedding => "embedding"
  | .embeddings => "embeddings"
  | .entity => "entity"
  | .embeddedEntity => "embedded_entity"
  | .entities => "entities"
  | .relation => "relation"
  | .relations => "relations"
  | .knowledgeGraph => "knowledge_graph"
  | .prediction => "prediction"
  | .instructions => "instructions"
  | .similaritySearch => "similarity_search"
  | .tripletSearch => "triplet_search"

/-- The schema a recognized schema must contain. -/
def Recognizer.reference : Recognizer → Schema
  | .chatMessage => Shapes.chatMessage
  | .chatMessages => Shapes.chatMessages
  | .embedding => Shapes.embedding
  | .embeddings => Shapes.embeddings
  | .prediction => Shapes.prediction
  | .instructions => Shapes.instructions
  | .entity => presence ["label"]
  | .embeddedEntity => presence ["label", "embedding"]
  | .relation => presence ["subj", "label", "obj"]
  | .entities => presence ["entities"]
  | .relations => presence ["relations"]
  | .knowledgeGraph => presence ["entities", "relations"]
  | .similaritySearch => presence ["entity_label", "similarity_search"]
  | .tripletSearch =>
    presence ["subject_label", "subject_similarity_search", "relation_label", "object_label",
      "object_similarity_search"]

/-- Whether a schema has the recognizer's shape. -/
def Recognizer.holds (r : Recognizer) (s : Schema) : Bool := s.contains r.reference

/-- Every recognizer's verdict on a schema, in listing order. -/
def recognize (s : Schema) : List (Recognizer × Bool) :=
  Recognizer.all.map (fun r => (r, r.holds s))

end Shapes
end PromptTrainer
