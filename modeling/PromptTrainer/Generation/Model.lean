import PromptTrainer.Generation.Scripted
import PromptTrainer.Generation.Chat
/-!
# Language models

A language model is either scripted (answers replayed from a queue) or served over HTTP.
Both have a name (the model's name), a portable configuration, and answer generation
requests; an HTTP model asks the local chat server, when there is one.
-/

namespace PromptTrainer

/-- A language model. -/
inductive LanguageModel where
  | scripted (model : ScriptedModel)
  | http (model : HttpModel)

namespace LanguageModel

/-- The model's name. -/
def name : LanguageModel → String
  | .scripted m => m.name
  | .http m => m.model

/-- The portable configuration of the model. -/
def config : LanguageModel → Json
  | .scripted m => m.config
  | .http m => m.config

/-- The answer to a request, the model after it, and the chat server after it. -/
def generate (request : GenerationRequest) (server : Option ChatServer) :
    LanguageModel → Except ModelError Record × LanguageModel × Option ChatServer
  | .scripted m =>
    let (answer, m) := m.generate request
    (answer, .scripted m, server)
  | .http m =>
    let (answer, server) := m.generate server request
    (answer, .http m, server)

/-- The scripted model, if the model is one. -/
def scripted? : LanguageModel → Option ScriptedModel
  | .scripted m => some m
  | .http _ => none

end LanguageModel

end PromptTrainer
