import CreditExtraction.Llm.Ollama
import CreditExtraction.Llm.OpenAi
import CreditExtraction.Service.Settings

/-!
# Choosing the chat model

The settings name the provider: `ollama` (or none) for a locally served model, `openai` for a
chat-completions service whose key falls back to `OPENAI_API_KEY`. Any other name is refused
as `invalid input: unknown LLM provider "<name>"`; names are compared as written.
-/

namespace CreditExtraction.Llm

open Net

/-- The chat backend the settings name, over a transport. -/
def chatBackendOf {m : Type → Type} [Monad m] (t : Transport m) (s : LlmSettings) (env : Environment) :
    Except Failure (ChatBackend m) :=
  match s.provider with
  | "ollama" | "" => ollamaBackend t ⟨s.baseUrl, s.model⟩
  | "openai" =>
    .ok (openAiBackend t (OpenAiSettings.resolved ⟨s.apiKey, s.baseUrl, s.model⟩ (env "OPENAI_API_KEY")))
  | p => .error (Failure.tagged .invalidInput ("unknown LLM provider " ++ Text.Quoted.quote p))

end CreditExtraction.Llm
