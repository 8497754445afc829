import Blueprint.Integration
import Blueprint.Text.LetterCase
import Blueprint.Text.Words
import Blueprint.Url

/-
  What an integration can do: whether its endpoint can be
  called, and whether an AI answers there.

  Main definitions:
    * `isWellFormedEndpoint`
    * `isAiCapable`
-/

------------------------------------------------------------
-- Endpoints
------------------------------------------------------------

namespace Blueprint

/- An absolute web address with a host. -/
def isWellFormedEndpoint (endpoint : String) : Bool :=
  match Url.parse? endpoint with
  | none => false
  | some url =>
      (url.scheme == "http" || url.scheme == "https") &&
        url.host.isSome

end Blueprint

------------------------------------------------------------
-- AI Capability
------------------------------------------------------------

namespace Blueprint

open Text

/- The words that mark an integration as an AI. -/
def aiKeywords : List String :=
  ["ai", "llm", "gpt", "openai", "anthropic", "claude",
   "gemini", "model"]

/- The hosts of known providers. -/
def aiHosts : List String :=
  ["api.anthropic.com", "api.openai.com",
   "generativelanguage.googleapis.com", "api.mistral.ai",
   "api.cohere.ai"]

/- Some word of a text is a keyword in any ASCII case. -/
def hasAiKeyword (text : String) : Bool :=
  (words text.toList).any fun word =>
    aiKeywords.contains (String.ofList (asciiLowercase word))

/- An endpoint is at a known provider. -/
def hasAiHost (endpoint : String) : Bool :=
  match (Url.parse? endpoint).bind Url.host with
  | some (.domain name) =>
      aiHosts.contains (String.ofList (asciiLowercase name))
  | _ => false

/-
  An AI answers: the name or the purpose tells so, or the
  endpoint is at a known provider.
-/
def isAiCapable (i : Integration) : Bool :=
  hasAiKeyword i.name || i.purpose.any hasAiKeyword ||
    i.endpoint.any hasAiHost

end Blueprint
