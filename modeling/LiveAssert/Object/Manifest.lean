import LiveAssert.Json.Pointer
import LiveAssert.Literal
import LiveAssert.Object
import LiveAssert.Yaml.Document

namespace LiveAssert

inductive ManifestError
  | invalid
  | missingApiVersion
  | missingKind
  | missingName
deriving DecidableEq

def ManifestError.message : ManifestError → String
  | .invalid => "invalid manifest: " ++ undisclosed
  | .missingApiVersion => "provided resource has an empty apiVersion"
  | .missingKind => "provided resource has an empty kind"
  | .missingName => "provided resource has an empty metadata.name"

namespace Manifest

def expandTabs (s : String) : String :=
  String.ofList (s.toList.flatMap fun c => if c = '\t' then [' ', ' '] else [c])

def field? (pointer : String) (document : Json) : Option String :=
  ((document.pointer? pointer.toList).bind Json.string?).filter fun s => !s.isEmpty

def require (e : ManifestError) : Option α → Except ManifestError α
  | some x => .ok x
  | none => .error e

def identify (document : Json) : Except ManifestError ObjectRef := do
  let apiVersion ← require .missingApiVersion (field? "/apiVersion" document)
  let kind ← require .missingKind (field? "/kind" document)
  let name ← require .missingName (field? "/metadata/name" document)
  return ⟨apiVersion, kind, name, field? "/metadata/namespace" document⟩

def read (manifest : String) : Except ManifestError ObjectRef := do
  identify (← require .invalid (Yaml.Document.read? (expandTabs manifest)))

end Manifest

end LiveAssert
