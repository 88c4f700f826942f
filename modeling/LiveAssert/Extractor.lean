import LiveAssert.Json.Pointer
import LiveAssert.Path

namespace LiveAssert

structure Extractor where
  extract : Json → String → Except MalformedPath (Option Value)

namespace Extractor

def path : Extractor := ⟨Path.extract⟩

def isPointer (s : List Char) : Bool := s.isEmpty || s.head? == some '/'

def pointer : Extractor where
  extract document text :=
    if isPointer text.toList then .ok ((document.pointer? text.toList).map .ofJson)
    else .error ⟨text, "not a pointer"⟩

end Extractor

end LiveAssert
