/-
What a reader of YAML makes of a text.

A text holds documents, and a document is a tree.  How a text is taken apart is up to the
reader; what tables and catalogs are made of it depends on the documents alone.  So whatever
loads a text works with any reader, and what is proved of it holds for every one.
-/
import Sparring.Yaml.Node

namespace Sparring.Yaml

/-- A document of a text. -/
structure Document where
  root : Node
  /-- The text is well formed up to where the document ends. -/
  isSound : Bool := true

/-- A reader of YAML. -/
class Reader where
  /-- The documents of a text, in order. -/
  documents : String → List Document

end Sparring.Yaml
