/-
From texts to a catalog.

Texts are loaded in two passes, and the first is over before the second begins: all documents
are read as tables, and then all tables are assembled.  So a table that cannot be read hides
one that cannot be assembled.  Documents are read in order, and what is wrong in one of them,
be it the text or the table, is met where it stands.

Any reader of YAML will do to take the texts apart.
-/
import Sparring.Catalog.Basic
import Sparring.Reading.Table
import Sparring.Yaml.Document

namespace Sparring

/-- Why texts make no catalog. -/
inductive LoadError where
  /-- A document is no table. -/
  | unreadable (f : Fault)
  /-- A table makes no bot. -/
  | unbuildable (e : BuildError)
  /-- A number of a bot left its range. -/
  | overflow

variable [Yaml.Reader]

namespace Table

/-- The table of a document, which must be well formed to its end. -/
def ofDocument (d : Yaml.Document) : Reading Table := do
  let t ← read d.root
  if d.isSound then pure t else Reading.fail (.flawed .malformed)

/-- The tables of a stream, each in a document of its own. -/
def ofStream (text : String) : Reading (List Table) := (Yaml.Reader.documents text).mapM ofDocument

/-- The table of the first document, which must be the only one. -/
def ofDocuments : List Yaml.Document → Reading Table
  | [] => read Yaml.Node.blank
  | d :: more => do
    let t ← ofDocument d
    if more.isEmpty then pure t else Reading.fail .severalDocuments

/-- The table of a text that holds one document. -/
def ofText (text : String) : Reading Table := ofDocuments (Yaml.Reader.documents text)

end Table

namespace Catalog

/-- The catalog of tables that have been read. -/
def build (tables : List Table) : Except LoadError Catalog :=
  (ofTables tables).mapError fun
    | .overflow => .overflow
    | .refused e => .unbuildable e

/-- The catalog of a stream of documents. -/
def ofStream (text : String) : Except LoadError Catalog := do
  build (← (Table.ofStream text).mapError .unreadable)

/-- The catalog of texts that hold one document each. -/
def ofTexts (texts : List String) : Except LoadError Catalog := do
  build (← (texts.mapM Table.ofText).mapError .unreadable)

end Catalog

end Sparring
