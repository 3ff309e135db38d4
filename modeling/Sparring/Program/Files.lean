/-
Files of tables, and what can go wrong with them.

A program is given its files as a function from paths to bytes, so that what it does with
them needs no file system.
-/
import Sparring.Catalog.Load
import Sparring.Program.Outcome
import Sparring.Roster.Catalog
import Sparring.Text.Encoding

namespace Sparring

/-- Why a file has no bytes. -/
inductive FileFault where
  | notFound
  | isDirectory
  | other (text : String)
deriving DecidableEq, Repr

/-- The fault in words. -/
def FileFault.message : FileFault → String
  | notFound => "No such file or directory (os error 2)"
  | isDirectory => "Is a directory (os error 21)"
  | other text => text

/-- The files that a program can see. -/
abbrev Files := String → Except FileFault (List UInt8)

/-! ### Failures -/

/-- A file that cannot be read. -/
def Failure.reading (text : String) : Failure :=
  { text := "failed to read bot tables: " ++ text, causes := [text] }

/-- A text that is no table. -/
def Failure.parsing (text : String) : Failure :=
  { text := "failed to parse bot table: " ++ text, causes := [text] }

/-- The failure that a load error is; an overflow is none of the author's faults. -/
def LoadError.failure : LoadError → Halt Failure
  | unreadable f => .refused (.parsing (f.message .yaml))
  | unbuildable e => .refused { text := e.message, causes := [e.cause.message] }
  | overflow => .overflow

/-! ### Catalogs -/

namespace Catalog

variable [Yaml.Reader]

/-- The catalog of a file, which must be UTF-8. -/
def ofFile (files : Files) (path : String) : Checked Failure Catalog := do
  let bytes ← (files path).mapError fun f => .refused (.reading f.message)
  let text ← (Text.Utf8.decode bytes).mapError fun _ =>
    .refused (.reading "stream did not contain valid UTF-8")
  (ofStream (String.ofList text)).mapError LoadError.failure

/-- A failure to load a catalog, in its context. -/
def loading (context : String) : Halt Failure → Halt Failure
  | .overflow => .overflow
  | .refused f => .refused (f.inContext context)

/-- The catalog of a file, or the built-in one. -/
def load (files : Files) : Option String → Checked Failure Catalog
  | some path => (ofFile files path).mapError (loading ("failed to load bot tables: " ++ path))
  | none =>
    (build (Roster.tables.map (·.2))).mapError fun e =>
      loading "built-in bot tables are invalid" e.failure

end Catalog

end Sparring
