import StatementLens.Files.Disk
import StatementLens.Text.Lines
import StatementLens.Url.Basic

/-!
# Documents

A document is a text that an editor or a file system knows by a URI. The URI is kept as it was
given; it need not be a URL, and only some URLs name files.
-/

namespace StatementLens

/-- A text and the URI that it is known by. -/
structure Document where
  uri : String
  source : IndexedText

namespace Document

/-- The document with this URI and text. -/
def ofText (uri text : String) : Document := ⟨uri, .ofText text.toList⟩

/-- The text of a document. -/
def text (d : Document) : List Char := d.source.text

/-- The file that a URI names. -/
def pathOf? (uri : String) : Option Path := (Url.parse uri).toOption.bind Url.toPath?

/-- The file that a document is about. -/
def path? (d : Document) : Option Path := pathOf? d.uri

/-- The document of a file, which is read before its path is made a URI. -/
def load (disk : Disk) (path : Path) : Except FileFault Document := do
  let text ← disk.readText path
  match Url.ofPath? path with
  | some url => return ofText url.toString text
  | none => throw (.notAbsolute path.toStringLossy)

end Document

end StatementLens
