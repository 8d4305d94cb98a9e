import StatementLens.Config.Text
import StatementLens.Files.Disk

/-!
# Configurations in files

A folder may hold a file with the configuration of what is in it.
-/

namespace StatementLens.Config

/-- The name of configuration files. -/
def fileName : String := ".mapperlens.json"

/-- The configuration of a folder. Without a file it is the standard one. -/
def load (disk : Disk) (folder : Path) : Except Failure Config := do
  let path := folder.join (.ofString fileName)
  if disk.isFile path then
    let text ← (disk.readText path).mapError .file
    (ofText text.toList).mapError fun fault =>
      .invalidArgument (path.toStringLossy ++ ": " ++ fault)
  else return standard

end StatementLens.Config
