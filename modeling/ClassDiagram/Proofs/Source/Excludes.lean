import ClassDiagram.Proofs.Ignore.Verdict
import ClassDiagram.Proofs.Pipeline.Stages

namespace ClassDiagram

namespace Scan

/-- The same scan with other exclude patterns. -/
def excluding (scan : Scan) (patterns : List String) : Scan :=
  { scan with excludePaths := patterns }

/-- The sources below a directory that the rules leave to a scan. -/
def sourcesBelow (scan : Scan) (files : FileSystem) (root : List String) (rules : List IgnoreRule) : List Path :=
  (((files.tree.get? root).getD (.directory [])).sources (scan.suffixes.map Text.lower) rules).map
    fun names => Path.absolute (root ++ names)

variable {w : Workspace} {few more : List String}

end Scan

end ClassDiagram
