import KalmanHeader.Disk.Operation
import KalmanHeader.Header.Compose

/-!
# Writing headers to disk

A header is composed before anything happens on the disk. Then its file is
replaced as a whole: either the complete text stands at the path, or whatever
stood there before still does.
-/

namespace KalmanHeader

/-- Why a header was not written. -/
inductive OutputError where
  | header (error : HeaderError)
  | unwritable
  deriving DecidableEq, Repr

namespace HeaderSpec

/-- The header for a description, and the change of the disk that writes it. The
header is composed under the last name of the path. -/
def writing (spec : HeaderSpec) (options : HeaderOptions) (mark : String) (path : Path) :
    Except HeaderError (GeneratedHeader × Replacement) :=
  (spec.compose options (path.fileName?.getD "")).map fun header =>
    (header, .ofText mark path header.text)

/-- Writes the header for a description, and gives the disk afterwards. -/
def output (spec : HeaderSpec) (options : HeaderOptions) (mark : String) (path : Path)
    (faults : FaultPattern) (disk : Disk) : Except OutputError GeneratedHeader × Disk :=
  match spec.writing options mark path with
  | .error error => (.error (.header error), disk)
  | .ok (header, replacement) =>
    match replacement.run faults disk with
    | (true, disk') => (.ok header, disk')
    | (false, disk') => (.error .unwritable, disk')

end HeaderSpec

end KalmanHeader
