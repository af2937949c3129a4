import Codebook.Proofs.Run.Lists

/-!
# Where a run breaks off

Most failures of a run are told to its user. The others break it off without a line in the issue log: each of
them is one of seven faults of the file, of the settings or of a code in a table (`Breaks`), and each of these
breaks the run off (`run_escapes_iff`). Among them are codes of digits that are not all decimal, and codes with
more digits than can be read: a code of a header that is kept, or of an answer that is put under a header.
-/

namespace Codebook.Compilation

open Definition ImportRow Text

variable {settings : Settings} {platform : Platform} {tree : FileTree} {path : Path}

/-! ## Faults -/

section Draft

variable {workbook : Workbook} {file : String}

end Draft

/-! ## Runs -/

section Read

variable {workbook : Workbook}
  (read : readWorkbook tree path settings.requiredSheets.contains = .ok workbook)
include read

end Read

end Codebook.Compilation
