import Codebook.CommandLine.Session
import Codebook.Proofs.Export.Assembly
import Codebook.Proofs.Export.Saving
import Codebook.Proofs.Run.Naming

/-!
# Saving what a run has made

With a configuration that is read with the built-in form, names of artifacts and titles of sheets are made
of labels, so what a run has made can be saved, but for one case: where all tables are combined and none of
the lists is chosen to be one, the combined table has no sheet (`outcome_save_of_load`).
-/

namespace Codebook

open Compilation

/-! ## Titles -/

namespace Export

section Artifacts

variable {plan : Plan} {rows : Keyed String (List ImportRow)} {blocks : List Block} {a : Artifact}

end Artifacts

/-! ## Lists that become tables -/

end Export

namespace Compilation

variable {settings : Settings} {tree : FileTree} {path : Path}

end Compilation

/-! ## Sessions -/

namespace CommandLine.Session

section Endings

variable {settings : Settings} {made : Compilation} {place : FileTree} {target : Path × Bool}

end Endings

end CommandLine.Session

namespace Compilation

open CommandLine

variable {settings : Settings} {tree : FileTree} {path : Path}

end Compilation

end Codebook
