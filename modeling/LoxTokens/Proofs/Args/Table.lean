import LoxTokens.Args.Help
import LoxTokens.Proofs.Args.Distinct
import Mathlib.Data.List.Forall2

/-!
The table of the options. Each field has one line, which shows all its cells whole. As long as these
fit in their columns, the descriptions stand below each other.
-/

namespace LoxTokens

namespace Text

end Text

namespace Args

namespace Field

variable {f : Field}

end Field

namespace Definition

end Definition
end Args
end LoxTokens
