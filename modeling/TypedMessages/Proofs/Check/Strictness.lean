import TypedMessages.Proofs.Check.Silence
import TypedMessages.Proofs.Format.References
import TypedMessages.Proofs.Method.Positions
import TypedMessages.Proofs.Report.Completion

/-!
# Strict and lenient checks of texts

Where a text fits its arguments, only the references are left to check. In strict mode they are counted, and the count tells whether an argument is left out. Otherwise every parameter is looked for by its name among the arguments that are referred to. A parameter that is not found leaves an argument out, since it supplies one. The converse fails where a parameter has several positions or shares its name: one argument that is referred to is enough for it to be found.
-/

namespace TypedMessages

/-! ### Parameters and the arguments they supply -/

section Supply

variable {interface : MessageInterface} {method : Method}

end Supply

namespace Check

section Fitting

variable {catalog : Catalog} {interface : MessageInterface} {method : Method} {message : Message} {parts : List Part}

end Fitting

end Check

end TypedMessages
