import AroundMuseo.Core.Outcomes
import AroundMuseo.Locations.Calendar
import AroundMuseo.System.Operations

/-!
# Uncaught exceptions

The controllers catch what the repositories rethrow, and report it. Three operations have no
`try` around them: the callback of the timer, the logout and the toggling of a favourite.
-/

namespace AroundMuseo

open Async Async.Prog

section Catches

variable {body : App Unit}

end Catches

section Forwards

end Forwards

end AroundMuseo
