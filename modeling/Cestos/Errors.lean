/-!
# Errors

What requests are refused with, and the message that each brings.
-/

namespace Cestos

inductive AppError
  | notFound (message : String)
  | conflict (message : String)
  | forbidden (message : String)
  | validation (message : String)
  /-- An exception that is not handled. -/
  | internal
  deriving DecidableEq

end Cestos
