import Mathlib

/-! # Errors

`ApiError` is the product's own error; the other constructors are the Python
exceptions the modelled code lets through.
-/

namespace ZeroNvr

structure ApiError where
  statusCode : Nat
  code : String
  message : String
  deriving DecidableEq, Repr

inductive PyError where
  | api (error : ApiError)
  | valueError (message : String)
  | typeError (message : String)
  | keyError (key : String)
  | attributeError (message : String)
  | overflowError
  | assertionError
  | zoneInfoNotFoundError (key : String)
  | integrityError
  | staleDataError
  | osError
  | runtimeError (message : String)
  | archiveLifecycleError (code message : String)
  | retentionDeleteError (code message : String)
  deriving DecidableEq, Repr

abbrev Result := Except PyError

def apiError (statusCode : Nat) (code message : String) : PyError :=
  .api { statusCode, code, message }

end ZeroNvr
