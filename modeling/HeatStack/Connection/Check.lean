import HeatStack.Connection.Profile
import HeatStack.Lifecycle.Service

/-! # The connection check

A profile that is filled in and well formed is tried out: the service is asked to authenticate. -/
set_option autoImplicit false
namespace HeatStack.Connection
open HeatStack.Lifecycle

inductive ConnectionError
  /-- All the fields that are missing. -/
  | incomplete (fields : List ProfileField)
  | invalid (error : InputError)
  | unreachable (error : ServiceError)
deriving DecidableEq

def ConnectionError.message : ConnectionError → String
  | .incomplete fields =>
    "connection profile is incomplete: " ++ String.intercalate ", " (fields.map ProfileField.name)
  | .invalid e => e.message
  | .unreachable e => "cannot connect: " ++ e.message

/-- The calls that the check makes, and its result. -/
def Profile.tryOut (p : Profile) (service : Service) : List Call × Except ConnectionError Unit :=
  match p.missingFields with
  | field :: fields => ([], .error (.incomplete (field :: fields)))
  | [] =>
    match p.check with
    | .error e => ([], .error (.invalid e))
    | .ok () => ([.checkConnection], service.connection.result.mapError .unreachable)

end HeatStack.Connection
