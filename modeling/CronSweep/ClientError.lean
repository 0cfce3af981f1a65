import CronSweep.EncodingFault

namespace CronSweep

inductive ClientError
  | notFound
  | conflict (message : String)
  | api (code : UInt16) (message : String)
  | transport (message : String)
  | serialization (fault : EncodingFault)
deriving DecidableEq

namespace ClientError

def message : ClientError → String
  | .notFound => "resource not found"
  | .conflict m => "conflicting write: " ++ m
  | .api code m => "api request failed with " ++ toString code.toNat ++ ": " ++ m
  | .transport m => "transport error: " ++ m
  | .serialization f => "failed to serialize resource: " ++ f.text

def ofCode (code : UInt16) (message : String) : ClientError :=
  if code = 404 then .notFound
  else if code = 409 then .conflict message
  else .api code message

end ClientError

end CronSweep
