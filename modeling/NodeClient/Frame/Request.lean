import NodeClient.Command
import NodeClient.Json.Writer

/-! # Requests

A request is one JSON object on one line: the version of the framing, the method, the parameters
and, unless it is null, an id. A request with parameters that cannot be written has no line.
-/

namespace NodeClient

structure Request where
  version : String
  method : String
  params : Argument
  id : Argument
  deriving Repr

namespace Request

def members (request : Request) : List (String × Argument) :=
  [("jsonrpc", .str request.version), ("method", .str request.method),
    ("params", request.params)] ++
    if request.id.isNull then [] else [("id", request.id)]

def line (request : Request) : String := Value.write (.obj request.members)

/-- What cannot be written of a request. Only its parameters may have faults: its number, which is
that of the requests of one client, never has too many digits. -/
def faults (request : Request) : List Value.WriteFault := request.params.writeFaults

end Request

end NodeClient
