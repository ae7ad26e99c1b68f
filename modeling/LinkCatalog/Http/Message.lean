import LinkCatalog.Http.Headers
import LinkCatalog.Http.Uri

/-!
# Requests and responses

## Main definitions

- `Status` — the status of a response
- `Request` — what an action sees of a request besides its body
- `Request.base` — scheme and host that the request was sent to
- `Request.absolute` — the absolute address of a path on that host
- `Response` — status, header fields and body of an answer
-/

namespace LinkCatalog

/-- The status of a response. -/
structure Status where
  code : Nat
deriving DecidableEq, Repr

namespace Status

def ok : Status := ⟨200⟩
def created : Status := ⟨201⟩
def notModified : Status := ⟨304⟩
def badRequest : Status := ⟨400⟩
def unauthorized : Status := ⟨401⟩
def notFound : Status := ⟨404⟩
def methodNotAllowed : Status := ⟨405⟩
def conflict : Status := ⟨409⟩
def internalServerError : Status := ⟨500⟩

/-- Whether the server is to blame. -/
def isServerError (status : Status) : Bool :=
  500 ≤ status.code && status.code < 600

/-- The digits of the status. -/
def toText (status : Status) : String :=
  toString status.code

/-- The phrase that goes with a status of an error. -/
def reason (status : Status) : String :=
  match status.code with
  | 400 => "Bad Request"
  | 401 => "Unauthorized"
  | 404 => "Not Found"
  | 405 => "Method Not Allowed"
  | 409 => "Conflict"
  | 500 => "Internal Server Error"
  | _ => "Error"

end Status

/-- A request, apart from its body. -/
structure Request where
  uri : Uri
  headers : Headers
deriving DecidableEq, Repr

namespace Request

/-- The scheme that the client used: what a proxy says, else that of the target, else `http`. -/
def scheme (request : Request) : String :=
  match request.headers.text? "x-forwarded-proto" with
  | some text => String.ofList text
  | none => request.uri.scheme.getD "http"

/-- The host that the request was sent to: the `Host` field, else the authority of the target, else
    `localhost`. -/
def host (request : Request) : String :=
  match request.headers.text? "host" with
  | some text => String.ofList text
  | none => request.uri.authority.getD "localhost"

/-- The scheme and the host of the absolute addresses in an answer. -/
def base (request : Request) : String :=
  request.scheme ++ "://" ++ request.host

/-- The absolute address of a path. -/
def absolute (request : Request) (path : String) : String :=
  request.base ++ path

end Request

/-- An answer; the body may be missing. -/
structure Response (α : Type) where
  status : Status
  headers : Headers
  body : Option α
deriving Repr

/-- An answer with another body in place of its own. -/
def Response.map (change : α → β) (response : Response α) : Response β :=
  { status := response.status, headers := response.headers, body := response.body.map change }

end LinkCatalog
