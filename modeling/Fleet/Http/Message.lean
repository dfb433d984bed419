import Fleet.Http.Url
import Fleet.Json.Basic
import Fleet.Token

/-!
# Requests and answers of web services

A request is what a client wants to send. It becomes a message, which can be sent, if its address
can be read and no header holds a control character.
-/

namespace Fleet.Http

/-- The methods in use. -/
inductive Method
  | get
  | post
  | put
  | delete
  deriving DecidableEq, Repr

/-- The method as it is sent. -/
def Method.text : Method → String
  | .get => "GET"
  | .post => "POST"
  | .put => "PUT"
  | .delete => "DELETE"

/-- What a request carries. -/
inductive Body
  | empty
  | json (value : Json)
  | form (fields : List (String × String))
  deriving Inhabited

/-- The header that names the type of a body. -/
def Body.headers : Body → List (String × String)
  | .empty => []
  | .json _ => [("content-type", "application/json")]
  | .form _ => [("content-type", "application/x-www-form-urlencoded")]

/-- A request. -/
structure Request where
  method : Method
  /-- The address as a text. -/
  address : String
  headers : List (String × String) := []
  body : Body := .empty

/-- A request that can be sent. -/
structure Message where
  method : Method
  url : Url
  headers : List (String × String)
  body : Body

/-- An answer. -/
structure Reply where
  status : Nat
  body : String
  deriving DecidableEq, Repr

/-- Whether the answer reports success. -/
def Reply.isSuccess (r : Reply) : Bool := 200 ≤ r.status && r.status < 300

/-- Whether the answer reports a failure of the service. -/
def Reply.isServerError (r : Reply) : Bool := 500 ≤ r.status && r.status < 600

/-- Whether a character can be sent in a header. -/
def canBeSent (c : Char) : Bool := c == '\t' || (0x20 ≤ c.toNat && c.toNat != 0x7F)

/-- The message of a request, if it can be sent. -/
def Request.message? (r : Request) : Option Message :=
  if r.headers.all fun h => h.2.toList.all canBeSent then
    (Url.parse? r.address).map fun url =>
      { method := r.method, url := url, headers := r.headers ++ r.body.headers, body := r.body }
  else none

/-- The header that carries a token. -/
def bearer (token : Token) : String × String := ("authorization", "Bearer " ++ token.secret)

end Fleet.Http
