import EntityAtlas.Document.Wire
import EntityAtlas.Json.Layout
import EntityAtlas.Service
import EntityAtlas.Service.Address
import EntityAtlas.Text.Case

/-!
# The service over HTTP

Three resources: the document, the index of foreign keys, and the rebuilding of both. An answer is
a record in compact form and a line end. A build that fails is answered with its report; for
failures that blame no mapping, and for a document with a value that cannot be sent, the report is
a wording and a kind. There is also a place for files, which holds none.
-/

set_option autoImplicit false

namespace EntityAtlas.Service

/-- A request by method and address. -/
structure Request where
  method : String
  address : String

/-- An answer with its record, if it has one. -/
structure Response where
  status : Nat
  body : Option Json := none

/-- The text of an answer that is a record. -/
def Response.text (response : Response) : String :=
  match response.body with
  | some body => body.render .compact ++ "\n"
  | none => ""

/-- A failure as a record. -/
def failureJson : Failure → Json
  | .refused error =>
    if error.blamesMapping then error.report.toJson
    else
      .record [("error", .text error.report.message), ("error_type", .text error.report.kind)]
  | failure => .record [("error", .text failure.message), ("error_type", .text failure.kind)]

/-! ## Documents that cannot be sent -/

/-- Whether a data property has a class among its values. -/
def holdsClass (property : DataProperty) : Bool :=
  property.isNullable.isType || property.name.any (·.isType) || property.defaultValue.isType

/-- Whether a document has a class among its values, which no record can show. -/
def isUnsendable (document : Document) : Bool :=
  document.structuralTypes.any fun type =>
    type.dataProperties.any holdsClass ||
      type.navigationProperties.any fun property => property.name.any (·.isType)

/-- The answer in place of a document that cannot be sent. -/
def unsendable : Response :=
  { status := 500
    body := some (.record
      [ ("error", .text "Object of type type is not JSON serializable"),
        ("error_type", .text "TypeError") ]) }

/-! ## Resources -/

/-- What the service offers. -/
inductive Resource where
  | document
  | foreignKeys
  | rebuilding
  /-- A file that the service does not have. -/
  | file

/-- Whether a path is one of a file: it has a name, which starts with no slash and has one line. -/
def isFilePath (path : List Char) : Bool :=
  match "/static/".toList.isPrefixOf path, path.drop "/static/".length with
  | true, first :: rest => first != '/' && !rest.contains '\n'
  | _, _ => false

/-- The resource at a path. -/
def Resource.ofPath? (path : List Char) : Option Resource :=
  match String.ofList path with
  | "/api/metadata" => some .document
  | "/api/metadata/foreign-keys" => some .foreignKeys
  | "/api/metadata/refresh" => some .rebuilding
  | _ => if isFilePath path then some .file else none

/-- Where an address leads. -/
inductive Route where
  | found (resource : Resource)
  /-- To a resource, were it not for slashes that stand together. -/
  | moved (resource : Resource)
  | nowhere

/-- Where the address of a request leads. -/
def Route.ofAddress (address : String) : Route :=
  let path := Address.path address
  match Resource.ofPath? path, Resource.ofPath? (Address.merged path) with
  | some resource, _ => .found resource
  | none, some resource => .moved resource
  | none, none => .nowhere

/-- What is told about a rebuilt document. -/
def rebuiltJson (document : Document) : Json :=
  .record
    [ ("message", .text "Metadata rebuilt"),
      ("structural_types", .integer document.structuralTypes.length),
      ("enum_types", .integer document.enumTypes.length),
      ("foreign_keys", .integer document.foreignKeys.length) ]

/-- The answer that shows a publication, or the failure to make one. -/
def answer (form : Document → Json) : Except Failure Publication → Response
  | .ok publication => { status := 200, body := some (form publication.document) }
  | .error failure => { status := 500, body := some (failureJson failure) }

/-- The answer that shows a document. -/
def answerDocument : Except Failure Publication → Response
  | .ok publication =>
    if isUnsendable publication.document then unsendable
    else answer (·.toJson) (.ok publication)
  | failed => answer (·.toJson) failed

/-- Answers a request for a resource by the method that it is meant for. -/
def serve (service : Service) : Resource → Response × Service
  | .document =>
    let (publication, service) := service.document
    (answerDocument publication, service)
  | .foreignKeys =>
    let (publication, service) := service.document
    (answer (·.foreignKeysJson) publication, service)
  | .rebuilding =>
    let (publication, service) := service.refresh
    (answer rebuiltJson publication, service)
  | .file => ({ status := 404 }, service)

/-- The method that a resource is meant for. -/
def Resource.method : Resource → String
  | .document => "GET"
  | .foreignKeys => "GET"
  | .rebuilding => "POST"
  | .file => "GET"

/-- Whether a resource may be asked by a method. Beside its own method it may be asked for its
options, and one that is read also for its status alone. -/
def Resource.admits (resource : Resource) (method : String) : Bool :=
  method == resource.method || method == "OPTIONS" || (method == "HEAD" && resource.method == "GET")

/-- Answers a request for a resource by a method that it admits. -/
def serveBy (service : Service) (method : String) (resource : Resource) : Response × Service :=
  if method = resource.method then service.serve resource
  else if method = "HEAD" then
    let (response, service) := service.serve resource
    ({ status := response.status }, service)
  else ({ status := 200 }, service)

/-- Answers a request by a method for where its address leads. Sockets are not spoken, and what is
moved answers with where it is. -/
def respondAt (service : Service) (method : String) (isSocket : Bool) :
    Route → Response × Service
  | .nowhere => ({ status := 404 }, service)
  | .found resource =>
    if !resource.admits method then ({ status := 405 }, service)
    else if isSocket then ({ status := 400 }, service)
    else service.serveBy method resource
  | .moved resource =>
    if !resource.admits method then ({ status := 405 }, service)
    else if isSocket then ({ status := 400 }, service)
    else ({ status := 308 }, service)

/-- Answers a request, whatever the letter case of its method. -/
def respond (service : Service) (request : Request) : Response × Service :=
  service.respondAt (String.ofList (Text.upper request.method.toList))
    (["ws", "wss"].contains (Address.scheme request.address.toList)) (.ofAddress request.address)

end EntityAtlas.Service
