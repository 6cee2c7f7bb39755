import LibSocialWeb.Rest.Calls

/-!
# JSON replies from Facebook (`services/facebook/facebook-util.c`)

json-glib is not part of the repository, so a document comes as its readers see it: a scalar brings
the text that `json_node_get_string` returns for it and the number that `json_node_get_int` does.
The readers of json-glib return NULL or 0 for a node of another type, and for NULL.

`json_node_from_call` takes a reply for an error when its root has a member `error` with a text
`message`; an `error` without one is passed on as a result.
-/

namespace LibSocialWeb

/-- A `JsonNode`. -/
inductive JsonNode where
  | object (members : List (String × JsonNode))
  | array (elements : List JsonNode)
  | value (string : Option String) (int : Int)
  | null

/-- A `JsonObject`, or NULL. -/
abbrev JsonObject := Option (List (String × JsonNode))

/-- `json_node_get_object`, which is NULL for any other node. -/
def JsonNode.getObject : JsonNode → JsonObject
  | .object members => some members
  | _ => none

namespace JsonObject

variable (object : JsonObject) (name : String)

/-- `json_object_get_member` -/
def getMember : Option JsonNode := object.bind fun members => members.lookup name

/-- `json_object_get_array_member` -/
def getArrayMember : Option (List JsonNode) :=
  match getMember object name with
  | some (.array elements) => some elements
  | _ => none

/-- `json_object_get_string_member` -/
def getStringMember : Option String :=
  match getMember object name with
  | some (.value string _) => string
  | _ => none

/-- `json_object_get_int_member` -/
def getIntMember : Int :=
  match getMember object name with
  | some (.value _ int) => int
  | _ => 0

end JsonObject

namespace Facebook

def FB_PICTURE_SIZE_SQUARE : String := "square"

/-- `build_picture_url`, on a proxy with the URL `baseUrl`. -/
def buildPictureUrl (baseUrl object size : String) : String :=
  baseUrl ++ "/" ++ object ++ "/picture?type=" ++ size

/-- `get_child_node_value`: a text that is not empty. -/
def getChildNodeValue (node : JsonNode) (name : String) : Option String :=
  (JsonObject.getStringMember node.getObject name).filter (· ≠ "")

/-- The message of a root that says that there was an error. -/
def errorMessage (root : JsonNode) : Option String :=
  match JsonObject.getMember root.getObject "error" with
  | some inner => getChildNodeValue inner "message"
  | none => none

/-- `json_node_from_call`. The parser fails (`none`), or it has a root or NULL. -/
def jsonNodeFromCall (call : RestProxyCall (Option JsonNode)) : Except String JsonNode :=
  if !call.isSuccessful then
    .error ("Error from Facebook: " ++ call.statusMessage ++ " (" ++
      toString call.statusCode ++ ")")
  else
    match call.parsed with
    | none => .error ("Malformed JSON from Facebook: " ++ call.payload)
    | some none => .error ("Error from Facebook: " ++ call.payload)
    | some (some root) =>
      match errorMessage root with
      | some message => .error ("Error response from Facebook: " ++ message)
      | none => .ok root

end Facebook

end LibSocialWeb
