import LibSocialWeb.Facebook.Util
import LibSocialWeb.Service.Verified

/-!
# `SwServiceMySpace` (`services/myspace/myspace.c`)

The reply to `1.0/people/@me/@self` is a JSON document. `construct_user_data` forgets the user
first, and finds the new one in the member `person`.
-/

namespace LibSocialWeb

namespace Myspace

open Verified

/-- `node_from_call` -/
def nodeFromCall (call : RestProxyCall JsonNode) : Option JsonNode := call.successfulRoot

/-- `construct_user_data` -/
def constructUserData (root : JsonNode) : Option String × Option String :=
  match JsonObject.getMember root.getObject "person" with
  | none => (none, none)
  | some node =>
    (JsonObject.getStringMember node.getObject "id",
      JsonObject.getStringMember node.getObject "thumbnailUrl")

/-- What `got_user_cb` reads. -/
def readUser : Reader (Option String × RestProxyCall JsonNode) := fun reply =>
  match reply.1 with
  | some _ => none
  | none => (nodeFromCall reply.2).map constructUserData

abbrev SwServiceMySpace := VerifiedService

abbrev step : SwServiceMySpace → VerifiedEvent (Option String × RestProxyCall JsonNode) →
    SwServiceMySpace := VerifiedService.step readUser

end Myspace

end LibSocialWeb
