import LibSocialWeb.Service.Verified

/-!
# `SwServiceSina` (`services/sina/sina.c`)

The reply to `account/verify_credentials` is an XML document. A document without an id leaves the
service without a user, and that is announced.
-/

namespace LibSocialWeb

namespace Sina

open Verified

/-- `xml_node_from_call` -/
def xmlNodeFromCall (call : RestProxyCall XmlNode) : Option XmlNode := call.successfulRoot

/-- `xml_get_child_node_value`: the content of a node below, if it is not empty. -/
def xmlGetChildNodeValue (node : XmlNode) (name : String) : Option String :=
  ((node.find name).bind (·.content)).filter (· ≠ "")

/-- What `got_user_cb` reads. -/
def readUser : Reader (Option String × RestProxyCall XmlNode) := fun reply =>
  match reply.1 with
  | some _ => none
  | none => (xmlNodeFromCall reply.2).map fun root =>
    (xmlGetChildNodeValue root "id", xmlGetChildNodeValue root "profile_image_url")

abbrev SwServiceSina := VerifiedService

abbrev step : SwServiceSina → VerifiedEvent (Option String × RestProxyCall XmlNode) →
    SwServiceSina := VerifiedService.step readUser

end Sina

end LibSocialWeb
