import LibSocialWeb.Facebook.Util
import LibSocialWeb.Service.Login

/-!
# `SwServicePlurk` (`services/plurk/plurk.c`)

Plurk answers a login with a document about the user. `construct_user_data` takes the id and the
picture from it; if they are not there it returns, and the credentials are valid all the same.

Going offline forgets the id and keeps the picture.
-/

namespace LibSocialWeb

namespace Plurk

open Login

structure PlurkUser where
  userId : Option String
  imageUrl : Option String
  deriving DecidableEq, Repr

/-- `construct_image_url` -/
def constructImageUrl (uid : String) (avatar hasProfile : Int) : String :=
  if hasProfile = 1 ∧ avatar ≤ 0 then "http://avatars.plurk.com/" ++ uid ++ "-medium.gif"
  else if hasProfile = 1 ∧ 0 < avatar then
    "http://avatars.plurk.com/" ++ uid ++ "-medium" ++ toString avatar ++ ".gif"
  else "http://www.plurk.com/static/default_medium.gif"

/-- `node_from_call` -/
def nodeFromCall (call : RestProxyCall JsonNode) : Option JsonNode := call.successfulRoot

/-- `construct_user_data`; `none` if it returns without a user. -/
def constructUserData (root : Option JsonNode) : Option PlurkUser :=
  match JsonObject.getMember (root.bind JsonNode.getObject) "user_info" with
  | none => none
  | some node =>
    let object := node.getObject
    match JsonObject.getMember object "uid" with
    | some .null => none
    | _ =>
      let uid := toString (JsonObject.getIntMember object "uid")
      some ⟨some uid, some (constructImageUrl uid (JsonObject.getIntMember object "avatar")
        (JsonObject.getIntMember object "has_profile_image"))⟩

/-- `_got_login_data` -/
def gotLoginData (reply : Option String × RestProxyCall JsonNode) : LoginAnswer PlurkUser :=
  match reply.1 with
  | some _ => .refused
  | none =>
    match constructUserData (nodeFromCall reply.2) with
    | none => .accepted
    | some user => .learnt user

theorem userId_constructUserData {root : Option JsonNode} {user : PlurkUser}
    (h : constructUserData root = some user) : user.userId.isSome = true := by
  unfold constructUserData at h
  split at h
  · cases h
  · dsimp only at h
    split at h
    · cases h
    · rw [← Option.some.inj h]
      rfl

theorem known_gotLoginData (reply : Option String × RestProxyCall JsonNode) (user : PlurkUser)
    (h : gotLoginData reply = .learnt user) : user.userId.isSome = true := by
  unfold gotLoginData at h
  split at h
  · cases h
  · split at h
    · cases h
    · next _ _ _ huser =>
      rw [LoginAnswer.learnt.injEq] at h
      exact h ▸ userId_constructUserData huser

def kind : LoginKind PlurkUser (Option String × RestProxyCall JsonNode) where
  fullCaps := [IS_CONFIGURED, CREDENTIALS_VALID, CAN_UPDATE_STATUS, CAN_REQUEST_AVATAR]
  answer := gotLoginData
  goneOffline user := { user with userId := none }
  forgets := true
  known user := user.userId.isSome
  valid_mem := by decide
  known_of_learnt := known_gotLoginData
  known_goneOffline _ := by simp

/-- `SwServicePlurk` with its handlers. -/
abbrev SwServicePlurk := LoginService PlurkUser

abbrev step : SwServicePlurk → LoginEvent (Option String × RestProxyCall JsonNode) →
    SwServicePlurk := LoginService.step kind

/-- `sw_service_plurk_initable` -/
def start : SwServicePlurk := LoginService.start ⟨none, none⟩

end Plurk

end LibSocialWeb
