import LibSocialWeb.Flickr.VerifiedTokens
import Mathlib.Data.List.AList

/-!
# The requests of the Flickr views

When the load of its credentials has found a token, a view adapts its proxy and makes a request
through it (`_on_credentials_loaded`). `flickr-item-view.c` and `flickr-contact-view.c` have a copy
each of the same functions; they differ in what `_make_request` asks for.

**Queries.** A view is only opened for a query of a list (`_check_query_validity` in `flickr.c`), so
that `_make_request` never meets a query that it does not know (`exists_makeRequest`).

**Main result.** `requestSigned_iff`: the request is signed with the tokens of the manager exactly
when the proxy held them before. `_adapt_proxy` passes the addresses of its two local variables
where `g_object_set` expects the strings, so that a proxy with other tokens never gets the new ones,
unless the bytes of the variables happen to spell them.
-/

namespace LibSocialWeb

/-! ## Opening a view -/

def validQueries : List String := ["feed", "own", "friends-only", "x-flickr-search"]

def validContactQueries : List String := ["people"]

/-- `_check_query_validity` -/
def checkQueryValidity (query : String) (list : List String) : Bool := list.any (query = ·)

/-- `SwFlickrItemView`. The query has been checked. -/
structure SwFlickrItemView where
  credentials : FlickrCredentials
  proxy : OAuthProxy
  params : AList fun _ : String => String
  query : String
  queryValid : checkQueryValidity query validQueries = true

/-- `SwFlickrContactView`. The query has been checked. -/
structure SwFlickrContactView where
  credentials : FlickrCredentials
  proxy : OAuthProxy
  query : String
  queryValid : checkQueryValidity query validContactQueries = true

/-! ## Requests -/

/-- A call of the Flickr API: the proxy signs it with its tokens. -/
structure FlickrCall where
  proxy : OAuthProxy
  params : List (String × String)
  deriving DecidableEq

/-- A parameter of the view that is passed on under another name, if it is there. -/
def passOn (params : AList fun _ : String => String) (key name : String) : List (String × String) :=
  ((params.lookup key).map fun value => (name, value)).toList

namespace SwFlickrItemView

/-- `_make_request`; `g_error` ends the program at an unexpected query. -/
def makeRequest (view : SwFlickrItemView) : Option FlickrCall :=
  let common := [("count", "50"), ("extras", "date_upload,icon_server,geo,url_m,url_l,url_o")]
  if view.query = "x-flickr-search" then
    some ⟨view.proxy, [("method", "flickr.photos.search")] ++ passOn view.params "text" "text" ++
      passOn view.params "tags" "tags" ++ passOn view.params "licenses" "license" ++ common⟩
  else if view.query = "own" then
    some ⟨view.proxy, [("method", "flickr.people.getPhotos"), ("user_id", "me")] ++ common⟩
  else if view.query = "friends-only" ∨ view.query = "feed" then
    some ⟨view.proxy, [("method", "flickr.photos.getContactsPhotos"),
      ("include_self", if view.query = "friends-only" then "0" else "1")] ++ common⟩
  else none

/-- `_adapt_proxy` of `flickr-item-view.c` -/
def adaptProxy (view : SwFlickrItemView) (garbage : String × String) : SwFlickrItemView :=
  { view with proxy := LibSocialWeb.adaptProxy view.credentials garbage view.proxy }

/-- `_on_credentials_loaded` of `flickr-item-view.c`: the request that it makes. -/
def onCredentialsLoaded (view : SwFlickrItemView) (found : Bool) (garbage : String × String) :
    SwFlickrItemView × Option FlickrCall :=
  if found then
    let view := view.adaptProxy garbage
    (view, view.makeRequest)
  else (view, none)

/-- No view meets an unexpected query. -/
theorem exists_makeRequest (view : SwFlickrItemView) :
    ∃ params, view.makeRequest = some ⟨view.proxy, params⟩ := by
  have hvalid := view.queryValid
  simp only [checkQueryValidity, validQueries, List.any_cons, List.any_nil, Bool.or_false,
    Bool.or_eq_true, decide_eq_true_eq] at hvalid
  rcases hvalid with hquery | hquery | hquery | hquery <;> simp [makeRequest, hquery]

end SwFlickrItemView

namespace SwFlickrContactView

/-- `_make_request` -/
def makeRequest (view : SwFlickrContactView) : Option FlickrCall :=
  if view.query = "people" then some ⟨view.proxy, [("method", "flickr.contacts.getList")]⟩
  else none

/-- `_adapt_proxy` of `flickr-contact-view.c` -/
def adaptProxy (view : SwFlickrContactView) (garbage : String × String) : SwFlickrContactView :=
  { view with proxy := LibSocialWeb.adaptProxy view.credentials garbage view.proxy }

/-- `_on_credentials_loaded` of `flickr-contact-view.c`: the request that it makes. -/
def onCredentialsLoaded (view : SwFlickrContactView) (found : Bool) (garbage : String × String) :
    SwFlickrContactView × Option FlickrCall :=
  if found then
    let view := view.adaptProxy garbage
    (view, view.makeRequest)
  else (view, none)

theorem exists_makeRequest (view : SwFlickrContactView) :
    ∃ params, view.makeRequest = some ⟨view.proxy, params⟩ := by
  have hquery : view.query = "people" := by
    simpa [checkQueryValidity, validContactQueries] using view.queryValid
  exact ⟨_, if_pos hquery⟩

end SwFlickrContactView

/-! ## Signatures -/

/-- The tokens of the proxy. -/
def OAuthProxy.Holds (proxy : OAuthProxy) (token tokenSecret : String) : Prop :=
  proxy.token = some token ∧ proxy.tokenSecret = some tokenSecret

/-- A request was made, and it is signed with these tokens. -/
def IssuedWith (token tokenSecret : String) (request : Option FlickrCall) : Prop :=
  ∃ call, request = some call ∧ call.proxy.Holds token tokenSecret

/-- **What `_adapt_proxy` leaves in the proxy.** -/
theorem holds_adaptProxy_iff {creds : FlickrCredentials} {t s : String}
    (htoken : creds.token = some t) (hsecret : creds.tokenSecret = some s)
    (garbage : String × String) (proxy : OAuthProxy) :
    (adaptProxy creds garbage proxy).Holds t s ↔ proxy.Holds t s ∨ garbage = (t, s) := by
  unfold adaptProxy
  rw [htoken, hsecret]
  split_ifs with hdiffer
  · have hnot : ¬ proxy.Holds t s := fun hholds => hdiffer.elim (absurd hholds.1) (absurd hholds.2)
    obtain ⟨t', s'⟩ := garbage
    simp only [hnot, false_or, Prod.mk.injEq]
    simp only [OAuthProxy.Holds, Option.some.injEq]
  · rw [not_or, not_not, not_not] at hdiffer
    exact iff_of_true hdiffer (Or.inl hdiffer)

theorem issuedWith_iff {t s : String} {proxy : OAuthProxy} {request : Option FlickrCall}
    (hrequest : ∃ params, request = some ⟨proxy, params⟩) :
    IssuedWith t s request ↔ proxy.Holds t s := by
  obtain ⟨params, rfl⟩ := hrequest
  refine ⟨?_, fun hholds => ⟨_, rfl, hholds⟩⟩
  rintro ⟨call, hcall, hholds⟩
  obtain rfl := Option.some.inj hcall
  exact hholds

/-- **A request is signed with the tokens of the manager exactly when the proxy held them before**,
or the bytes of the two addresses spell them. -/
theorem requestSigned_iff (t s : String) (garbage : String × String) :
    (∀ view : SwFlickrItemView, view.credentials.token = some t →
      view.credentials.tokenSecret = some s →
      (IssuedWith t s (view.onCredentialsLoaded true garbage).2 ↔
        view.proxy.Holds t s ∨ garbage = (t, s))) ∧
    (∀ view : SwFlickrContactView, view.credentials.token = some t →
      view.credentials.tokenSecret = some s →
      (IssuedWith t s (view.onCredentialsLoaded true garbage).2 ↔
        view.proxy.Holds t s ∨ garbage = (t, s))) := by
  refine ⟨?_, ?_⟩
  · intro view htoken hsecret
    rw [← holds_adaptProxy_iff htoken hsecret garbage view.proxy]
    exact issuedWith_iff (view.adaptProxy garbage).exists_makeRequest
  · intro view htoken hsecret
    rw [← holds_adaptProxy_iff htoken hsecret garbage view.proxy]
    exact issuedWith_iff (view.adaptProxy garbage).exists_makeRequest

/-- What the manager holds for a user. -/
def annsCredentials : FlickrCredentials := ⟨some "key", some "secret", some "ann", some "xyz"⟩

/-- A view whose proxy has the tokens already, and one whose proxy has none. -/
theorem requestSigned_own :
    IssuedWith "ann" "xyz" (SwFlickrItemView.onCredentialsLoaded
      ⟨annsCredentials, ⟨some "key", some "secret", some "ann", some "xyz"⟩, ∅, "own", rfl⟩ true
      ("\x60", "\x70")).2 ∧
    ¬ IssuedWith "ann" "xyz" (SwFlickrContactView.onCredentialsLoaded
      ⟨annsCredentials, .new (some "key") (some "secret"), "people", rfl⟩ true
      ("\x60", "\x70")).2 := by
  have h := requestSigned_iff "ann" "xyz" ("\x60", "\x70")
  refine ⟨(h.1 _ rfl rfl).2 (Or.inl ⟨rfl, rfl⟩), ?_⟩
  rw [h.2 _ rfl rfl]
  rintro (hholds | hgarbage)
  · exact nomatch hholds.1
  · exact absurd (congrArg Prod.fst hgarbage) (by decide)

/-- **The first request of a view is not signed with the user's token**: the proxy has no token yet,
and gets the bytes of an address. -/
theorem newToken_not_signed :
    ¬ ∀ (t s : String) (garbage : String × String) (view : SwFlickrItemView),
      view.credentials.token = some t → view.credentials.tokenSecret = some s →
      IssuedWith t s (view.onCredentialsLoaded true garbage).2 := by
  intro hall
  obtain ⟨call, hcall, htoken, -⟩ := hall "ann" "xyz" ("\x60", "\x70")
    ⟨annsCredentials, .new (some "key") (some "secret"), ∅, "own", rfl⟩ rfl rfl
  obtain rfl := Option.some.inj hcall
  exact absurd htoken (by decide)

end LibSocialWeb
