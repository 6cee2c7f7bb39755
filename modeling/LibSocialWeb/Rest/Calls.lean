/-!
# What the services see of librest and libsoup

A service makes a call on a proxy and reads the reply in a callback. librest is not part of the
repository, so a reply comes with what librest makes of it: `parsed` is the result of the parser on
the payload (`none` is NULL), and a node of a parsed document comes with the tables that its readers
look into. What the libraries do when they are handed NULL is a parameter, `NullHandling`.
-/

namespace LibSocialWeb

/-- An `OAuthProxy`. -/
structure OAuthProxy where
  consumerKey : Option String
  consumerSecret : Option String
  token : Option String
  tokenSecret : Option String
  deriving DecidableEq, Repr

/-- `oauth_proxy_new` -/
def OAuthProxy.new (consumerKey consumerSecret : Option String) : OAuthProxy :=
  ⟨consumerKey, consumerSecret, none, none⟩

/-- `sw_time_t_to_string`, where libsoup writes a time as `SOUP_DATE_HTTP`. -/
def swTimeTToString (soupDateToString : Int → String) (t : Int) : String := soupDateToString t

/-- A `RestProxyCall` that was answered. -/
structure RestProxyCall (Root : Type) where
  statusCode : Nat
  statusMessage : String
  payload : String
  parsed : Option Root

namespace RestProxyCall

variable {Root : Type} (call : RestProxyCall Root)

/-- `SOUP_STATUS_IS_SUCCESSFUL` -/
def isSuccessful : Bool := 200 ≤ call.statusCode && call.statusCode < 300

/-- The root of a successful reply. -/
def successfulRoot : Option Root := if call.isSuccessful then call.parsed else none

/-- The root of a successful reply, if the service `accepts` it, or the message of the error. -/
def acceptedRoot (accepts : Root → Bool) : Except String Root :=
  if !call.isSuccessful then
    .error ("HTTP error: " ++ call.statusMessage ++ " (" ++ toString call.statusCode ++ ")")
  else
    match call.parsed with
    | none => .error ("malformed remote response: " ++ call.payload)
    | some root =>
      if accepts root then .ok root else .error ("malformed remote response: " ++ call.payload)

end RestProxyCall

/-- A `RestXmlNode`. `children` gives the children with a tag, and `found` what `rest_xml_node_find`
finds below the node for a tag: the first node it meets, then the siblings that follow it. -/
structure XmlNode where
  name : String
  content : Option String
  attrs : List (String × String)
  children : List (String × List XmlNode)
  found : List (String × List XmlNode)

namespace XmlNode

variable (node : XmlNode)

/-- `rest_xml_node_get_attr`, or a lookup in `attrs`. -/
def attr (name : String) : Option String := node.attrs.lookup name

/-- A lookup in `children`. -/
def child (tag : String) : Option XmlNode := ((node.children.lookup tag).getD []).head?

/-- `rest_xml_node_find`, with the siblings that follow the node. -/
def findAll (tag : String) : List XmlNode := (node.found.lookup tag).getD []

/-- `rest_xml_node_find` -/
def find (tag : String) : Option XmlNode := (node.findAll tag).head?

end XmlNode

/-! ## NULL -/

/-- Whether a library goes on when it is handed NULL: a value for `rest_proxy_call_add_param`, a
node for `rest_xml_node_find` and `rest_xml_node_get_attr`, which then return NULL, and for
`rest_xml_node_unref`, and a struct for `dbus_g_method_return`, which then sends a reply. -/
structure NullHandling where
  addParam : Bool
  find : Bool
  getAttr : Bool
  unref : Bool
  methodReturn : Bool

/-- The libraries that take no NULL. -/
def NullHandling.strict : NullHandling := ⟨false, false, false, false, false⟩

/-- `rest_proxy_call_add_params`, which a NULL name ends. A NULL value is passed on like any other;
`none` if that ends the process. -/
def NullHandling.addParams (libs : NullHandling) (params : List (String × Option String)) :
    Option (List (String × Option String)) :=
  if params.all (·.2.isSome) || libs.addParam then some params else none

/-! ## Texts and numbers of C -/

/-- What `%s` prints for a string that may be NULL. -/
def printed (s : Option String) : String := s.getD "(null)"

/-- `g_ascii_strtoll` with base 10: blanks, a sign and digits, cut off at the bounds of 64 bits. -/
def gAsciiStrtoll (nptr : String) : Int :=
  let rest := nptr.toList.dropWhile fun c => c.toNat ∈ [9, 10, 11, 12, 13, 32]
  let (negative, digits) :=
    match rest with
    | '-' :: rest => (true, rest)
    | '+' :: rest => (false, rest)
    | rest => (false, rest)
  let value : Nat := (digits.takeWhile Char.isDigit).foldl
    (fun n c => 10 * n + (c.toNat - '0'.toNat)) 0
  if negative then max (-(value : Int)) Int64.minValue.toInt
  else min (value : Int) Int64.maxValue.toInt

/-- A `gint64` that is stored in a `gint`. -/
def asGint (n : Int) : Int := (Int32.ofInt n).toInt

end LibSocialWeb
