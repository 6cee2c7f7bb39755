import LibSocialWeb.Rest.Calls

/-!
# The `Collections` interface (`interfaces/sw-collections.xml`)

A method of the interface gets an invocation context, to which it owes one reply: a result or an
error. It checks its arguments and either answers at once or makes a call, whose callback answers.
The REST layer runs the callback once for each call.

What becomes of a method call is the list of the replies that its context was given, or `none`
when the process does not get that far because it reads through NULL or through a pointer to an
object that is gone. `AnswersOnce` is the contract.

**NULL.** Some methods hand NULL to a library. What the libraries do with it is not in the
repository, so it is a parameter, `NullHandling`.
-/

namespace LibSocialWeb

/-! ## Methods and replies -/

/-- `MediaType` -/
def COLLECTION : Nat := 1

def PHOTO : Nat := 2

def VIDEO : Nat := 4

/-- The struct that describes a collection. A text that is NULL is sent as an empty one. -/
structure CollectionDetails where
  id : String
  title : Option String
  parent : String
  mediaTypes : Nat
  count : Int
  attribs : List (String × Option String)
  deriving DecidableEq, Repr

/-- A reply to an invocation context. A struct may be NULL. -/
inductive CollectionsReply where
  | error (message : String)
  | list (collections : List (Option CollectionDetails))
  | details (details : Option CollectionDetails)
  | created (id : String)
  deriving DecidableEq, Repr

inductive CollectionsMethod where
  | getList
  | getDetails (collectionId : String)
  | create (name : String) (supportedTypes : Nat) (parent : String)
      (extraParameters : List (String × String))
  deriving DecidableEq, Repr

/-! ## What becomes of a method call -/

/-- The replies to the context, or `none` if the process ended. -/
abbrev Outcome := Option (List CollectionsReply)

/-- What a service asks its server. -/
structure RestRequest where
  function : Option String
  params : List (String × Option String)
  isPost : Bool
  deriving DecidableEq, Repr

/-- The first half of a method: it is over, or there is a call, whose callback gets an error and the
reply. -/
inductive Began (Root : Type) where
  | over (outcome : Outcome)
  | called (request : RestRequest) (callback : Option String → RestProxyCall Root → Outcome)

/-- The whole of a method. -/
def Began.outcome {Root : Type} (error : Option String) (call : RestProxyCall Root) :
    Began Root → Outcome
  | .over outcome => outcome
  | .called _ callback => callback error call

/-- The context gets exactly one reply. -/
def AnswersOnce (outcome : Outcome) : Prop := ∃ reply, outcome = some [reply]

@[simp] theorem answersOnce_one (reply : CollectionsReply) : AnswersOnce (some [reply]) :=
  ⟨reply, rfl⟩

@[simp] theorem not_answersOnce_none : ¬ AnswersOnce none := by
  rintro ⟨reply, h⟩
  cases h

@[simp] theorem not_answersOnce_nil : ¬ AnswersOnce (some []) := by
  rintro ⟨reply, h⟩
  cases h

/-- A reply that is sent only if a condition holds. -/
theorem answersOnce_ite {p : Prop} [Decidable p] {outcome : Outcome} :
    AnswersOnce (if p then outcome else none) ↔ p ∧ AnswersOnce outcome := by
  by_cases h : p <;> simp [h]

/-! ## What the services share -/

/-- `sw_service_map_params` -/
def mapParams (mapping parameters : List (String × String)) : List (String × Option String) :=
  mapping.filterMap fun (lswParam, serviceParam) =>
    (parameters.lookup lswParam).map fun value => (serviceParam, some value)

/-- `g_str_has_prefix` -/
def hasPrefix (s start : String) : Bool := start.toList.isPrefixOf s.toList

/-- What follows a prefix. -/
def afterPrefix (s start : String) : String := String.ofList (s.toList.drop start.length)

end LibSocialWeb
