import LibSocialWeb.Lib.Requests
import LibSocialWeb.Rest.Calls

/-!
# The `FlickrCredentials` interface (`services/flickr/flickr-credentials.c`)

An implementation loads the keys and tokens of the user and tells the caller through a callback
whether they are available. The getters then return what was loaded.

A load gets a closure that keeps its callback until the answer is there. The two things that happen
to a closure, the call of its callback and its release, are put on record under the number of the
load, the call together with what the object holds at that moment.

`Honest` is the contract of a load: an answer that the credentials are available is given only
while the object holds them.
-/

namespace LibSocialWeb

open InFlight

/-- What the getters of a `FlickrCredentials` object return. -/
structure FlickrCredentials where
  consumerKey : Option String
  consumerSecret : Option String
  token : Option String
  tokenSecret : Option String
  deriving DecidableEq, Repr

/-- None of the four is NULL. -/
def FlickrCredentials.Complete (creds : FlickrCredentials) : Prop :=
  ∀ field ∈ [creds.consumerKey, creds.consumerSecret, creds.token, creds.tokenSecret], field.isSome

/-! ## Loads -/

/-- The codes of `flickr-credentials-error.h`. -/
inductive FlickrCredentialsError where
  | failure
  | noKeysProvided
  | notAuthorized
  deriving DecidableEq, Repr

/-- A `GError` of this domain. The message is what follows the place in the source. -/
structure GError where
  code : FlickrCredentialsError
  message : String
  deriving DecidableEq, Repr

/-- What is done with the closure of a load, by an object that holds data of type `δ`. -/
inductive LoadAction (δ : Type) where
  | callback (available : Bool) (error : Option GError) (holds : δ)
  | free
  deriving DecidableEq, Repr

variable {κ δ : Type}

/-- Every load answered with `available = TRUE` was answered while `ok` held of the data. -/
def Honest (ok : δ → Prop) (r : Requests κ (LoadAction δ)) : Prop :=
  ∀ entry ∈ r.log, ∀ error holds, entry.2 = .callback true error holds → ok holds

variable {ok : δ → Prop} {r : Requests κ (LoadAction δ)} {i : Nat} {available : Bool}
  {error : Option GError} {holds : δ}

theorem honest_none : Honest ok (Requests.none : Requests κ (LoadAction δ)) :=
  fun _ h => absurd h List.not_mem_nil

/-- Actions keep the record honest when the credentials are there at each answer that says so. -/
theorem honest_notes {acts : List (LoadAction δ)} : Honest ok (r.notes i acts) ↔
    (∀ error holds, .callback true error holds ∈ acts → ok holds) ∧ Honest ok r := by
  unfold Honest Requests.notes
  refine ⟨?_, ?_⟩
  · refine fun h => ⟨fun error holds hacts => ?_, fun entry hentry => h entry ?_⟩
    · exact h (i, _) (List.mem_append_right _ (List.mem_map_of_mem hacts)) error holds rfl
    · exact List.mem_append_left _ hentry
  · intro hand entry hentry error holds hholds
    rcases hand with ⟨hnew, hold⟩
    rcases List.mem_append.1 hentry with hentry | hentry
    · exact hold entry hentry error holds hholds
    · obtain ⟨action, haction, rfl⟩ := List.mem_map.1 hentry
      obtain rfl : action = .callback true error holds := hholds
      exact hnew error holds haction

/-- Only an answer that the credentials are available can be dishonest. -/
theorem honest_notes_unavailable {acts : List (LoadAction δ)}
    (h : ∀ error holds, .callback true error holds ∉ acts) :
    Honest ok (r.notes i acts) ↔ Honest ok r :=
  honest_notes.trans (and_iff_right fun error holds hacts => absurd hacts (h error holds))

theorem honest_free : Honest ok (r.note i .free) ↔ Honest ok r := by
  simp [Requests.note_eq_notes, honest_notes]

theorem honest_callback : Honest ok (r.note i (.callback available error holds)) ↔
    (available = true → ok holds) ∧ Honest ok r := by
  cases available <;> simp [Requests.note_eq_notes, honest_notes]

/-- Answering a load that fails. -/
theorem honest_refusal (h : Honest ok r) :
    Honest ok (r.note i (.callback false error holds)) :=
  honest_callback.2 ⟨fun hf => (by cases hf), h⟩

/-- Answered once, and the closure released after that. -/
def AnsweredOnce (acts : List (LoadAction δ)) : Prop :=
  ∃ available error holds, acts = [.callback available error holds, .free]

theorem answeredOnce_pair : AnsweredOnce [.callback available error holds, .free] := ⟨_, _, _, rfl⟩

theorem not_answeredOnce_nil : ¬ AnsweredOnce ([] : List (LoadAction δ)) := by
  intro hex
  rcases hex with ⟨_, _, _, h⟩
  cases h

/-- A callback alone leaves the closure behind. -/
theorem not_answeredOnce_callback : ¬ AnsweredOnce [.callback available error holds] := by
  intro hex
  rcases hex with ⟨_, _, _, h⟩
  cases h

end LibSocialWeb
