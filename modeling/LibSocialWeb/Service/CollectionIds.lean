import LibSocialWeb.Service.Collections

/-!
# Collection ids that come from a client

A client names a collection by its id, which is the prefix of the service and the id that the server
has for the album. A service that gets an id checks the prefix, strips it by adding its length to
the pointer, and sends what is left.

`IdChecked` is what a client may expect of an operation with an id: a request carries the album id
that is in the id, and an id without the prefix gets an error instead of a request.

**Uploads.** `_upload_file` of SmugMug, Facebook and Photobucket takes an `UploadRequest`. What it
does first with it is `UploadBegan`.
-/

namespace LibSocialWeb

/-! ## Prefixes -/

theorem hasPrefix_iff {s start : String} :
    hasPrefix s start = true ↔ ∃ rest, s = start ++ rest := by
  unfold hasPrefix
  rw [List.isPrefixOf_iff_prefix]
  refine ⟨?_, ?_⟩
  · rintro ⟨rest, hrest⟩
    refine ⟨String.ofList rest, String.toList_injective ?_⟩
    rw [String.toList_append, String.toList_ofList, hrest]
  · rintro ⟨rest, rfl⟩
    exact ⟨rest.toList, (String.toList_append).symm⟩

theorem afterPrefix_append (start rest : String) : afterPrefix (start ++ rest) start = rest := by
  unfold afterPrefix
  rw [String.toList_append, ← String.length_toList, List.drop_left, String.ofList_toList]

/-- The length of the prefix is added to the pointer: it stays in the text, and points to the album
id. -/
structure Stripped (albumPrefix id albumId : String) : Prop where
  inside : albumPrefix.utf8ByteSize ≤ id.utf8ByteSize
  suffix : id = albumPrefix ++ albumId

theorem stripped_of_eq {albumPrefix id albumId : String} (h : id = albumPrefix ++ albumId) :
    Stripped albumPrefix id albumId := by
  refine ⟨?_, h⟩
  rw [h, String.utf8ByteSize_append]
  exact Nat.le_add_right _ _

/-! ## Uploads -/

/-- The file of an upload: its contents, or the message of `g_mapped_file_new`. -/
structure UploadRequest where
  filename : String
  contents : Except String (List UInt8)
  fields : List (String × String)

/-- What comes of `_upload_file`: it returns before it makes a call, with an error or without one,
or it makes a call and then either finds fault with the fields or sends it with the file. -/
inductive UploadBegan where
  | returned (error : Option String)
  | failed (error : String)
  | sent (request : RestRequest) (contents : List UInt8)

/-! ## Ids -/

/-- What an operation leads to: an error for the client, a request to the server, or neither. -/
inductive Answer where
  | error (message : String)
  | nothing
  | asked (request : RestRequest)

def Began.answer {Root : Type} : Began Root → Answer
  | .over (some [.error message]) => .error message
  | .over _ => .nothing
  | .called request _ => .asked request

def UploadBegan.answer : UploadBegan → Answer
  | .returned (some message) => .error message
  | .returned none => .nothing
  | .failed message => .error message
  | .sent request _ => .asked request

/-- An operation with an id: `carries` says how a request carries an album id. -/
structure IdChecked (albumPrefix id : String) (carries : String → RestRequest → Prop)
    (answer : Answer) : Prop where
  sent : ∀ request, answer = .asked request →
    ∃ albumId, Stripped albumPrefix id albumId ∧ carries albumId request
  refused : hasPrefix id albumPrefix = false → ∃ message, answer = .error message

variable {albumPrefix id : String} {carries : String → RestRequest → Prop}

theorem idChecked_error (message : String) :
    IdChecked albumPrefix id carries (.error message) :=
  ⟨nofun, fun _ => ⟨message, rfl⟩⟩

theorem idChecked_nothing_iff :
    IdChecked albumPrefix id carries .nothing ↔ hasPrefix id albumPrefix = true := by
  refine ⟨fun h => ?_, fun h => ⟨nofun, fun hno => absurd h (Bool.eq_false_iff.1 hno)⟩⟩
  cases hid : hasPrefix id albumPrefix with
  | true => rfl
  | false =>
    obtain ⟨message, hanswer⟩ := h.refused hid
    cases hanswer

/-- A request with the album id that is in the id. -/
theorem idChecked_asked_iff {request : RestRequest}
    (hcarries : ∀ albumId, id = albumPrefix ++ albumId → carries albumId request) :
    IdChecked albumPrefix id carries (.asked request) ↔ hasPrefix id albumPrefix = true := by
  refine ⟨fun h => ?_, fun h => ⟨?_, fun hno => absurd h (Bool.eq_false_iff.1 hno)⟩⟩
  · obtain ⟨albumId, hstripped, -⟩ := h.sent request rfl
    exact hasPrefix_iff.2 ⟨albumId, hstripped.suffix⟩
  · intro request' hrequest
    obtain rfl := Answer.asked.inj hrequest
    obtain ⟨albumId, heq⟩ := hasPrefix_iff.1 h
    exact ⟨albumId, stripped_of_eq heq, hcarries albumId heq⟩

end LibSocialWeb
