import LibSocialWeb.Flickr.CredentialsManager
import LibSocialWeb.Lib.Base64
import LibSocialWeb.Lib.Scan
import LibSocialWeb.Lib.Separators

/-!
# Tokens in the keyring (`libsocialweb-keyfob/sw-keyfob-oauth.c`)

The keyring holds a token and its secret as one string: both in base 64, with a blank between them.
`decode` splits the string at the blank and hands the two out through pointers. The decoded bytes
end with a NUL, so that they are a C string.

Strings are lists of bytes here. `base64Encode` and `base64Decode` stand for GLib's
`g_base64_encode` and `g_base64_decode`; `Base64` has functions that do as these do.

**Main result.** `oauthSecrets_roundTrip`: a token and a secret come back, and `decode` fails on the
strings without a blank, where it leaves the pointers alone.
-/

namespace LibSocialWeb.Keyfob

open Scan

/-- `g_strsplit (string, delimiter, 2)`. The empty string has no parts. -/
def strsplitTwo {α : Type*} [DecidableEq α] (delimiter : α) (string : List α) : List (List α) :=
  if string = [] then []
  else
    match string.dropWhile (· ≠ delimiter) with
    | [] => [string]
    | _ :: rest => [string.takeWhile (· ≠ delimiter), rest]

/-- What `token` and `token_secret` point to. -/
structure TokenPointers where
  token : Option (List UInt8)
  tokenSecret : Option (List UInt8)
  deriving DecidableEq

variable (base64Encode base64Decode : List UInt8 → List UInt8)

/-- `decode`: the value it returns, and the pointers. -/
def decode (string : List UInt8) (pointers : TokenPointers) : Bool × TokenPointers :=
  match strsplitTwo 32 string with
  | token :: tokenSecret :: _ =>
    (true, ⟨some (cString (base64Decode token)), some (cString (base64Decode tokenSecret))⟩)
  | _ => (false, pointers)

/-- `encode` -/
def encode (token secret : List UInt8) : List UInt8 :=
  base64Encode token ++ [32] ++ base64Encode secret

/-! ## Splitting -/

section Splitting

variable {α : Type*} [DecidableEq α] {delimiter : α}

theorem strsplitTwo_append {first : List α} (hfirst : delimiter ∉ first) (second : List α) :
    strsplitTwo delimiter (first ++ [delimiter] ++ second) = [first, second] := by
  have hne : first ++ [delimiter] ++ second ≠ [] := by simp
  rw [strsplitTwo, if_neg hne, List.append_assoc, List.singleton_append,
    Separators.dropWhile_append hfirst, Separators.takeWhile_append hfirst]

theorem strsplitTwo_of_notMem {string : List α} (h : delimiter ∉ string) :
    strsplitTwo delimiter string = if string = [] then [] else [string] := by
  rw [strsplitTwo, Separators.dropWhile_eq_nil_iff.2 h]

/-- A string with the delimiter has two parts. -/
theorem exists_strsplitTwo {string : List α} (h : delimiter ∈ string) :
    ∃ first second, strsplitTwo delimiter string = [first, second] := by
  obtain ⟨first, second, rfl, hfirst⟩ := List.eq_append_cons_of_mem h
  exact ⟨first, second, by simpa using strsplitTwo_append hfirst second⟩

end Splitting

/-- The credentials of Flickr are split in the same way. -/
theorem splitPair_eq (string : String) :
    splitPair string =
      match strsplitTwo ' ' string.toList with
      | token :: tokenSecret :: _ => some (String.ofList token, String.ofList tokenSecret)
      | _ => none := by
  unfold splitPair strsplitTwo
  by_cases hnil : string.toList = []
  · rw [if_pos hnil, hnil]
    rfl
  · rw [if_neg hnil]
    cases string.toList.dropWhile (· ≠ ' ') with
    | nil => rfl
    | cons c rest => rfl

/-! ## Decoding -/

theorem decode_of_notMem {string : List UInt8} (h : 32 ∉ string) (pointers : TokenPointers) :
    decode base64Decode string pointers = (false, pointers) := by
  rw [decode, strsplitTwo_of_notMem h]
  split_ifs <;> rfl

theorem decode_of_mem {string : List UInt8} (h : 32 ∈ string) (pointers : TokenPointers) :
    (decode base64Decode string pointers).1 = true := by
  obtain ⟨token, tokenSecret, hparts⟩ := exists_strsplitTwo h
  rw [decode, hparts]

variable {base64Encode base64Decode}

/-- **Tokens in the keyring come back.** -/
theorem oauthSecrets_roundTrip (hinverse : ∀ s, base64Decode (base64Encode s) = s)
    (hblank : ∀ s, 32 ∉ base64Encode s) :
    (∀ t s pointers, 0 ∉ t → 0 ∉ s →
      decode base64Decode (encode base64Encode t s) pointers = (true, ⟨some t, some s⟩)) ∧
    (∀ string pointers, (decode base64Decode string pointers).1 = true ↔ 32 ∈ string) ∧
    ∀ string pointers, (decode base64Decode string pointers).1 = false →
      (decode base64Decode string pointers).2 = pointers := by
  refine ⟨?_, ?_, ?_⟩
  · intro t s pointers ht hs
    rw [decode, encode, strsplitTwo_append (hblank t)]
    dsimp only
    rw [hinverse, hinverse, cString_of_notMem ht, cString_of_notMem hs]
  · intro string pointers
    refine ⟨?_, fun h => decode_of_mem base64Decode h pointers⟩
    intro htrue
    by_contra h
    rw [decode_of_notMem base64Decode h] at htrue
    cases htrue
  · intro string pointers hfalse
    have h : 32 ∉ string := by
      intro h
      rw [decode_of_mem base64Decode h] at hfalse
      cases hfalse
    rw [decode_of_notMem base64Decode h]

theorem blank_notMem_base64 (s : List UInt8) : 32 ∉ Base64.encode s := by
  intro h
  have hletter := Base64.letter_or_pad s 32 h
  cases hletter

/-- The string that the tests of the keyfob encode. -/
example : encode Base64.encode [49, 50, 51, 52] [53, 54, 55, 56] =
    [77, 84, 73, 122, 78, 65, 61, 61, 32, 78, 84, 89, 51, 79, 65, 61, 61] := by decide

/-- A token with a blank in it and an empty secret. -/
theorem oauthSecrets_roundTrip_blank :
    decode Base64.decode (encode Base64.encode [49, 32, 50] []) ⟨none, none⟩ =
      (true, ⟨some [49, 32, 50], some []⟩) :=
  (oauthSecrets_roundTrip Base64.decode_encode blank_notMem_base64).1 [49, 32, 50] [] ⟨none, none⟩
    (by decide) (by decide)

end LibSocialWeb.Keyfob
