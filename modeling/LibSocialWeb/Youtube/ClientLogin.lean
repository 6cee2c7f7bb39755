import LibSocialWeb.Service.Signals
import Mathlib.Tactic.SplitIfs

/-!
# The ClientLogin reply (`services/youtube/youtube.c`)

YouTube answers a login with lines of a name and a value. `_got_user_auth` splits the whole reply at
every `=` and every line break, and takes the second and the fourth token for the two values if the
first and the third are the names it looks for. The vector of tokens ends with NULL, which may be
read; what comes after it may not. Strings are lists of bytes.

The reply `Auth` has one token, so that the third lies behind the NULL. A value with a `=` is cut
there, and the token after it is taken for a name.

**Main result.** `clientLoginParsed_iff`: a reply is read inside the vector and its values are
stored as they are exactly when it is not `Auth` and none of its values contains a `=`.
-/

namespace LibSocialWeb

namespace Youtube

/-! ## The service -/

inductive Credentials where
  | offline
  | credsInvalid
  | credsValid
  deriving DecidableEq, Repr

/-- `proxyUserAuth` is what the upload proxy was told last. -/
structure SwServiceYoutube where
  credentials : Credentials
  username : Option String
  password : Option String
  userAuth : Option (List UInt8)
  nickname : Option (List UInt8)
  proxyUserAuth : Option (List UInt8)
  emitted : List ServiceSignal

namespace SwServiceYoutube

variable (s : SwServiceYoutube)

/-- `get_dynamic_caps` -/
def getDynamicCaps : List String :=
  match s.credentials with
  | .credsValid => [IS_CONFIGURED, CREDENTIALS_VALID]
  | .credsInvalid => [IS_CONFIGURED, CREDENTIALS_INVALID]
  | .offline => if s.username.isSome && s.password.isSome then [IS_CONFIGURED] else []

def emitCapabilitiesChanged : SwServiceYoutube :=
  { s with emitted := s.emitted ++ [.capabilitiesChanged s.getDynamicCaps] }

end SwServiceYoutube

/-! ## The parser -/

/-- `Auth` -/
def AUTH : List UInt8 := [65, 117, 116, 104]

/-- `YouTubeUser` -/
def YOUTUBE_USER : List UInt8 := [89, 111, 117, 84, 117, 98, 101, 85, 115, 101, 114]

/-- `=` and the line break -/
def isDelimiter (c : UInt8) : Bool := c == 61 || c == 10

/-- `g_strsplit_set` without a limit. The empty string has no parts. -/
def gStrsplitSet (string : List UInt8) : List (List UInt8) :=
  if string = [] then [] else string.splitOnP isDelimiter

/-- What a read can do wrong. -/
inductive ParseFault where
  /-- There is no vector, because there is no reply. -/
  | noVector
  /-- The read is behind the NULL at the end of the vector. -/
  | pastEnd
  deriving DecidableEq, Repr

/-- A token of the vector; the one after the last is NULL. -/
def tokenAt (tokens : List (List UInt8)) (i : ℕ) : Except ParseFault (Option (List UInt8)) :=
  if i ≤ tokens.length then .ok tokens[i]? else .error .pastEnd

/-- The two values, if the names are the expected ones. -/
def readTokens (tokens : List (List UInt8)) :
    Except ParseFault (Option (Option (List UInt8) × Option (List UInt8))) := do
  if (← tokenAt tokens 0) = some AUTH then
    if (← tokenAt tokens 2) = some YOUTUBE_USER then
      return some (← tokenAt tokens 1, ← tokenAt tokens 3)
    else return none
  else return none

/-- `_got_user_auth` -/
def gotUserAuth (s : SwServiceYoutube) (error : Option String) (message : Option (List UInt8)) :
    Except ParseFault SwServiceYoutube :=
  match error, message with
  | some _, _ => .ok ({ s with credentials := .credsInvalid }).emitCapabilitiesChanged
  | none, none => .error .noVector
  | none, some message =>
    match readTokens (gStrsplitSet message) with
    | .error fault => .error fault
    | .ok (some (userAuth, nickname)) =>
      .ok ({ s with
        userAuth := userAuth
        proxyUserAuth := userAuth
        nickname := nickname
        credentials := .credsValid }).emitCapabilitiesChanged
    | .ok none => .ok ({ s with credentials := .credsInvalid }).emitCapabilitiesChanged

/-! ## The property and the condition -/

/-- A value: not empty, in one line. -/
def IsValue (text : List UInt8) : Prop := text ≠ [] ∧ 10 ∉ text

/-- The reply with these values. -/
def reply (tok nick : List UInt8) : List UInt8 :=
  AUTH ++ 61 :: (tok ++ 10 :: (YOUTUBE_USER ++ 61 :: (nick ++ [10])))

/-- The reply is read inside the vector, and what it says is stored. -/
structure ClientLoginParsed (s : SwServiceYoutube) (message : List UInt8) : Prop where
  total : ∃ s', gotUserAuth s none (some message) = .ok s'
  exact : ∀ tok nick, IsValue tok → IsValue nick → message = reply tok nick →
    ∃ s', gotUserAuth s none (some message) = .ok s' ∧ s'.credentials = .credsValid ∧
      s'.userAuth = some tok ∧ s'.nickname = some nick

/-- No `=` in the values, and not the name alone. -/
def Unambiguous (message : List UInt8) : Prop :=
  message ≠ AUTH ∧ ∀ tok nick, IsValue tok → IsValue nick → message = reply tok nick →
    61 ∉ tok ∧ 61 ∉ nick

/-! ## Tokens -/

theorem isDelimiter_eq_false_iff {c : UInt8} : isDelimiter c = false ↔ c ≠ 61 ∧ c ≠ 10 := by
  unfold isDelimiter
  rw [Bool.or_eq_false_iff, beq_eq_false_iff_ne, beq_eq_false_iff_ne]

theorem passes_of_notMem {text : List UInt8} (hequals : 61 ∉ text) (hbreak : 10 ∉ text) :
    ∀ c ∈ text, isDelimiter c = false := fun _ hc =>
  isDelimiter_eq_false_iff.2 ⟨fun h => hequals (h ▸ hc), fun h => hbreak (h ▸ hc)⟩

/-- A value is one token, or its first token is cut off. -/
theorem splitOnP_value {text : List UInt8} (hbreak : 10 ∉ text) :
    61 ∉ text ∧ text.splitOnP isDelimiter = [text] ∨
      61 ∈ text ∧ ∃ first rest, text.splitOnP isDelimiter = first :: rest ∧ first ≠ text := by
  by_cases hequals : 61 ∈ text
  · obtain ⟨first, rest, rfl, hfirst⟩ := List.eq_append_cons_of_mem hequals
    have hpass : ∀ c ∈ first, isDelimiter c = false :=
      passes_of_notMem hfirst fun h => hbreak (List.mem_append_left _ h)
    refine Or.inr ⟨hequals, first, rest.splitOnP isDelimiter, ?_, ?_⟩
    · exact List.splitOnP_append_cons_of_forall_mem hpass 61 rfl rest
    · intro heq
      exact List.cons_ne_nil 61 rest (List.append_cancel_left (heq.symm.trans
        (List.append_nil first).symm))
  · exact Or.inl ⟨hequals, List.splitOnP_eq_singleton (passes_of_notMem hequals hbreak)⟩

/-- The tokens of a reply: the names, and between them those of the values. -/
theorem gStrsplitSet_reply (tok nick : List UInt8) :
    gStrsplitSet (reply tok nick) = AUTH :: (tok.splitOnP isDelimiter ++
      YOUTUBE_USER :: (nick.splitOnP isDelimiter ++ [[]])) := by
  have hauth : ∀ c ∈ AUTH, isDelimiter c = false := passes_of_notMem (by decide) (by decide)
  have huser : ∀ c ∈ YOUTUBE_USER, isDelimiter c = false :=
    passes_of_notMem (by decide) (by decide)
  have hne : reply tok nick ≠ [] := List.append_ne_nil_of_right_ne_nil _ (List.cons_ne_nil _ _)
  rw [gStrsplitSet, if_neg hne, reply,
    List.splitOnP_append_cons_of_forall_mem hauth 61 rfl, List.splitOnP_append_cons _ _ rfl,
    List.splitOnP_append_cons_of_forall_mem huser 61 rfl, List.splitOnP_append_cons _ _ rfl,
    List.splitOnP_nil]

/-- A reply with one token is that token. -/
theorem gStrsplitSet_eq_singleton {message : List UInt8} (h : gStrsplitSet message = [AUTH]) :
    message = AUTH := by
  unfold gStrsplitSet at h
  split_ifs at h with hempty
  by_cases hdelimiter : ∃ c ∈ message, isDelimiter c = true
  · obtain ⟨c, hc, hdelimiter⟩ := hdelimiter
    obtain ⟨before, rest, rfl⟩ := List.append_of_mem hc
    rw [List.splitOnP_append_cons _ _ hdelimiter] at h
    have hlength := congrArg List.length h
    have hbefore := List.length_pos_iff.2 (List.splitOnP_ne_nil isDelimiter before)
    have hrest := List.length_pos_iff.2 (List.splitOnP_ne_nil isDelimiter rest)
    rw [List.length_append, List.length_singleton] at hlength
    omega
  · have hpass : ∀ c ∈ message, isDelimiter c = false := fun c hc =>
      Bool.eq_false_iff.2 fun htrue => hdelimiter ⟨c, hc, htrue⟩
    rw [List.splitOnP_eq_singleton hpass] at h
    exact (List.cons.inj h).1

/-! ## Reading -/

theorem readTokens_of_ne_auth {first : List UInt8} (h : first ≠ AUTH) (rest : List (List UInt8)) :
    readTokens (first :: rest) = .ok none := by
  show (if some first = some AUTH then _ else _) = _
  rw [if_neg (mt Option.some.inj h)]
  rfl

theorem readTokens_two (second : List UInt8) : readTokens [AUTH, second] = .ok none := rfl

theorem readTokens_three (second third : List UInt8) (rest : List (List UInt8)) :
    readTokens (AUTH :: second :: third :: rest) =
      .ok (if third = YOUTUBE_USER then some (some second, rest.head?) else none) := by
  have hfourth : tokenAt (AUTH :: second :: third :: rest) 3 = .ok rest.head? := by
    have hlength : 3 ≤ (AUTH :: second :: third :: rest).length := Nat.le_add_left 3 rest.length
    rw [tokenAt, if_pos hlength]
    cases rest <;> rfl
  show (if some third = some YOUTUBE_USER then
    (tokenAt (AUTH :: second :: third :: rest) 3).bind fun nickname =>
      .ok (some (some second, nickname)) else .ok none) = _
  by_cases hthird : third = YOUTUBE_USER
  · rw [if_pos (congrArg some hthird), if_pos hthird, hfourth]
    rfl
  · rw [if_neg (mt Option.some.inj hthird), if_neg hthird]

/-- Only the vector with the name alone is read past its end. -/
theorem readTokens_total {tokens : List (List UInt8)} (h : tokens ≠ [AUTH]) :
    ∃ values, readTokens tokens = .ok values := by
  rcases tokens with _ | ⟨first, rest⟩
  · exact ⟨none, rfl⟩
  · by_cases hfirst : first = AUTH
    · subst hfirst
      rcases rest with _ | ⟨second, _ | ⟨third, rest⟩⟩
      · exact absurd rfl h
      · exact ⟨_, readTokens_two second⟩
      · exact ⟨_, readTokens_three second third rest⟩
    · exact ⟨_, readTokens_of_ne_auth hfirst rest⟩

/-- The values are the second and the fourth token. -/
theorem values_of_readTokens {tokens : List (List UInt8)} {userAuth nickname : Option (List UInt8)}
    (h : readTokens tokens = .ok (some (userAuth, nickname))) :
    userAuth = tokens[1]? ∧ nickname = tokens[3]? := by
  rcases tokens with _ | ⟨first, rest⟩
  · cases h
  · by_cases hfirst : first = AUTH
    · subst hfirst
      rcases rest with _ | ⟨second, _ | ⟨third, rest⟩⟩
      · cases h
      · rw [readTokens_two] at h
        cases h
      · rw [readTokens_three] at h
        split_ifs at h with hthird
        · injection h with h
          injection h with h
          injection h with hauth hnick
          refine ⟨hauth.symm, ?_⟩
          rw [← hnick]
          cases rest <;> rfl
        · cases h
    · rw [readTokens_of_ne_auth hfirst] at h
      cases h

/-! ## The callback -/

variable {s s' : SwServiceYoutube} {message tok nick : List UInt8}

/-- The callback gives what is read of the tokens. -/
theorem exists_gotUserAuth_iff :
    (∃ s', gotUserAuth s none (some message) = .ok s') ↔
      ∃ values, readTokens (gStrsplitSet message) = .ok values := by
  unfold gotUserAuth
  dsimp only
  rcases readTokens (gStrsplitSet message) with fault | _ | ⟨userAuth, nickname⟩
  · exact iff_of_false nofun nofun
  · exact iff_of_true ⟨_, rfl⟩ ⟨_, rfl⟩
  · exact iff_of_true ⟨_, rfl⟩ ⟨_, rfl⟩

/-- Valid credentials come with the second and the fourth token. -/
theorem stored_of_credsValid (h : gotUserAuth s none (some message) = .ok s')
    (hvalid : s'.credentials = .credsValid) :
    s'.userAuth = (gStrsplitSet message)[1]? ∧ s'.nickname = (gStrsplitSet message)[3]? := by
  unfold gotUserAuth at h
  dsimp only at h
  rcases hread : readTokens (gStrsplitSet message) with fault | _ | ⟨userAuth, nickname⟩
  · rw [hread] at h
    cases h
  · rw [hread] at h
    obtain rfl := Except.ok.inj h
    cases hvalid
  · rw [hread] at h
    obtain rfl := Except.ok.inj h
    exact values_of_readTokens hread

/-- Values without `=` are stored. -/
theorem gotUserAuth_reply (htok : IsValue tok) (hnick : IsValue nick) (htok' : 61 ∉ tok)
    (hnick' : 61 ∉ nick) :
    ∃ s', gotUserAuth s none (some (reply tok nick)) = .ok s' ∧ s'.credentials = .credsValid ∧
      s'.userAuth = some tok ∧ s'.nickname = some nick := by
  have htokens : gStrsplitSet (reply tok nick) = [AUTH, tok, YOUTUBE_USER, nick, []] := by
    rw [gStrsplitSet_reply, List.splitOnP_eq_singleton (passes_of_notMem htok' htok.2),
      List.splitOnP_eq_singleton (passes_of_notMem hnick' hnick.2)]
    rfl
  unfold gotUserAuth
  dsimp only
  rw [htokens, readTokens_three, if_pos rfl]
  exact ⟨_, rfl, rfl, rfl, rfl⟩

/-- Values that are stored have no `=`. -/
theorem notMem_of_stored (htok : IsValue tok) (hnick : IsValue nick)
    (hauth : (gStrsplitSet (reply tok nick))[1]? = some tok)
    (hname : (gStrsplitSet (reply tok nick))[3]? = some nick) : 61 ∉ tok ∧ 61 ∉ nick := by
  rw [gStrsplitSet_reply] at hauth hname
  rcases splitOnP_value htok.2 with ⟨htok', hsplit⟩ | ⟨_, first, rest, hsplit, hne⟩
  · rw [hsplit] at hname
    rcases splitOnP_value hnick.2 with ⟨hnick', -⟩ | ⟨_, first, rest, hsplit', hne⟩
    · exact ⟨htok', hnick'⟩
    · rw [hsplit'] at hname
      exact absurd (Option.some.inj hname) hne
  · rw [hsplit] at hauth
    exact absurd (Option.some.inj hauth) hne

/-! ## The main result -/

/-- **When the ClientLogin reply is parsed.** -/
theorem clientLoginParsed_iff (s : SwServiceYoutube) (message : List UInt8) :
    ClientLoginParsed s message ↔ Unambiguous message := by
  refine ⟨fun h => ⟨?_, ?_⟩, fun h => ⟨?_, ?_⟩⟩
  · rintro rfl
    obtain ⟨values, hread⟩ := exists_gotUserAuth_iff.1 h.total
    cases hread
  · rintro tok nick htok hnick rfl
    obtain ⟨s', hs', hvalid, hauth, hname⟩ := h.exact tok nick htok hnick rfl
    obtain ⟨hauth', hname'⟩ := stored_of_credsValid hs' hvalid
    exact notMem_of_stored htok hnick (hauth' ▸ hauth) (hname' ▸ hname)
  · exact exists_gotUserAuth_iff.2 (readTokens_total (mt gStrsplitSet_eq_singleton h.1))
  · rintro tok nick htok hnick rfl
    obtain ⟨htok', hnick'⟩ := h.2 tok nick htok hnick rfl
    exact gotUserAuth_reply htok hnick htok' hnick'

/-- A service that has a user name and a password. -/
def loggingIn : SwServiceYoutube :=
  ⟨.offline, some "user", some "password", none, none, none, []⟩

/-- The reply `Auth`, and one with the values `a=` and `b`. -/
theorem not_clientLoginParsed :
    ¬ ClientLoginParsed loggingIn AUTH ∧ ¬ ClientLoginParsed loggingIn (reply [97, 61] [98]) := by
  refine ⟨?_, ?_⟩
  · intro h
    obtain ⟨values, hread⟩ := exists_gotUserAuth_iff.1 h.total
    cases hread
  · intro h
    obtain ⟨s', hs', hvalid, hauth, -⟩ :=
      h.exact [97, 61] [98] ⟨by decide, by decide⟩ ⟨by decide, by decide⟩ rfl
    have hstored : some ([97, 61] : List UInt8) = (gStrsplitSet (reply [97, 61] [98]))[1]? :=
      hauth.symm.trans (stored_of_credsValid hs' hvalid).1
    exact absurd hstored (by decide)

end Youtube

end LibSocialWeb
