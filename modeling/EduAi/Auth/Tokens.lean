import EduAi.Store.Base64Url
import EduAi.Store.Runs
import EduAi.Store.Table

set_option autoImplicit false

namespace EduAi.Auth

open EduAi.Store

abbrev Uuid := String

-- Milliseconds since the epoch.
abbrev Instant := Int

inductive UserStatus where
  | active | inactive | suspended
deriving DecidableEq, Repr

structure AuthUser where
  id : Uuid
  email : String
  roles : List String
  status : UserStatus
deriving DecidableEq, Repr

def refreshTokenExpiresInSeconds : Int :=
  30 * 24 * 60 * 60

def quoted (text : String) : String :=
  "\"" ++ text ++ "\""

def claimsText (user : AuthUser) (now : Instant) : String :=
  let issuedAt := now / 1000
  "\"email\":" ++ quoted user.email ++ ",\"roles\":[" ++ ",".intercalate (user.roles.map quoted) ++ "],\"iat\":" ++ toString issuedAt ++
    ",\"exp\":" ++ toString (issuedAt + refreshTokenExpiresInSeconds) ++ "\x7d"

def headerText : String :=
  "\x7b\"alg\":\"HS256\",\"typ\":\"JWT\"\x7d"

def payloadBytes (sub : Uuid) (claims : String) : Bytes :=
  utf8 "\x7b\"sub\":\"" ++ utf8 sub ++ utf8 "\"," ++ utf8 claims

def dot : UInt8 := 46

def signedToken (hmac : Bytes → Bytes) (sub : Uuid) (claims : String) : Bytes :=
  let input := base64url (utf8 headerText) ++ dot :: base64url (payloadBytes sub claims)
  input ++ dot :: base64url (hmac input)

-- What the packages jsonwebtoken and bcrypt provide: a token that verifies was signed for its subject, and a hash stands for
-- the first 72 bytes of what it was made from.
structure Primitives (H : Type) where
  hmac : Bytes → Bytes
  verify : Instant → Bytes → Option Uuid
  hash : Nat → Bytes → H
  compare : Bytes → H → Bool
  verify_signed : ∀ now token sub, verify now token = some sub → ∃ claims, token = signedToken hmac sub claims
  compare_hash : ∀ x salt y, compare x (hash salt y) = true ↔ x.take 72 = y.take 72

theorem header_length : (base64url (utf8 headerText)).length = 36 := by
  decide +kernel

theorem signedToken_take (hmac : Bytes → Bytes) (sub : Uuid) (claims claims' : String) (long : 19 ≤ (utf8 sub).length) :
    (signedToken hmac sub claims).take 72 = (signedToken hmac sub claims').take 72 := by
  have opening : (utf8 "\x7b\"sub\":\"").length = 8 := by decide +kernel
  have payload (claims : String) : (payloadBytes sub claims).take 27 = (utf8 "\x7b\"sub\":\"" ++ utf8 sub).take 27 := by
    unfold payloadBytes
    rw [List.append_assoc (utf8 _ ++ utf8 sub), List.take_append_of_le_length]
    rw [List.length_append, opening]
    omega
  have enough (claims : String) : 27 ≤ (payloadBytes sub claims).length := by
    simp only [payloadBytes, List.length_append, opening]
    omega
  have encoded := base64url_take 9 (payloadBytes sub claims) (payloadBytes sub claims') (enough claims)
    (enough claims') ((payload claims).trans (payload claims').symm)
  have token (claims : String) : (signedToken hmac sub claims).take 72 =
      base64url (utf8 headerText) ++ dot :: ((base64url (payloadBytes sub claims)).take 36).take 35 := by
    have length := (base64url_starts 9 (payloadBytes sub claims) (enough claims)).2
    unfold signedToken
    rw [List.take_append_of_le_length, List.take_append, header_length, List.take_of_length_le, List.take_succ_cons, List.take_take]
    · rfl
    · rw [header_length]
      decide
    · rw [List.length_append, header_length, List.length_cons]
      omega
  rw [token claims, token claims', encoded]

end EduAi.Auth
