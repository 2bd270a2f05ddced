/-
Module: OneTimePassword.Hmac
Purpose: Keyed message digests built on SHA-1.
Main exports: Hmac.sha1, Hmac.length_sha1
-/
import OneTimePassword.Sha1

namespace OneTimePassword.Hmac

/-- A key of exactly one block: a longer one is replaced by its digest, and zeros fill it up. -/
def blockKey (key : Bytes) : Bytes :=
  let short := if key.length > Sha1.blockLength then Sha1.digest key else key
  short ++ List.replicate (Sha1.blockLength - short.length) 0

/-- The digest of a message under a key. -/
def sha1 (key message : Bytes) : Bytes :=
  let inner := (blockKey key).map (· ^^^ 0x36)
  let outer := (blockKey key).map (· ^^^ 0x5c)
  Sha1.digest (outer ++ Sha1.digest (inner ++ message))

@[simp] theorem length_sha1 (key message : Bytes) : (sha1 key message).length = Sha1.digestLength :=
  Sha1.length_digest _

end OneTimePassword.Hmac
