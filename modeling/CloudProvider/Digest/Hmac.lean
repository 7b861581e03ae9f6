import CloudProvider.Digest.Sha256

/-!
# Keyed digests

* `hmac`: the HMAC of RFC 2104 over SHA-256.
-/

namespace CloudProvider.Digest

/-- A key on the 64 bytes of a block: one that is longer is replaced by its digest. -/
def blockKey (key : List UInt8) : List UInt8 :=
  let key := if 64 < key.length then Sha256.digest key else key
  key ++ List.replicate (64 - key.length) 0

/-- **The keyed digest of a message.** -/
def hmac (key message : List UInt8) : List UInt8 :=
  let key := blockKey key
  Sha256.digest (key.map (· ^^^ 0x5c) ++ Sha256.digest (key.map (· ^^^ 0x36) ++ message))

end CloudProvider.Digest
