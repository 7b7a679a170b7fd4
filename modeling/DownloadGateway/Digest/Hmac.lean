import DownloadGateway.Digest.Sha256
/-!
# HMAC with SHA-256

A keyed digest: the message is hashed behind the key xor `0x36`, and that digest
behind the key xor `0x5c`.
-/

namespace DownloadGateway.Hmac

/-- The key as one block of 64 bytes: a longer key is replaced by its digest, a
shorter one filled with zeros. -/
def keyBlock (key : Bytes) : Bytes :=
  let k := if key.length > 64 then Sha256.digest key else key
  k ++ List.replicate (64 - k.length) 0

/-- The authentication code of a message under a key. -/
def code (key message : Bytes) : Bytes :=
  let block := keyBlock key
  let inner := Sha256.digest (block.map (· ^^^ 0x36) ++ message)
  Sha256.digest (block.map (· ^^^ 0x5c) ++ inner)

/-- An authentication code has 32 bytes. -/
theorem length_code (key message : Bytes) : (code key message).length = 32 :=
  Sha256.length_digest _

end DownloadGateway.Hmac
