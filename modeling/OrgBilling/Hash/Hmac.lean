import OrgBilling.Hash.Sha256

/-!
# Keyed message authentication

HMAC (RFC 2104) with SHA-256: the message is hashed together with the key under one mask, and the
result is hashed together with the key under another. A key longer than a block is replaced by its
digest, so a key of any length is accepted.
-/

namespace OrgBilling.Hash.Hmac

/-- The size of a block in bytes. -/
def blockSize : Nat := 64

/-- The key as one whole block. -/
def blockKey (key : List UInt8) : List UInt8 :=
  let k := if key.length > blockSize then Sha256.digest key else key
  k ++ List.replicate (blockSize - k.length) 0

/-- A block key under a mask. -/
def masked (mask : UInt8) (key : List UInt8) : List UInt8 :=
  (blockKey key).map (· ^^^ mask)

/-- The code that authenticates a message under a key. -/
def code (key message : List UInt8) : List UInt8 :=
  Sha256.digest (masked 0x5c key ++ Sha256.digest (masked 0x36 key ++ message))

/-- A code has 32 bytes. -/
@[simp] theorem length_code (key message : List UInt8) : (code key message).length = 32 :=
  Sha256.length_digest _

end OrgBilling.Hash.Hmac
