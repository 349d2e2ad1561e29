import Leasehold.Digest.Sha256

/-!
# Keyed digests

`Hmac.sign` is the digest of a message under a key: nobody who does not know the key can compute it.
A key longer than a block counts by its own digest.
-/

namespace Leasehold.Hmac

/-- A key as one block. -/
def keyBlock (key : List UInt8) : List UInt8 :=
  let short := if Sha256.blockLength < key.length then Sha256.digest key else key
  short ++ List.replicate (Sha256.blockLength - short.length) 0

/-- The digest of a message under a key. -/
def sign (key message : List UInt8) : List UInt8 :=
  let block := keyBlock key
  let inner := Sha256.digest (block.map (· ^^^ 0x36) ++ message)
  Sha256.digest (block.map (· ^^^ 0x5c) ++ inner)

end Leasehold.Hmac
