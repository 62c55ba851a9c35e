import OrderDesk.Digest.Sha256
import OrderDesk.Digest.Sha512

/-!
# Keyed digests

* `mac`                               the keyed digest over any hash with its block length;
* `sha256`, `sha384`, `sha512`         the three in use.
-/

namespace OrderDesk.Hmac

/-- the key at the length of a block: hashed when it is longer, zeros after it -/
def blockKey (hash : Octets → Octets) (block : Nat) (key : Octets) : Octets :=
  let k := if block < key.length then hash key else key
  k ++ List.replicate (block - k.length) 0

def mac (hash : Octets → Octets) (block : Nat) (key m : Octets) : Octets :=
  let k := blockKey hash block key
  hash (k.map (· ^^^ 0x5C) ++ hash (k.map (· ^^^ 0x36) ++ m))

def sha256 : Octets → Octets → Octets := mac Sha256.hash 64

/-- over the shortened 512-bit hash -/
def sha384 : Octets → Octets → Octets := mac Sha512.hash384 128

def sha512 : Octets → Octets → Octets := mac Sha512.hash 128

end OrderDesk.Hmac
