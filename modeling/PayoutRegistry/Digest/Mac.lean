import PayoutRegistry.Digest.Sha2

/-! Keyed digests: the key is spread over a block and hashed in front of the message, twice. -/
namespace PayoutRegistry.Digest

/-- The hashes that tokens may be signed with. -/
inductive Hash where
  | sha256
  | sha384
  | sha512
deriving DecidableEq, Repr

namespace Hash

def digest : Hash → Bytes → Bytes
  | .sha256 => Digest.sha256.digest
  | .sha384 => Digest.sha384.digest
  | .sha512 => Digest.sha512.digest

def blockBytes : Hash → Nat
  | .sha256 => 64
  | .sha384 | .sha512 => 128

end Hash

/-- The key of one block: a long key is hashed first, a short one is filled with zeros. -/
def blockKey (h : Hash) (key : Bytes) : Bytes :=
  let key := if h.blockBytes < key.length then h.digest key else key
  key ++ List.replicate (h.blockBytes - key.length) 0

def mac (h : Hash) (key message : Bytes) : Bytes :=
  let key := blockKey h key
  let inner := h.digest (key.map (· ^^^ 0x36) ++ message)
  h.digest (key.map (· ^^^ 0x5C) ++ inner)

end PayoutRegistry.Digest
