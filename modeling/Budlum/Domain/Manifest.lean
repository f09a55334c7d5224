import Budlum.Core.Modules

/-!
# Content manifests

`storage/manifest.rs`: the commitment to a sharded piece of content. The chain sees the
identifiers and the sizes of the shards, never their bytes. A manifest that arrives from
outside is checked by `validate_untrusted` before anything is built on it.
-/

namespace Budlum

open Machine

/-- `ContentId`: the 32 bytes of a hash. -/
abbrev ContentId : Type := Id32

inductive ShardKind
  | data
  | parity
deriving DecidableEq

structure ShardRef where
  index : ℕ
  shardId : ContentId
  size : ℕ
  kind : ShardKind
deriving DecidableEq

inductive ContentCipher
  | aes256Gcm
  | chaCha20Poly1305
  | xChaCha20Poly1305
deriving DecidableEq

inductive ContentEncryption
  | plaintext
  | clientSide (cipher : ContentCipher)
deriving DecidableEq

structure ErasureScheme where
  k : ℕ
  n : ℕ
deriving DecidableEq

structure ContentManifest where
  manifestId : ContentId
  owner : Address
  totalSize : ℕ
  shardCount : ℕ
  shards : List ShardRef
  erasure : ErasureScheme
  contentSize : ℕ
  encryption : ContentEncryption
deriving DecidableEq

/-- The texts of `Display`. -/
def ContentCipher.toText : ContentCipher → String
  | .aes256Gcm => "aes-256-gcm"
  | .chaCha20Poly1305 => "chacha20-poly1305"
  | .xChaCha20Poly1305 => "xchacha20-poly1305"

def ContentEncryption.toText : ContentEncryption → String
  | .plaintext => "plaintext"
  | .clientSide cipher => s!"client-side/{cipher.toText}"

def ContentEncryption.commitmentTag : ContentEncryption → UInt8
  | .plaintext => 0
  | .clientSide .aes256Gcm => 1
  | .clientSide .chaCha20Poly1305 => 2
  | .clientSide .xChaCha20Poly1305 => 3

def ContentEncryption.isEncrypted : ContentEncryption → Bool
  | .plaintext => false
  | .clientSide _ => true

def ErasureScheme.validate (e : ErasureScheme) : Except String Unit :=
  if e.k = 0 then .error "erasure scheme k must be at least 1"
  else if e.n < e.k then
    .error s!"erasure scheme n {e.n} is below k {e.k}; n counts data plus parity"
  else .ok ()

def minAeadCiphertextBytes : ℕ := 16

def ShardKind.byte : ShardKind → UInt8
  | .data => 0
  | .parity => 1

def manifestIdFromParts (hashFields : List Bytes → Hash32) (shards : List ShardRef)
    (erasure : ErasureScheme) (encryption : ContentEncryption) (contentSize totalSize : ℕ) :
    ContentId :=
  let buf := strBytes "BDLM_MANIFEST_V4" ++ u32LeBytes shards.length ++
    (shards.flatMap fun s =>
      u32LeBytes s.index ++ s.shardId.bytes ++ u32LeBytes s.size ++ [s.kind.byte]) ++
    u32LeBytes erasure.k ++ u32LeBytes erasure.n ++ [encryption.commitmentTag] ++
    u64LeBytes contentSize ++ u64LeBytes totalSize
  ⟨hashFields [strBytes "BDLM_MANIFEST_V4", buf]⟩

namespace ContentManifest

variable (m : ContentManifest)

def shard (shardId : ContentId) : Option ShardRef := m.shards.find? fun s => s.shardId = shardId

/-- `content_size`, the method: an old manifest has none and takes the total. -/
def committedSize : ℕ := if m.contentSize = 0 then m.totalSize else m.contentSize

def verifyId (hashFields : List Bytes → Hash32) (hexEncode : Bytes → String) :
    Except String Unit :=
  let expected := manifestIdFromParts hashFields m.shards m.erasure m.encryption m.committedSize
    m.totalSize
  if expected ≠ m.manifestId then
    .error (s!"manifest_id {hexEncode m.manifestId.bytes} does not match the " ++
      s!"{hexEncode expected.bytes} its contents derive")
  else .ok ()

/-- The loop of `validate_untrusted`: no empty shard, no index twice, and the sum of the
sizes. -/
def checkShards : List ℕ → ℕ → List ShardRef → Except String ℕ
  | _, total, [] => .ok total
  | seen, total, s :: rest =>
    if s.size = 0 then .error s!"Shard {s.index} has size 0"
    else if s.index ∈ seen then .error s!"Duplicate shard index {s.index}"
    else match checkedAdd u64Max total s.size with
      | some total => checkShards (s.index :: seen) total rest
      | none => .error "ContentManifest total size overflow"

def dataShards : ℕ := (m.shards.countP fun s => s.kind = .data) % 2 ^ 32

def validateUntrusted (hashFields : List Bytes → Hash32) (hexEncode : Bytes → String) :
    Except String Unit :=
  if m.shards.isEmpty then .error "ContentManifest must have at least one shard"
  else if m.shards.length % 2 ^ 32 ≠ m.shardCount then
    .error (s!"shard_count {m.shardCount} does not match the {m.shards.length} shards present")
  else do
    let total ← checkShards [] 0 m.shards
    if total ≠ m.totalSize then
      .error (s!"total_size {m.totalSize} does not match the {total} bytes the shards sum to")
    else if m.contentSize > m.totalSize then
      .error (s!"content_size {m.contentSize} exceeds the {m.totalSize} bytes stored across shards")
    else do
      m.erasure.validate
      if m.erasure.n ≠ m.shardCount then
        .error s!"erasure n {m.erasure.n} does not match shard_count {m.shardCount}"
      else if m.dataShards ≠ m.erasure.k then
        .error (s!"erasure k {m.erasure.k} does not match the {m.dataShards} data shards present")
      else if m.encryption.isEncrypted = true ∧ m.committedSize < minAeadCiphertextBytes then
        .error (s!"manifest declares {m.encryption.toText} but content_size {m.committedSize} " ++
          s!"is below the {minAeadCiphertextBytes}-byte authentication tag every named cipher " ++
          "appends")
      else m.verifyId hashFields hexEncode

end ContentManifest

end Budlum
