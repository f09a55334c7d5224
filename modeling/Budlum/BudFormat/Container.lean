import Budlum.BudZero.Memory

/-!
# The `.bud` container

A file is cut at the boundaries of its format, small chunks are merged, and the chunks
are written behind a header that commits to them. No cut loses a byte, whatever the
bytes are, and the strict decoder takes back what the encoder wrote.
-/

namespace Budlum.BudFormat

open BudZero Windows List

/-- What the format takes from elsewhere: SHA3-256, `String::from_utf8_lossy` and the
decompressors of the two other chunk codecs. -/
structure Deps where
  sha3 : Bytes → Bytes
  length_sha3 : ∀ bytes, (sha3 bytes).length = 32
  fromUtf8Lossy : Bytes → List Char
  huffman : Bytes → Option Bytes
  zstd : Bytes → Option Bytes

def contentId (D : Deps) (bytes : Bytes) : Bytes :=
  D.sha3 (strBytes "BDLM_CONTENT_V1" ++ u64LeBytes bytes.length ++ bytes)

inductive StructuralKind
  | json | csv | log | text | binary

/-- Every chunk is built under the identifier of its own bytes. -/
structure StructuralChunk (D : Deps) where
  contentId : Bytes
  data : Bytes
  genuine : contentId = BudFormat.contentId D data

def structuralJoin {D : Deps} (chunks : List (StructuralChunk D)) : Bytes :=
  chunks.flatMap (·.data)

variable (D : Deps)

/-- `push_chunk`: an empty segment makes no chunk. -/
def pushChunk (out : List (StructuralChunk D)) (seg : Bytes) : List (StructuralChunk D) :=
  if seg = [] then out else out ++ [⟨_, seg, rfl⟩]

def chunksOf (slices : List Bytes) : List (StructuralChunk D) :=
  slices.map fun data => ⟨_, data, rfl⟩

/-- `split_fixed`: blocks of one size, the last one as long as what is left. -/
def splitFixed (data : Bytes) (block : ℕ) : List (StructuralChunk D) :=
  chunksOf D ((range ((data.length + block - 1) / block)).map fun i =>
    window data (i * block) block)

/-- The loop variables of the JSON scan; `pos` is the byte index of the next character. -/
structure Scan where
  out : List (StructuralChunk D) := []
  start : ℕ := 0
  pos : ℕ := 0
  depth : Int32 := 0
  inStr : Bool := false
  esc : Bool := false

/-- One character of the scan. A comma at depth one ends a chunk, unless it would be empty,
and opens the next. -/
def Scan.step (data : Bytes) (s : Scan D) (c : Char) : Scan D :=
  let quote := c = '"' ∧ s.esc = false
  let inStr := if quote then !s.inStr else s.inStr
  let esc := if quote then s.esc else if c = '\\' ∧ s.inStr then !s.esc else false
  let t := { s with pos := s.pos + c.utf8Size, inStr := inStr, esc := esc }
  if inStr then t
  else if c = '{' ∨ c = '[' then { t with depth := s.depth + 1 }
  else if c = '}' ∨ c = ']' then { t with depth := s.depth - 1 }
  else if c = ',' ∧ s.depth = 1 then
    { t with out := pushChunk D s.out ((data.take s.pos).drop s.start), start := s.pos }
  else t

def structuralSplit (kind : StructuralKind) (data : Bytes) : List (StructuralChunk D) :=
  if data = [] then []
  else
    match kind with
    | .json =>
      match ByteArray.utf8Decode? ⟨data.toArray⟩ with
      | none => splitFixed D data 65536
      | some chars =>
        let s := chars.toList.foldl (Scan.step D data) {}
        pushChunk D s.out (data.drop s.start)
    | .csv | .log | .text => chunksOf D (data.splitBy fun byte _ => byte != 10)
    | .binary => splitFixed D data 65536

/-- One turn of the merging loop, over the chunks put out and the bytes held back. -/
def compactStep (minChunk : ℕ) (s : List (StructuralChunk D) × Bytes) (c : StructuralChunk D) :
    List (StructuralChunk D) × Bytes :=
  if s.2 = [] ∧ minChunk ≤ c.data.length then (s.1 ++ [c], s.2)
  else if s.2.length + c.data.length ≤ max minChunk 1 then (s.1, s.2 ++ c.data)
  else if minChunk ≤ c.data.length then (pushChunk D s.1 s.2 ++ [c], [])
  else (pushChunk D s.1 s.2, c.data)

def structuralSplitCompact (kind : StructuralKind) (data : Bytes) (minChunk : ℕ) :
    List (StructuralChunk D) :=
  let s := (structuralSplit D kind data).foldl (compactStep D minChunk) ([], [])
  pushChunk D s.1 s.2

section

variable {D} {data : Bytes}

@[simp] lemma join_append (out chunks : List (StructuralChunk D)) :
    structuralJoin (out ++ chunks) = structuralJoin out ++ structuralJoin chunks :=
  flatMap_append

@[simp] lemma join_pushChunk (out : List (StructuralChunk D)) (seg : Bytes) :
    structuralJoin (pushChunk D out seg) = structuralJoin out ++ seg := by
  unfold pushChunk
  split
  next hseg => rw [hseg, append_nil]
  next => simp [structuralJoin]

lemma join_chunksOf (slices : List Bytes) :
    structuralJoin (chunksOf D slices) = slices.flatten := by
  induction slices with
  | nil => rfl
  | cons slice slices ih => exact congrArg (slice ++ ·) ih

lemma join_splitFixed {block : ℕ} (hblock : 0 < block) :
    structuralJoin (splitFixed D data block) = data := by
  have hblocks : ∀ n, ((range n).map fun i => window data (i * block) block).flatten =
      data.take (n * block) := by
    intro n
    induction n with
    | zero => simp
    | succ n ih =>
      rw [range_succ, map_append, flatten_append, ih]
      simp [Nat.succ_mul, take_add, window]
  rw [splitFixed, join_chunksOf, hblocks]
  apply take_of_length_le
  have hcover := Nat.lt_div_mul_add hblock (a := data.length + block - 1)
  omega

lemma Scan.join_step {s : Scan D} (c : Char) (hle : s.start ≤ s.pos)
    (h : structuralJoin s.out = data.take s.start) :
    (s.step D data c).start ≤ (s.step D data c).pos ∧
      structuralJoin (s.step D data c).out = data.take (s.step D data c).start := by
  have hpush : structuralJoin (pushChunk D s.out ((data.take s.pos).drop s.start)) =
      data.take s.pos := by
    have htake : data.take s.start = (data.take s.pos).take s.start := by
      rw [take_take, min_eq_left hle]
    rw [join_pushChunk, h, htake, take_append_drop]
  unfold Scan.step
  dsimp only
  split_ifs
  all_goals exact ⟨by dsimp only; omega, by assumption⟩

lemma Scan.join_run (chars : List Char) {s : Scan D} (hle : s.start ≤ s.pos)
    (h : structuralJoin s.out = data.take s.start) :
    structuralJoin (chars.foldl (Scan.step D data) s).out =
      data.take (chars.foldl (Scan.step D data) s).start := by
  induction chars generalizing s with
  | nil => exact h
  | cons c chars ih =>
    obtain ⟨hle', h'⟩ := Scan.join_step c hle h
    exact ih hle' h'

lemma join_structuralSplit (kind : StructuralKind) :
    structuralJoin (structuralSplit D kind data) = data := by
  unfold structuralSplit
  split
  next hnil => exact hnil.symm
  next =>
    cases kind with
    | json =>
      dsimp only
      split
      next => exact join_splitFixed (by decide)
      next chars _ =>
        rw [join_pushChunk, Scan.join_run _ le_rfl rfl, take_append_drop]
    | csv | log | text => exact (join_chunksOf _).trans (flatten_splitBy _ _)
    | binary => exact join_splitFixed (by decide)

lemma join_compactStep (minChunk : ℕ) (s : List (StructuralChunk D) × Bytes)
    (c : StructuralChunk D) :
    structuralJoin (compactStep D minChunk s c).1 ++ (compactStep D minChunk s c).2 =
      structuralJoin s.1 ++ s.2 ++ c.data := by
  have hone : structuralJoin [c] = c.data := append_nil _
  unfold compactStep
  split_ifs with hdirect
  · simp [hone, hdirect.1]
  · simp
  · simp [hone]
  · simp

lemma join_compact (minChunk : ℕ) (chunks : List (StructuralChunk D))
    (s : List (StructuralChunk D) × Bytes) :
    structuralJoin (chunks.foldl (compactStep D minChunk) s).1 ++
        (chunks.foldl (compactStep D minChunk) s).2 =
      structuralJoin s.1 ++ s.2 ++ structuralJoin chunks := by
  induction chunks generalizing s with
  | nil => exact (append_nil _).symm
  | cons c chunks ih =>
    rw [foldl_cons, ih, join_compactStep, append_assoc]
    rfl

lemma join_structuralSplitCompact (kind : StructuralKind) (minChunk : ℕ) :
    structuralJoin (structuralSplitCompact D kind data minChunk) = data := by
  rw [structuralSplitCompact, join_pushChunk, join_compact, join_structuralSplit]
  rfl

end

/-- The format registry, with the codes it is written by. -/
inductive FormatCodec
  | json | csv | log | text | jpeg | png | mp4 | pdf | unknown

def FormatCodec.toU16 : FormatCodec → ℕ
  | .json => 1
  | .csv => 2
  | .log => 3
  | .text => 4
  | .jpeg => 11
  | .png => 12
  | .mp4 => 10
  | .pdf => 16
  | .unknown => 0

def FormatCodec.fromU16 : ℕ → FormatCodec
  | 1 => .json
  | 2 => .csv
  | 3 => .log
  | 4 => .text
  | 10 => .mp4
  | 11 => .jpeg
  | 12 => .png
  | 16 => .pdf
  | _ => .unknown

structure MultiHash where
  algo : UInt8
  digest : Bytes

def MultiHash.encode (h : MultiHash) : Bytes := h.algo :: 32 :: h.digest

def MultiHash.decode (raw : Bytes) : Option MultiHash :=
  if raw.length = 34 then some ⟨raw.headD 0, window raw 2 32⟩ else none

structure BudV2Header where
  magic : Bytes
  codec : FormatCodec
  contentId : MultiHash
  chunkCount : ℕ
  totalLen : ℕ

def magicV2 : Bytes := [0xB5, 0x55, 0x44, 0xB0, 0x02, 0, 0, 0]

def totalBytes {D : Deps} (chunks : List (StructuralChunk D)) : ℕ :=
  (chunks.map (·.data.length)).sum

def rootDigest {D : Deps} (chunks : List (StructuralChunk D)) : Bytes :=
  D.sha3 (strBytes "BDLM_BUD_V2" ++ chunks.flatMap (·.contentId))

namespace BudV2Header

def new {D : Deps} (codec : FormatCodec) (chunks : List (StructuralChunk D)) : BudV2Header :=
  ⟨magicV2, codec, ⟨0x16, rootDigest chunks⟩, chunks.length % 2 ^ 32, totalBytes chunks⟩

def toBytes (h : BudV2Header) : Bytes :=
  h.magic ++ leBytes 2 h.codec.toU16 ++ h.contentId.encode ++ u32LeBytes h.chunkCount ++
    u64LeBytes h.totalLen

def fromBytes (raw : Bytes) : Option BudV2Header := do
  guard (56 ≤ raw.length)
  guard (raw.take 8 = magicV2)
  let hash ← MultiHash.decode (window raw 10 34)
  return ⟨raw.take 8, .fromU16 (ofLeBytes (window raw 8 2)), hash, ofLeBytes (window raw 44 4),
    ofLeBytes (window raw 48 8)⟩

def verify (h : BudV2Header) : Bool := h.magic = magicV2 ∧ h.contentId.algo = 0x16

end BudV2Header

inductive ChunkCodec
  | raw | huffman | zstd

def ChunkCodec.toU8 : ChunkCodec → UInt8
  | .raw => 0
  | .huffman => 1
  | .zstd => 2

def ChunkCodec.fromU8 : UInt8 → Option ChunkCodec
  | 0 => some .raw
  | 1 => some .huffman
  | 2 => some .zstd
  | _ => none

structure BudV2File (D : Deps) where
  header : BudV2Header
  chunkCodec : ChunkCodec
  chunks : List (StructuralChunk D)

namespace BudV2File

def maxChunkCount : ℕ := 1000000
def maxChunkBytes : ℕ := 64 * 1024 * 1024
def maxTotalBytes : ℕ := 4 * 1024 * 1024 * 1024

def newWithCodec (codec : FormatCodec) (chunkCodec : ChunkCodec)
    (chunks : List (StructuralChunk D)) : Option (BudV2File D) :=
  if maxChunkCount < chunks.length then none
  else if maxTotalBytes < totalBytes chunks then none
  else if chunks.any (maxChunkBytes < ·.data.length) then none
  else some ⟨.new codec chunks, chunkCodec, chunks⟩

def new (codec : FormatCodec) (chunks : List (StructuralChunk D)) : Option (BudV2File D) :=
  newWithCodec D codec .raw chunks

variable {D}

def encodeChunk (c : StructuralChunk D) : Bytes :=
  u64LeBytes c.data.length ++ c.contentId ++ c.data

def encode (f : BudV2File D) : Bytes :=
  f.header.toBytes ++ [f.chunkCodec.toU8] ++ u32LeBytes f.header.chunkCount ++
    f.chunks.flatMap encodeChunk

def verify (f : BudV2File D) : Bool :=
  f.header.verify ∧ f.chunks.length % 2 ^ 32 = f.header.chunkCount ∧
    totalBytes f.chunks = f.header.totalLen ∧ rootDigest f.chunks = f.header.contentId.digest

variable (D)

/-- The loop of `decode` over the bytes not yet read, with the total so far. -/
def readChunks : ℕ → Bytes → ℕ → Option (List (StructuralChunk D) × ℕ × Bytes)
  | 0, rest, total => some ([], total, rest)
  | count + 1, rest, total =>
    let len := ofLeBytes (rest.take 8)
    let data := window rest 40 len
    if rest.length < 40 ∨ maxChunkBytes < len ∨ rest.length < 40 + len then none
    else if h : window rest 8 32 = contentId D data then
      if maxTotalBytes < total + len then none
      else
        (readChunks count (rest.drop (40 + len)) (total + len)).map fun (chunks, read) =>
          (⟨_, data, h⟩ :: chunks, read)
    else none

def decode (raw : Bytes) : Option (BudV2File D) := do
  guard (61 ≤ raw.length)
  let header ← BudV2Header.fromBytes (raw.take 56)
  guard header.verify
  let chunkCodec ← ChunkCodec.fromU8 ((raw.drop 56).headD 0)
  let count := ofLeBytes (window raw 57 4)
  guard (count ≤ maxChunkCount)
  let (chunks, total, rest) ← readChunks D count (raw.drop 61) 0
  guard (rest = [])
  guard (chunks.length % 2 ^ 32 = header.chunkCount ∧ total = header.totalLen)
  let f : BudV2File D := ⟨header, chunkCodec, chunks⟩
  guard f.verify
  return f

def expand : ChunkCodec → Bytes → Option Bytes
  | .raw, data => some data
  | .huffman, data => D.huffman data
  | .zstd, data => D.zstd data

def restoreOriginal (f : BudV2File D) : Option Bytes :=
  f.chunks.foldlM (fun out c => (expand D f.chunkCodec c.data).map (out ++ ·)) []

end BudV2File

section

open BudV2File

variable {D} {chunks : List (StructuralChunk D)} (codec : FormatCodec)

lemma length_contentId (c : StructuralChunk D) : c.contentId.length = 32 := by
  rw [c.genuine]
  exact D.length_sha3 _

lemma length_rootDigest : (rootDigest chunks).length = 32 := D.length_sha3 _

lemma fromU16_toU16 : FormatCodec.fromU16 codec.toU16 = codec := by
  cases codec <;> rfl

lemma ofLeBytes_toU16 : ofLeBytes (leBytes 2 codec.toU16) = codec.toU16 := by
  cases codec <;> rfl

lemma length_toBytes (chunks : List (StructuralChunk D)) :
    (BudV2Header.new codec chunks).toBytes.length = 56 := by
  simp [BudV2Header.new, BudV2Header.toBytes, MultiHash.encode, magicV2, u32LeBytes,
    length_rootDigest]

lemma fromBytes_toBytes (htotal : totalBytes chunks ≤ maxTotalBytes) :
    BudV2Header.fromBytes (BudV2Header.new codec chunks).toBytes = some (.new codec chunks) := by
  have hcount : ofLeBytes (leBytes 4 (chunks.length % 4294967296)) = chunks.length % 4294967296 :=
    ofLeBytes_leBytes (Nat.mod_lt _ (by decide))
  have hbytes : ofLeBytes (u64LeBytes (totalBytes chunks)) = totalBytes chunks :=
    ofLeBytes_leBytes (htotal.trans_lt (by decide))
  simp [BudV2Header.fromBytes, BudV2Header.new, BudV2Header.toBytes, MultiHash.encode,
    MultiHash.decode, magicV2, u32LeBytes, window, take_append, drop_append,
    drop_of_length_le, take_of_length_le, length_rootDigest, ofLeBytes_toU16, hcount,
    hbytes, fromU16_toU16]

lemma readChunks_encode (rest : Bytes) (total : ℕ)
    (hsmall : ∀ c ∈ chunks, c.data.length ≤ maxChunkBytes)
    (htotal : total + totalBytes chunks ≤ maxTotalBytes) :
    readChunks D chunks.length (chunks.flatMap encodeChunk ++ rest) total =
      some (chunks, total + totalBytes chunks, rest) := by
  induction chunks generalizing total with
  | nil => rfl
  | cons c chunks ih =>
    have hc := hsmall c (by simp)
    have hsum : totalBytes (c :: chunks) = c.data.length + totalBytes chunks := by
      simp [totalBytes]
    rw [hsum] at htotal
    have hshape : (c :: chunks).flatMap encodeChunk ++ rest = u64LeBytes c.data.length ++
        (c.contentId ++ (c.data ++ (chunks.flatMap encodeChunk ++ rest))) := by
      simp [encodeChunk]
    have hread := ih (total + c.data.length) (fun c' h => hsmall c' (by simp [h])) (by omega)
    have hcid := length_contentId c
    generalize (c :: chunks).flatMap encodeChunk ++ rest = raw at hshape
    have hhead : ofLeBytes (raw.take 8) = c.data.length := by
      rw [hshape, take_left' (length_u64LeBytes _)]
      exact ofLeBytes_leBytes (hc.trans_lt (by decide))
    have hid : window raw 8 32 = c.contentId := by simp [hshape, window, hcid]
    have htail : raw.drop 40 = c.data ++ (chunks.flatMap encodeChunk ++ rest) := by
      simp [hshape, drop_append, hcid, drop_of_length_le]
    have hdata : window raw 40 c.data.length = c.data := by
      rw [window, htail, take_left]
    have hdrop : raw.drop (40 + c.data.length) = chunks.flatMap encodeChunk ++ rest := by
      rw [← drop_drop, htail, drop_left]
    have hlength : 40 + c.data.length ≤ raw.length := by
      simp [hshape, hcid]
      omega
    rw [length_cons, readChunks]
    dsimp only
    rw [hhead, if_neg (by omega), dif_pos (by rw [hid, hdata]; exact c.genuine),
      if_neg (by omega), hdrop, hread]
    simp only [Option.map_some, hid, hdata, hsum, add_assoc]

lemma decode_of_new {codec : FormatCodec} {f : BudV2File D}
    (h : BudV2File.new D codec chunks = some f) :
    decode D f.encode = some f ∧ f.chunkCodec = .raw ∧ f.chunks = chunks := by
  simp only [BudV2File.new, newWithCodec] at h
  split_ifs at h with hcount htotal hsmall
  cases h
  rw [not_lt] at hcount htotal
  have hchunks := readChunks_encode [] 0 (by simpa using hsmall) (by simpa using htotal)
  rw [append_nil, zero_add] at hchunks
  have hhead := fromBytes_toBytes codec htotal
  have hlen := length_toBytes codec chunks
  have hnum : ofLeBytes (leBytes 4 chunks.length) = chunks.length :=
    ofLeBytes_leBytes (hcount.trans_lt (by decide))
  have hlength : (BudV2Header.new codec chunks).chunkCount = chunks.length :=
    Nat.mod_eq_of_lt (hcount.trans_lt (by decide))
  have hmod : chunks.length % 4294967296 = chunks.length := hlength
  have htotalLen : (BudV2Header.new codec chunks).totalLen = totalBytes chunks := rfl
  have hheader : (BudV2Header.new codec chunks).verify = true := by
    simp [BudV2Header.verify, BudV2Header.new]
  have hverify : (⟨.new codec chunks, .raw, chunks⟩ : BudV2File D).verify = true := by
    simp [verify, BudV2Header.verify, BudV2Header.new]
  refine ⟨?_, rfl, rfl⟩
  simp +arith [decode, encode, hlen, drop_append, drop_of_length_le, window, hhead,
    hheader, u32LeBytes, hlength, hnum, hcount, hchunks, hmod, htotalLen, hverify, ChunkCodec.toU8,
    ChunkCodec.fromU8]

lemma restoreOriginal_raw {f : BudV2File D} (h : f.chunkCodec = .raw) :
    restoreOriginal D f = some (structuralJoin f.chunks) := by
  have hrun : ∀ (chunks : List (StructuralChunk D)) (out : Bytes),
      chunks.foldlM (fun out c => (expand D .raw c.data).map (out ++ ·)) out =
        some (out ++ structuralJoin chunks) := by
    intro chunks
    induction chunks with
    | nil => simp [structuralJoin]
    | cons c chunks ih =>
      intro out
      simpa [expand, structuralJoin] using ih (out ++ c.data)
  rw [restoreOriginal, h]
  exact hrun f.chunks []

/-! ## What is decoded is encoded again -/

lemma readChunks_eq_some {count total total' : ℕ} {rest rest' : Bytes}
    (h : readChunks D count rest total = some (chunks, total', rest')) :
    chunks.flatMap encodeChunk ++ rest' = rest ∧ chunks.length = count := by
  induction count generalizing rest total chunks with
  | zero => cases h; exact ⟨rfl, rfl⟩
  | succ count ih =>
    rw [readChunks] at h
    dsimp only at h
    split_ifs at h with hshort hid hmax
    obtain ⟨⟨chunks, read⟩, hread, heq⟩ := Option.map_eq_some_iff.mp h
    cases heq
    obtain ⟨htail, hlength⟩ := ih hread
    have hdata : (window rest 40 (ofLeBytes (rest.take 8))).length = ofLeBytes (rest.take 8) :=
      length_window (by omega)
    refine ⟨?_, congrArg (· + 1) hlength⟩
    rw [flatMap_cons, append_assoc, htail]
    simp only [encodeChunk, hdata, append_assoc, window_append_drop]
    rw [u64LeBytes, leBytes_ofLeBytes (by rw [length_take]; omega), window_append_drop rest 8 32,
      take_append_drop]

lemma toU8_of_fromU8 {byte : UInt8} {codec : ChunkCodec}
    (h : ChunkCodec.fromU8 byte = some codec) : codec.toU8 = byte := by
  unfold ChunkCodec.fromU8 at h
  split at h <;> cases h <;> rfl

/-- What `encode` makes of an accepted file: the format comes from the registry and the length
of the digest is 32, every other byte is the one that was read. -/
lemma encode_of_decode {raw : Bytes} {f : BudV2File D} (h : decode D raw = some f) :
    61 ≤ raw.length ∧ f.encode = raw.take 8 ++
      (leBytes 2 (FormatCodec.fromU16 (ofLeBytes (window raw 8 2))).toU16 ++
        (window raw 10 1 ++ (32 :: raw.drop 12))) := by
  simp only [decode, BudV2Header.fromBytes, MultiHash.decode, Option.guard_eq_some',
    Option.bind_eq_bind, Option.bind_eq_some_iff, Option.pure_def, Option.some.injEq,
    Option.ite_none_right_eq_some, exists_const] at h
  obtain ⟨hlong, header, ⟨-, -, hash, ⟨-, rfl⟩, rfl⟩, -, codec, hcodec, hcount,
    ⟨chunks, total, rest⟩, hread, rfl, ⟨hnum, -⟩, -, rfl⟩ := h
  obtain ⟨hchunks, hlength⟩ := readChunks_eq_some hread
  rw [append_nil] at hchunks
  have hbytes {i n : ℕ} (hfits : i + n ≤ 61) :
      leBytes n (ofLeBytes (window raw i n)) = window raw i n :=
    leBytes_ofLeBytes (length_window (by omega))
  have hcounts : window raw 57 4 = window raw 44 4 := by
    change chunks.length % 2 ^ 32 = ofLeBytes (window (raw.take 56) 44 4) at hnum
    rw [hlength, Nat.mod_eq_of_lt (hcount.trans_lt (by decide)), window_take (by decide)] at hnum
    rw [← hbytes le_rfl, hnum, hbytes (by decide)]
  have halgo : (window raw 10 34).headD 0 = (raw.drop 10).headD 0 := by
    simp [window, headD_eq_head?_getD, head?_take]
  have hdigest : window (window raw 10 34) 2 32 = window raw 12 32 := by
    simp [window, drop_take, take_take]
  have htail : raw.drop 12 = window raw 12 32 ++ (window raw 44 4 ++ (window raw 48 8 ++
      (window raw 56 1 ++ (window raw 57 4 ++ raw.drop 61)))) := by
    iterate 5 rw [window_append_drop]
  refine ⟨hlong, ?_⟩
  rw [htail, window_one (by omega) 0, window_one (by omega) 0, ← toU8_of_fromU8 hcodec, hcounts]
  simp (disch := omega) only [encode, BudV2Header.toBytes, MultiHash.encode, u32LeBytes,
    u64LeBytes, take_take, window_take, halgo, hdigest, hbytes, hchunks, append_assoc, cons_append,
    nil_append]
  rfl

/-- An accepted file is written back as it was, but for the two bytes of an unregistered format
and the length byte of the multihash: the decoder reads neither. -/
theorem encode_eq_iff_of_decode {raw : Bytes} {f : BudV2File D} (h : decode D raw = some f) :
    f.encode = raw ↔ (FormatCodec.fromU16 (ofLeBytes (window raw 8 2))).toU16 =
      ofLeBytes (window raw 8 2) ∧ window raw 11 1 = [32] := by
  obtain ⟨hlong, hencode⟩ := encode_of_decode h
  have hraw : raw = raw.take 8 ++ (window raw 8 2 ++ (window raw 10 1 ++
      (window raw 11 1 ++ raw.drop 12))) := by
    iterate 3 rw [window_append_drop]
    exact (take_append_drop 8 raw).symm
  have hformat : (window raw 8 2).length = 2 := length_window (by omega)
  constructor
  · intro heq
    have hsame := append_cancel_left (hencode.symm.trans (heq.trans hraw))
    obtain ⟨hcode, hrest⟩ := append_inj hsame (by rw [hformat, length_leBytes])
    refine ⟨?_, (append_cancel_right (append_cancel_left hrest)).symm⟩
    exact (ofLeBytes_toU16 _).symm.trans (congrArg ofLeBytes hcode)
  · rintro ⟨hcode, hlen⟩
    rw [hencode, hcode, leBytes_ofLeBytes hformat, ← singleton_append, ← hlen]
    exact hraw.symm

/-- The decoder does not read the length byte of the multihash. -/
lemma decode_length_byte {start rest : Bytes} (hstart : start.length = 11) (len len' : UInt8) :
    decode D (start ++ len :: rest) = decode D (start ++ len' :: rest) := by
  match start, hstart with
  | [_, _, _, _, _, _, _, _, _, _, _], _ => rfl

/-- A file without chunks, with the length byte of its multihash. -/
def emptyFile (D : Deps) (len : UInt8) : Bytes :=
  magicV2 ++ [1, 0, 0x16] ++ len :: (rootDigest ([] : List (StructuralChunk D)) ++ replicate 17 0)

theorem length_byte_is_ignored :
    (∀ D, (decode D (emptyFile D 0)).map encode = some (emptyFile D 32)) ∧
      ∀ D, emptyFile D 32 ≠ emptyFile D 0 := by
  refine ⟨fun D => ?_, fun D h => nomatch h⟩
  have hnew : BudV2File.new D .json [] = some ⟨.new (D := D) .json [], .raw, []⟩ := by
    simp [BudV2File.new, newWithCodec, totalBytes]
  have hfile : emptyFile D 32 = encode (⟨.new (D := D) .json [], .raw, []⟩ : BudV2File D) := by
    have hcounts : replicate 17 0 =
        u32LeBytes 0 ++ (u64LeBytes 0 ++ ([0] ++ (u32LeBytes 0 ++ []))) := by decide
    have hcode : [1, 0, 0x16] = leBytes 2 FormatCodec.json.toU16 ++ [0x16] := by decide
    rw [emptyFile, hcounts, hcode]
    simp only [encode, BudV2Header.toBytes, append_assoc]
    rfl
  rw [emptyFile, decode_length_byte rfl 0 32]
  change (decode D (emptyFile D 32)).map encode = _
  rw [hfile, (decode_of_new hnew).1]
  rfl

def Deps.plain : Deps := ⟨fun _ => replicate 32 0, fun _ => rfl, fun _ => [], some, some⟩

def twoChunkFile : Bytes :=
  magicV2 ++ [1, 0, 0x16, 32] ++ replicate 32 0 ++ [2, 0, 0, 0] ++ u64LeBytes 3 ++ [0] ++
    [2, 0, 0, 0] ++ (u64LeBytes 1 ++ replicate 32 0 ++ [7]) ++
    (u64LeBytes 2 ++ replicate 32 0 ++ [8, 9])

theorem two_chunk_file_is_canonical :
    (decode .plain twoChunkFile).map encode = some twoChunkFile := by
  have hsome : (decode .plain twoChunkFile).isSome := by decide +kernel
  obtain ⟨f, hf⟩ := Option.isSome_iff_exists.mp hsome
  rw [hf]
  exact congrArg some ((encode_eq_iff_of_decode hf).mpr (by decide +kernel))

end

end Budlum.BudFormat
