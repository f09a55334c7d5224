import Budlum.Core.Address
import Budlum.Lib.BigEndian
import Budlum.Lib.Machine

/-!
# Recursive length prefix

The encoder and the decoder of `evm/rlp.rs`. The decoder is read through one function,
`readHeader`, that splits an item into its kind, its payload and the bytes behind it:
every rule of the format is a fact about that function, and the two recursions over
nested lists are inductions over it.

What the encoder writes is read back up to the depth limit. In the other direction the
decoder takes one form the encoder never writes, the header `0x81` in front of a byte
below `0x80`; and an integer is also taken from one zero byte, which is not how zero is
written.
-/

namespace Budlum.Rlp

open Machine BigEndian List Except UInt8

inductive Item where
  | string (bytes : Bytes)
  | list (items : List Item)

inductive RlpError where
  | unexpectedEof
  | invalidLengthPrefix
  | nonCanonical
  | trailingBytes
  | nestingTooDeep
deriving DecidableEq, Repr

/-- The texts of `Display`. -/
def RlpError.toText : RlpError → String
  | .unexpectedEof => "rlp: unexpected end of input"
  | .invalidLengthPrefix => "rlp: invalid length prefix"
  | .nonCanonical => "rlp: non-canonical encoding"
  | .trailingBytes => "rlp: trailing bytes after item"
  | .nestingTooDeep => "rlp: nesting too deep"

def maxDepth : ℕ := 32

/-! ## Encoding -/

/-- `trim_leading_zeros`, of a 64-bit `usize`. -/
def trimLeadingZeros (n : ℕ) : Bytes := trimmed 8 n

/-- `encode_length`: what it pushes. -/
def encodeLength (len : ℕ) (offset : UInt8) : Bytes :=
  if len < 56 then [offset + ofNat len]
  else
    let lenBe := trimLeadingZeros len
    (offset + 55 + ofNat lenBe.length) :: lenBe

def encodeString (bytes : Bytes) : Bytes :=
  if bytes.length = 1 ∧ bytes.headD 0 < 0x80 then [bytes.headD 0]
  else encodeLength bytes.length 0x80 ++ bytes

mutual

def encode : Item → Bytes
  | .string bytes => encodeString bytes
  | .list items => encodeLength (encodeItems items).length 0xc0 ++ encodeItems items

def encodeItems : List Item → Bytes
  | [] => []
  | child :: items => encode child ++ encodeItems items

end

/-! ## Decoding -/

def takeExact (input : Bytes) (n : ℕ) : Except RlpError Bytes :=
  if input.length < n then .error .unexpectedEof else .ok (input.take n)

/-- One round of the loop of `decode_length_value`. -/
def pushLengthByte (len : ℕ) (byte : UInt8) : Except RlpError ℕ :=
  match (checkedMul u64Max len 256).bind fun v => checkedAdd u64Max v byte.toNat with
  | some len => .ok len
  | none => .error .invalidLengthPrefix

def decodeLengthValue (input : Bytes) (lenOfLen : ℕ) : Except RlpError ℕ := do
  let lenBytes ← takeExact input lenOfLen
  if lenOfLen > 1 ∧ lenBytes.headD 0 = 0 then .error .nonCanonical
  else if lenOfLen = 1 ∧ lenBytes.headD 0 < 56 then .error .nonCanonical
  else lenBytes.foldlM pushLengthByte 0

/-- The loop of `decode_list_items`. `fuel` bounds its rounds; a round takes at least one
byte, so that the length of the payload is enough (`decodeItems_of_le`). -/
def decodeItems (decodeItem : Bytes → Except RlpError (Item × Bytes)) :
    ℕ → Bytes → Except RlpError (List Item)
  | _, [] => .ok []
  | 0, _ :: _ => .error .unexpectedEof
  | fuel + 1, first :: input => do
      let (item, remaining) ← decodeItem (first :: input)
      let items ← decodeItems decodeItem fuel remaining
      .ok (item :: items)

def decodeListItems (decodeItem : Bytes → Except RlpError (Item × Bytes)) (payload : Bytes) :
    Except RlpError (List Item) :=
  decodeItems decodeItem payload.length payload

/-- `decode_at`. Its `depth` is counted down here: `levels` is `MAX_DEPTH + 1 - depth`. -/
def decodeAt : ℕ → Bytes → Except RlpError (Item × Bytes)
  | 0, _ => .error .nestingTooDeep
  | _ + 1, [] => .error .unexpectedEof
  | levels + 1, first :: input =>
    if first < 0x80 then .ok (.string [first], input)
    else if first ≤ 0xb7 then do
      let len := (first - 0x80).toNat
      let payload ← takeExact input len
      .ok (.string payload, input.drop len)
    else if first ≤ 0xbf then do
      let lenOfLen := (first - 0xb7).toNat
      let len ← decodeLengthValue input lenOfLen
      let payload ← takeExact (input.drop lenOfLen) len
      .ok (.string payload, input.drop (lenOfLen + len))
    else if first ≤ 0xf7 then do
      let len := (first - 0xc0).toNat
      let payload ← takeExact input len
      let items ← decodeListItems (decodeAt levels) payload
      .ok (.list items, input.drop len)
    else do
      let lenOfLen := (first - 0xf7).toNat
      let len ← decodeLengthValue input lenOfLen
      let payload ← takeExact (input.drop lenOfLen) len
      let items ← decodeListItems (decodeAt levels) payload
      .ok (.list items, input.drop (lenOfLen + len))

def decode (input : Bytes) : Except RlpError Item := do
  let (item, rest) ← decodeAt (maxDepth + 1) input
  if rest ≠ [] then .error .trailingBytes else .ok item

/-! ## Integers and fields -/

def decodeUint : Item → Except RlpError ℕ
  | .list _ => .error .nonCanonical
  | .string bytes =>
    if bytes.length > 1 ∧ bytes.headD 0 = 0 then .error .nonCanonical
    else if bytes.isEmpty then .ok 0
    else if bytes.length > 8 then .error .invalidLengthPrefix
    else bytes.foldlM pushLengthByte 0

def asBytes : Item → Except RlpError Bytes
  | .string bytes => .ok bytes
  | .list _ => .error .nonCanonical

/-! ## Headers -/

inductive Kind where
  | string
  | list

/-- The first byte of a short header of each kind, for the empty payload. -/
def Kind.offset : Kind → UInt8
  | .string => 0x80
  | .list => 0xc0

def shortPayload (kind : Kind) (len : ℕ) (input : Bytes) :
    Except RlpError (Kind × Bytes × Bytes) := do
  let payload ← takeExact input len
  .ok (kind, payload, input.drop len)

def longPayload (kind : Kind) (lenOfLen : ℕ) (input : Bytes) :
    Except RlpError (Kind × Bytes × Bytes) := do
  let len ← decodeLengthValue input lenOfLen
  shortPayload kind len (input.drop lenOfLen)

/-- The kind and the payload of the item at the front, and the bytes behind it. -/
def readHeader : Bytes → Except RlpError (Kind × Bytes × Bytes)
  | [] => .error .unexpectedEof
  | first :: input =>
    if first < 0x80 then .ok (.string, [first], input)
    else if first ≤ 0xb7 then shortPayload .string (first - 0x80).toNat input
    else if first ≤ 0xbf then longPayload .string (first - 0xb7).toNat input
    else if first ≤ 0xf7 then shortPayload .list (first - 0xc0).toNat input
    else longPayload .list (first - 0xf7).toNat input

/-- The item of a payload: a string is its payload, a list is decoded one level deeper. -/
def readPayload (levels : ℕ) : Kind × Bytes × Bytes → Except RlpError (Item × Bytes)
  | (.string, payload, rest) => .ok (.string payload, rest)
  | (.list, payload, rest) => do
      let items ← decodeListItems (decodeAt levels) payload
      .ok (.list items, rest)

lemma decodeAt_succ (levels : ℕ) (input : Bytes) :
    decodeAt (levels + 1) input = readHeader input >>= readPayload levels := by
  cases input with
  | nil => rfl
  | cons first input =>
    simp only [decodeAt, readHeader, longPayload, shortPayload]
    split_ifs
    · rfl
    · cases takeExact input (first - 0x80).toNat <;> rfl
    · cases decodeLengthValue input (first - 0xb7).toNat with
      | error e => rfl
      | ok len => cases h : takeExact (input.drop (first - 0xb7).toNat) len <;>
          simp [h, readPayload, bind, Except.bind, drop_drop]
    · cases takeExact input (first - 0xc0).toNat <;> rfl
    · cases decodeLengthValue input (first - 0xf7).toNat with
      | error e => rfl
      | ok len => cases h : takeExact (input.drop (first - 0xf7).toNat) len <;>
          simp [h, readPayload, bind, Except.bind, drop_drop]

lemma takeExact_append (payload rest : Bytes) :
    takeExact (payload ++ rest) payload.length = .ok payload := by
  simp [takeExact]

variable {input bytes payload rest : Bytes} {n k len levels : ℕ}

lemma takeExact_eq_ok {taken : Bytes} :
    takeExact input n = .ok taken ↔ taken.length = n ∧ input = taken ++ input.drop n := by
  unfold takeExact
  split_ifs with h
  · constructor
    · exact nofun
    · rintro ⟨hlen, heq⟩
      have hall := congrArg length heq
      simp only [length_append] at hall
      omega
  · simp only [ok.injEq]
    constructor
    · rintro rfl
      exact ⟨by simp; omega, (take_append_drop n input).symm⟩
    · rintro ⟨rfl, heq⟩
      rw [heq, take_left]

lemma foldlM_pushLengthByte (h : bytes.length ≤ 8) :
    bytes.foldlM pushLengthByte 0 = .ok (read bytes) := by
  induction bytes using reverseRecOn with
  | nil => rfl
  | append_singleton bytes byte ih =>
    rw [length_append, length_singleton] at h
    have hbyte := byte.toNat_lt
    have hread := read_lt bytes
    have hpow : (256 : ℕ) ^ bytes.length ≤ 256 ^ 7 := Nat.pow_le_pow_right (by decide) (by omega)
    have hmul : checkedMul u64Max (read bytes) 256 =
        some (read bytes * 256) := if_pos (by simp only [u64Max]; omega)
    have hadd : checkedAdd u64Max (read bytes * 256) byte.toNat =
        some (read bytes * 256 + byte.toNat) := if_pos (by simp only [u64Max]; omega)
    rw [foldlM_append, ih (by omega), read_concat]
    simp [pushLengthByte, hmul, hadd, bind, Except.bind, pure, Except.pure]

lemma eq_trimLeadingZeros_iff : n < 2 ^ 64 ∧ bytes = trimLeadingZeros n ↔
      bytes.length ≤ 8 ∧ bytes.head? ≠ some 0 ∧ read bytes = n :=
  @eq_trimmed_iff 8 n bytes

lemma lengthChecks_iff {byte : UInt8} (hk : (byte :: bytes).length = k) :
    ¬(k > 1 ∧ byte = 0) ∧ ¬(k = 1 ∧ byte < 56) ↔
      byte ≠ 0 ∧ 56 ≤ BigEndian.read (byte :: bytes) := by
  subst hk
  cases bytes with
  | nil =>
    have hread : BigEndian.read [byte] = byte.toNat := by simp [BigEndian.read]
    have hlt : byte < 56 ↔ byte.toNat < 56 := lt_iff_toNat_lt
    rw [hread, ← Nat.not_lt, ← hlt]
    constructor
    · rintro ⟨-, hsmall⟩
      refine ⟨?_, fun hb => hsmall ⟨rfl, hb⟩⟩
      rintro rfl
      exact hsmall (by decide)
    · rintro ⟨-, hlarge⟩
      exact ⟨by simp, fun h => hlarge h.2⟩
  | cons next bytes =>
    constructor
    · rintro ⟨hzero, -⟩
      -- two bytes or more, the first of them not zero, write at least 256
      have hbyte : byte ≠ 0 := fun hb => hzero ⟨by simp, hb⟩
      have hlow := pow_le_read (cons_ne_nil byte (next :: bytes)) (by simpa)
      have hexp : 256 ^ 1 ≤ 256 ^ ((byte :: next :: bytes).length - 1) :=
        Nat.pow_le_pow_right (by decide) (by simp)
      exact ⟨hbyte, by omega⟩
    · rintro ⟨hbyte, -⟩
      exact ⟨fun h => hbyte h.2, by simp⟩

lemma decodeLengthValue_eq_ok (hpos : 1 ≤ k) (hk : k ≤ 8) :
    decodeLengthValue input k = .ok len ↔ 56 ≤ len ∧ len < 2 ^ 64 ∧
      (trimLeadingZeros len).length = k ∧ input = trimLeadingZeros len ++ input.drop k := by
  constructor
  · intro h
    unfold decodeLengthValue at h
    cases htake : takeExact input k with
    | error e => rw [htake] at h; cases h
    | ok lenBytes =>
      rw [htake] at h
      obtain ⟨hlen, hinput⟩ := takeExact_eq_ok.mp htake
      simp only [bind, Except.bind] at h
      split_ifs at h with hzero hsmall
      rw [foldlM_pushLengthByte (by omega)] at h
      cases h
      obtain ⟨byte, bytes, rfl⟩ := exists_cons_of_length_pos (l := lenBytes) (by omega)
      obtain ⟨hbyte, hlarge⟩ := (lengthChecks_iff hlen).mp ⟨hzero, hsmall⟩
      obtain ⟨hlt, htrim⟩ :=
        eq_trimLeadingZeros_iff.mpr ⟨hlen.trans_le hk, by simpa using hbyte, rfl⟩
      rw [← htrim]
      exact ⟨hlarge, hlt, hlen, hinput⟩
  · rintro ⟨hlarge, hlt, hlen, hinput⟩
    obtain ⟨-, hhead, hread⟩ := eq_trimLeadingZeros_iff.mp ⟨hlt, rfl⟩
    rw [decodeLengthValue, takeExact_eq_ok.mpr ⟨hlen, hinput⟩]
    obtain ⟨byte, bytes, hcons⟩ := exists_cons_of_length_pos
      (l := trimLeadingZeros len) (by omega)
    rw [hcons] at hhead hread hlen
    obtain ⟨hzero, hsmall⟩ :=
      (lengthChecks_iff hlen).mpr ⟨by simpa using hhead, by omega⟩
    simp only [bind, Except.bind, hcons, headD_cons]
    rw [if_neg hzero, if_neg hsmall, foldlM_pushLengthByte (by omega), hread]

lemma firstByte_cases (first : UInt8) : first < 0x80 ∨
    (∃ (kind : Kind) (len : ℕ), len < 56 ∧ first = kind.offset + UInt8.ofNat len) ∨
    ∃ (kind : Kind) (k : ℕ), 1 ≤ k ∧ k ≤ 8 ∧ first = kind.offset + 55 + UInt8.ofNat k := by
  have hfirst := first.toNat_lt
  rcases lt_or_ge first.toNat 0x80 with h | h
  · exact .inl h
  right
  rcases lt_or_ge first.toNat 0xb8 with h₁ | h₁
  · refine .inl ⟨.string, first.toNat - 0x80, by omega, UInt8.toNat_inj.mp ?_⟩
    simp [Kind.offset]
    omega
  rcases lt_or_ge first.toNat 0xc0 with h₂ | h₂
  · refine .inr ⟨.string, first.toNat - 0xb7, by omega, by omega, UInt8.toNat_inj.mp ?_⟩
    simp [Kind.offset]
    omega
  rcases lt_or_ge first.toNat 0xf8 with h₃ | h₃
  · refine .inl ⟨.list, first.toNat - 0xc0, by omega, UInt8.toNat_inj.mp ?_⟩
    simp [Kind.offset]
    omega
  · refine .inr ⟨.list, first.toNat - 0xf7, by omega, by omega, UInt8.toNat_inj.mp ?_⟩
    simp [Kind.offset]
    omega

lemma readHeader_low {low : UInt8} (h : low < 0x80) (input : Bytes) :
    readHeader (low :: input) = .ok (.string, [low], input) := by
  rw [readHeader, if_pos h]

lemma toNat_offset (base : UInt8) {n : ℕ} (h : base.toNat + n < 256) :
    (base + UInt8.ofNat n).toNat = base.toNat + n ∧ (base + UInt8.ofNat n - base).toNat = n := by
  have hsum : (base + UInt8.ofNat n).toNat = base.toNat + n := by simp; omega
  refine ⟨hsum, ?_⟩
  rw [UInt8.toNat_sub, hsum]
  omega

lemma readHeader_short (kind : Kind) (h : len < 56) (input : Bytes) :
    readHeader ((kind.offset + ofNat len) :: input) = shortPayload kind len input := by
  cases kind
  · obtain ⟨hfirst, hlen⟩ := toNat_offset 0x80 (n := len) (by simp; omega)
    simp only [readHeader, Kind.offset, lt_iff_toNat_lt, le_iff_toNat_le, hfirst]
    rw [if_neg (by simp), if_pos (by simp; omega), hlen]
  · obtain ⟨hfirst, hlen⟩ := toNat_offset 0xc0 (n := len) (by simp; omega)
    simp only [readHeader, Kind.offset, lt_iff_toNat_lt, le_iff_toNat_le, hfirst]
    rw [if_neg (by simp; omega), if_neg (by simp; omega), if_neg (by simp; omega),
      if_pos (by simp; omega), hlen]

lemma readHeader_long (kind : Kind) (hpos : 1 ≤ k) (h : k ≤ 8) (input : Bytes) :
    readHeader ((kind.offset + 55 + ofNat k) :: input) = longPayload kind k input := by
  cases kind
  · obtain ⟨hfirst, hk⟩ := toNat_offset 0xb7 (n := k) (by simp; omega)
    change readHeader ((0xb7 + ofNat k) :: input) = _
    simp only [readHeader, lt_iff_toNat_lt, le_iff_toNat_le, hfirst]
    rw [if_neg (by simp; omega), if_neg (by simp; omega), if_pos (by simp; omega), hk]
  · obtain ⟨hfirst, hk⟩ := toNat_offset 0xf7 (n := k) (by simp; omega)
    change readHeader ((0xf7 + ofNat k) :: input) = _
    simp only [readHeader, lt_iff_toNat_lt, le_iff_toNat_le, hfirst]
    rw [if_neg (by simp; omega), if_neg (by simp; omega), if_neg (by simp; omega),
      if_neg (by simp; omega), hk]

variable {kind kind' : Kind}

lemma shortPayload_eq_ok : shortPayload kind len input = .ok (kind', payload, rest) ↔
      kind' = kind ∧ payload.length = len ∧ input = payload ++ rest := by
  constructor
  · intro h
    unfold shortPayload at h
    cases htake : takeExact input len with
    | error e => rw [htake] at h; cases h
    | ok taken =>
      rw [htake] at h
      obtain ⟨rfl, hrest⟩ := Prod.mk.inj (Except.ok.inj h)
      obtain ⟨rfl, rfl⟩ := Prod.mk.inj hrest
      exact ⟨rfl, takeExact_eq_ok.mp htake⟩
  · rintro ⟨rfl, rfl, rfl⟩
    simp [shortPayload, takeExact_append, bind, Except.bind]

lemma longPayload_eq_ok
    (hpos : 1 ≤ k) (hk : k ≤ 8) : longPayload kind k input = .ok (kind', payload, rest) ↔
      kind' = kind ∧ 56 ≤ payload.length ∧ payload.length < 2 ^ 64 ∧
        (trimLeadingZeros payload.length).length = k ∧
        input = trimLeadingZeros payload.length ++ payload ++ rest := by
  constructor
  · intro h
    unfold longPayload at h
    cases hlen : decodeLengthValue input k with
    | error e => rw [hlen] at h; cases h
    | ok len =>
      rw [hlen] at h
      obtain ⟨hlarge, hlt, htrim, hinput⟩ := (decodeLengthValue_eq_ok hpos hk).mp hlen
      obtain ⟨rfl, rfl, hdrop⟩ := shortPayload_eq_ok.mp h
      refine ⟨rfl, hlarge, hlt, htrim, ?_⟩
      rw [append_assoc, ← hdrop]
      exact hinput
  · rintro ⟨rfl, hlarge, hlt, htrim, rfl⟩
    have hlen : decodeLengthValue (trimLeadingZeros payload.length ++ payload ++ rest) k =
        .ok payload.length := by
      refine (decodeLengthValue_eq_ok hpos hk).mpr ⟨hlarge, hlt, htrim, ?_⟩
      rw [append_assoc, ← htrim, drop_left]
    rw [longPayload, hlen]
    refine shortPayload_eq_ok.mpr ⟨rfl, rfl, ?_⟩
    rw [append_assoc, ← htrim, drop_left]

/-- What is read at the front is what the encoder writes there, or a byte below `0x80`. -/
lemma readHeader_eq_ok : readHeader input = .ok (kind, payload, rest) ↔
      (kind = .string ∧ ∃ low, low < 0x80 ∧ payload = [low] ∧ input = low :: rest) ∨
      payload.length < 2 ^ 64 ∧
        input = encodeLength payload.length kind.offset ++ payload ++ rest := by
  constructor
  · intro h
    cases input with
    | nil => cases h
    | cons first input =>
      rcases firstByte_cases first with hlow | ⟨kind', len, hlen, rfl⟩ | ⟨kind', k, hpos, hk, rfl⟩
      · rw [readHeader_low hlow] at h
        obtain ⟨rfl, hrest⟩ := Prod.mk.inj (ok.inj h)
        obtain ⟨rfl, rfl⟩ := Prod.mk.inj hrest
        exact .inl ⟨rfl, first, hlow, rfl, rfl⟩
      · rw [readHeader_short kind' hlen] at h
        obtain ⟨rfl, rfl, rfl⟩ := shortPayload_eq_ok.mp h
        exact .inr ⟨by omega, by simp [encodeLength, hlen]⟩
      · rw [readHeader_long kind' hpos hk] at h
        obtain ⟨rfl, hlarge, hlt, htrim, rfl⟩ := (longPayload_eq_ok hpos hk).mp h
        refine .inr ⟨hlt, ?_⟩
        rw [encodeLength, if_neg (by omega)]
        simp [htrim]
  · rintro (⟨rfl, low, hlow, rfl, rfl⟩ | ⟨hlt, rfl⟩)
    · exact readHeader_low hlow rest
    · rcases lt_or_ge payload.length 56 with hshort | hlong
      · rw [encodeLength, if_pos hshort]
        rw [append_assoc, singleton_append, readHeader_short kind hshort]
        exact shortPayload_eq_ok.mpr ⟨rfl, rfl, rfl⟩
      · have hpos : 1 ≤ (trimLeadingZeros payload.length).length :=
          length_pos_iff.mpr (trimmed_ne_nil (by omega) (by omega))
        have hk := length_trimmed_le 8 payload.length
        rw [encodeLength, if_neg (by omega)]
        rw [append_assoc, cons_append, readHeader_long kind hpos hk]
        exact (longPayload_eq_ok hpos hk).mpr ⟨rfl, hlong, hlt, rfl, by simp⟩

lemma readHeader_shortens
    (h : readHeader input = .ok (kind, payload, rest)) : rest.length < input.length := by
  rcases readHeader_eq_ok.mp h with ⟨-, low, -, -, rfl⟩ | ⟨-, rfl⟩
  · simp
  · unfold encodeLength
    simp only [length_append]
    split_ifs <;> (rw [length_cons]; omega)

/-! ## Lists of items -/

variable {item : Item}

lemma decodeAt_eq_ok :
    decodeAt levels input = .ok (item, rest) ↔ ∃ below kind payload, levels = below + 1 ∧
      readHeader input = .ok (kind, payload, rest) ∧
      ((kind = .string ∧ item = .string payload) ∨ kind = .list ∧ ∃ items,
        decodeListItems (decodeAt below) payload = .ok items ∧ item = .list items) := by
  cases levels with
  | zero => simp [decodeAt]
  | succ below =>
    rw [decodeAt_succ]
    constructor
    · intro h
      cases hheader : readHeader input with
      | error e => rw [hheader] at h; cases h
      | ok header =>
        obtain ⟨kind, payload, rest'⟩ := header
        rw [hheader] at h
        refine ⟨below, kind, payload, rfl, ?_⟩
        cases kind with
        | string =>
          cases h
          exact ⟨rfl, .inl ⟨rfl, rfl⟩⟩
        | list =>
          cases hitems : decodeListItems (decodeAt below) payload with
          | error e => simp [readPayload, hitems, bind, Except.bind] at h
          | ok items =>
            simp only [readPayload, hitems, bind, Except.bind] at h
            cases h
            exact ⟨rfl, .inr ⟨rfl, items, rfl, rfl⟩⟩
    · rintro ⟨_, kind, payload, hlevels, hheader, ⟨rfl, rfl⟩ | ⟨rfl, items, hitems, rfl⟩⟩
      · rw [hheader]; rfl
      · obtain rfl := Nat.succ.inj hlevels
        simp [hheader, readPayload, hitems, bind, Except.bind]

lemma decodeAt_shortens
    (h : decodeAt levels input = .ok (item, rest)) : rest.length < input.length := by
  obtain ⟨below, kind, payload, -, hheader, -⟩ := decodeAt_eq_ok.mp h
  exact readHeader_shortens hheader

lemma decodeItems_of_le (levels : ℕ) {fuel more : ℕ}
    (hfuel : input.length ≤ fuel) (hmore : input.length ≤ more) :
    decodeItems (decodeAt levels) fuel input = decodeItems (decodeAt levels) more input := by
  induction fuel generalizing more input with
  | zero =>
    obtain rfl := eq_nil_of_length_eq_zero (Nat.le_zero.mp hfuel)
    cases more <;> rfl
  | succ fuel ih =>
    cases input with
    | nil => cases more <;> rfl
    | cons first input =>
      cases more with
      | zero => exact absurd hmore (by simp)
      | succ more =>
        cases hitem : decodeAt levels (first :: input) with
        | error e => simp [decodeItems, hitem, bind, Except.bind]
        | ok decoded =>
          obtain ⟨item, remaining⟩ := decoded
          have hshort := decodeAt_shortens hitem
          simp only [length_cons] at hfuel hmore hshort
          have hih := @ih remaining more (by omega) (by omega)
          simp [decodeItems, hitem, bind, Except.bind, hih]

lemma decodeListItems_eq_ok {items : List Item} :
    decodeListItems (decodeAt levels) payload = .ok items ↔ payload = [] ∧ items = [] ∨
      ∃ item remaining others, decodeAt levels payload = .ok (item, remaining) ∧
        decodeListItems (decodeAt levels) remaining = .ok others ∧ items = item :: others := by
  cases payload with
  | nil =>
    have hnot : ∀ x, decodeAt levels [] ≠ .ok x := by
      intro x h
      cases levels <;> cases h
    simp [decodeListItems, decodeItems, hnot, eq_comm]
  | cons first input =>
    rw [decodeListItems, length_cons, decodeItems]
    cases hitem : decodeAt levels (first :: input) with
    | error e => simp [bind, Except.bind]
    | ok decoded =>
      obtain ⟨item, remaining⟩ := decoded
      have hshort := decodeAt_shortens hitem
      rw [length_cons] at hshort
      have hrest : decodeItems (decodeAt levels) input.length remaining =
          decodeListItems (decodeAt levels) remaining :=
        decodeItems_of_le levels (by omega) le_rfl
      cases hothers : decodeListItems (decodeAt levels) remaining with
      | error e =>
        simp only [bind, Except.bind, hrest, hothers]
        constructor
        · exact nofun
        · rintro (⟨h, -⟩ | ⟨_, _, _, h, h', -⟩)
          · cases h
          · obtain ⟨-, rfl⟩ := Prod.mk.inj (Except.ok.inj h)
            rw [hothers] at h'
            cases h'
      | ok others =>
        simp only [bind, Except.bind, hrest, hothers]
        constructor
        · intro h
          exact .inr ⟨item, remaining, others, rfl, hothers, (Except.ok.inj h).symm⟩
        · rintro (⟨h, -⟩ | ⟨_, _, _, h, h', rfl⟩)
          · cases h
          · cases h
            rw [hothers] at h'
            rw [Except.ok.inj h']

lemma decode_eq_ok :
    decode input = .ok item ↔ decodeAt (maxDepth + 1) input = .ok (item, []) := by
  unfold decode
  cases decodeAt (maxDepth + 1) input with
  | error e => simp [bind, Except.bind]
  | ok decoded =>
    obtain ⟨item', rest⟩ := decoded
    simp only [bind, Except.bind]
    cases rest <;> simp

/-! ## What is encoded is read back -/

mutual

def Item.nesting : Item → ℕ
  | .string _ => 0
  | .list items => nestingItems items + 1

def nestingItems : List Item → ℕ
  | [] => 0
  | item :: items => max item.nesting (nestingItems items)

end

mutual

/-- The bytes that an item takes in memory: 24 for an `Item` and what its vector holds. -/
def Item.footprint : Item → ℕ
  | .string bytes => 24 + bytes.length
  | .list items => 24 + footprintItems items

def footprintItems : List Item → ℕ
  | [] => 0
  | item :: items => item.footprint + footprintItems items

end

/-- An `Item` as a program has it, inside a 64-bit address space. -/
structure StoredItem where
  item : Item
  fits : item.footprint < 2 ^ 64

lemma length_encodeLength_le (len : ℕ) (offset : UInt8) : (encodeLength len offset).length ≤ 9 := by
  have htrim := length_trimmed_le 8 len
  unfold encodeLength
  split_ifs
  · simp
  · rw [length_cons]
    exact Nat.succ_le_succ htrim

lemma length_encodeString_le (bytes : Bytes) : (encodeString bytes).length ≤ 9 + bytes.length := by
  have hlength := length_encodeLength_le bytes.length 0x80
  unfold encodeString
  split_ifs
  · simp; omega
  · simpa using hlength

mutual

lemma length_encode_le_footprint : ∀ item : Item, (encode item).length ≤ item.footprint
  | .string bytes => by
      have hlength := length_encodeString_le bytes
      rw [encode, Item.footprint]
      omega
  | .list items => by
      have hlength := length_encodeLength_le (encodeItems items).length 0xc0
      have hitems := length_encodeItems_le_footprint items
      rw [encode, Item.footprint, length_append]
      omega

lemma length_encodeItems_le_footprint :
    ∀ items : List Item, (encodeItems items).length ≤ footprintItems items
  | [] => le_rfl
  | item :: items => by
      have hitem := length_encode_le_footprint item
      have hitems := length_encodeItems_le_footprint items
      rw [encodeItems, footprintItems, length_append]
      omega

end

lemma readHeader_encodeString (h : bytes.length < 2 ^ 64) (rest : Bytes) :
    readHeader (encodeString bytes ++ rest) = .ok (.string, bytes, rest) := by
  unfold encodeString
  split_ifs with hlow
  · obtain ⟨low, rfl⟩ := length_eq_one_iff.mp hlow.1
    exact readHeader_low hlow.2 rest
  · exact readHeader_eq_ok.mpr (.inr ⟨h, rfl⟩)

mutual

lemma decodeAt_encode : ∀ (item : Item) {levels : ℕ} (rest : Bytes), item.nesting < levels →
    item.footprint < 2 ^ 64 → decodeAt levels (encode item ++ rest) = .ok (item, rest)
  | .string bytes, levels + 1, rest, _, hfits => by
      have hlen : bytes.length < 2 ^ 64 := by rw [Item.footprint] at hfits; omega
      rw [encode]
      exact decodeAt_eq_ok.mpr ⟨levels, .string, bytes, rfl,
        readHeader_encodeString hlen rest, .inl ⟨rfl, rfl⟩⟩
  | .list items, levels + 1, rest, hnest, hfits => by
      rw [Item.nesting] at hnest
      rw [Item.footprint] at hfits
      have hlen := length_encodeItems_le_footprint items
      have hitems : decodeListItems (decodeAt levels) (encodeItems items) = .ok items :=
        decodeListItems_encodeItems items (by omega) (by omega)
      rw [encode]
      exact decodeAt_eq_ok.mpr ⟨levels, .list, encodeItems items, rfl,
        readHeader_eq_ok.mpr (.inr ⟨by omega, rfl⟩), .inr ⟨rfl, items, hitems, rfl⟩⟩

lemma decodeListItems_encodeItems : ∀ (items : List Item) {levels : ℕ},
    nestingItems items < levels → footprintItems items < 2 ^ 64 →
    decodeListItems (decodeAt levels) (encodeItems items) = .ok items
  | [], _, _, _ => rfl
  | item :: items, levels, hnest, hfits => by
      rw [nestingItems] at hnest
      rw [footprintItems] at hfits
      rw [encodeItems]
      exact decodeListItems_eq_ok.mpr (.inr ⟨item, encodeItems items, items,
        decodeAt_encode item _ (by omega) (by omega),
        decodeListItems_encodeItems items (by omega) (by omega), rfl⟩)

end

/-- Every item up to the depth limit is decoded from its own encoding, which is read to its
end. -/
theorem decode_encode (stored : StoredItem) (hnest : stored.item.nesting ≤ maxDepth) :
    decode (encode stored.item) = .ok stored.item := by
  rw [decode_eq_ok, ← append_nil (encode stored.item)]
  exact decodeAt_encode stored.item [] (by omega) stored.fits

def nestedItem : ℕ → Item
  | 0 => .string [0x64, 0x6f, 0x67]
  | n + 1 => .list [nestedItem n]

theorem decode_encode_at_the_limit : decode (encode (nestedItem 32)) = .ok (nestedItem 32) :=
  decode_encode ⟨nestedItem 32, by decide +kernel⟩ (by decide +kernel)

-- One list more and the decoder refuses what the encoder wrote.
example : (decode (encode (nestedItem 33))).isOk = false := by decide +kernel

/-- Items that are written one after the other are told apart: the encoding of an item shows
where it ends. -/
theorem encode_append_inj (a b : StoredItem) (rest rest' : Bytes) :
    encode a.item ++ rest = encode b.item ++ rest' ↔ a.item = b.item ∧ rest = rest' := by
  constructor
  · intro h
    have ha := decodeAt_encode a.item rest (Nat.lt_succ_of_le (le_max_left _ b.item.nesting)) a.fits
    rw [h, decodeAt_encode b.item rest' (Nat.lt_succ_of_le (le_max_right _ _)) b.fits] at ha
    obtain ⟨hitem, hrest⟩ := Prod.mk.inj (Except.ok.inj ha)
    exact ⟨hitem.symm, hrest.symm⟩
  · rintro ⟨hitem, rfl⟩
    rw [hitem]

/-! ## What is decoded is encoded again -/

/-- Somewhere an item is a byte below `0x80` behind the header `0x81`. Items start at the
front, in the payload of a list, and behind another item. -/
inductive Padded : Bytes → Prop
  | byte {low : UInt8} {rest : Bytes} : low < 0x80 → Padded (0x81 :: low :: rest)
  | inside {input payload rest : Bytes} :
      readHeader input = .ok (.list, payload, rest) → Padded payload → Padded input
  | behind {input payload rest : Bytes} {kind : Kind} :
      readHeader input = .ok (kind, payload, rest) → Padded rest → Padded input

lemma not_padded_nil : ¬Padded [] := by
  intro h
  cases h with
  | inside hheader => cases hheader
  | behind hheader => cases hheader

lemma readHeader_padded {low : UInt8} (rest : Bytes) :
    readHeader (0x81 :: low :: rest) = .ok (.string, [low], rest) :=
  readHeader_eq_ok.mpr (.inr ⟨by simp, rfl⟩)

variable {input payload rest : Bytes}

lemma padded_iff {kind : Kind} (hheader : readHeader input = .ok (kind, payload, rest)) :
    Padded input ↔
      (kind = .string ∧ ∃ low, low < 0x80 ∧ payload = [low] ∧ input = 0x81 :: low :: rest) ∨
        (kind = .list ∧ Padded payload) ∨ Padded rest := by
  constructor
  · intro h
    cases h with
    | byte hlow =>
      rw [readHeader_padded] at hheader
      cases hheader
      exact .inl ⟨rfl, _, hlow, rfl, rfl⟩
    | inside hlist hpayload =>
      cases hheader.symm.trans hlist
      exact .inr (.inl ⟨rfl, hpayload⟩)
    | behind hother hrest =>
      cases hheader.symm.trans hother
      exact .inr (.inr hrest)
  · rintro (⟨-, low, hlow, -, rfl⟩ | ⟨rfl, hpayload⟩ | hrest)
    · exact .byte hlow
    · exact .inside hheader hpayload
    · exact .behind hheader hrest

lemma length_encodeLength_mono {m : ℕ} (offset : UInt8) (hm : m < 2 ^ 64) (hle : n ≤ m) :
    (encodeLength n offset).length ≤ (encodeLength m offset).length := by
  have hmono : (trimLeadingZeros n).length ≤ (trimLeadingZeros m).length :=
    length_trimmed_mono (by omega) hle
  unfold encodeLength
  split_ifs
  · simp
  · simp
  · omega
  · simpa using hmono

/-- What encoding an item again gives, against the bytes `used` it was read from: the same
bytes and nothing padded in them, or fewer bytes. -/
def Reencodes (item : Item) (input used rest : Bytes) : Prop :=
  encode item = used ∧ (Padded input ↔ Padded rest) ∨
    (encode item).length < used.length ∧ Padded input

lemma reencodes_string (hheader : readHeader input = .ok (.string, payload, rest)) :
    ∃ used, input = used ++ rest ∧ Reencodes (.string payload) input used rest := by
  have hpadded := padded_iff hheader
  simp only [true_and, reduceCtorEq, false_and, false_or] at hpadded
  rcases readHeader_eq_ok.mp hheader with ⟨-, low, hlow, rfl, rfl⟩ | ⟨-, rfl⟩
  · refine ⟨[low], rfl, .inl ⟨by simp [encode, encodeString, hlow], ?_⟩⟩
    have hnot : low ≠ 0x81 := by rintro rfl; exact absurd hlow (by decide)
    rw [hpadded]
    simp [hnot]
  · refine ⟨_, rfl, ?_⟩
    by_cases hlow : payload.length = 1 ∧ payload.headD 0 < 0x80
    · obtain ⟨low, rfl⟩ := length_eq_one_iff.mp hlow.1
      refine .inr ⟨?_, .byte hlow.2⟩
      rw [encode, encodeString, if_pos hlow]
      simp [encodeLength]
    · refine .inl ⟨by rw [encode, encodeString, if_neg hlow]; rfl, ?_⟩
      rw [hpadded, or_iff_right]
      rintro ⟨low, hbyte, rfl, -⟩
      exact hlow ⟨rfl, hbyte⟩

lemma encodeItems_decoded
    (hitem : ∀ {input rest : Bytes} {item : Item}, decodeAt levels input = .ok (item, rest) →
      ∃ used, input = used ++ rest ∧ Reencodes item input used rest) {items : List Item}
    (h : decodeListItems (decodeAt levels) payload = .ok items) :
    encodeItems items = payload ∧ ¬Padded payload ∨
      (encodeItems items).length < payload.length ∧ Padded payload := by
  induction items generalizing payload with
  | nil =>
    rcases decodeListItems_eq_ok.mp h with ⟨rfl, -⟩ | ⟨_, _, _, -, -, hcons⟩
    · exact .inl ⟨rfl, not_padded_nil⟩
    · cases hcons
  | cons item items ih =>
    rcases decodeListItems_eq_ok.mp h with ⟨-, hnil⟩ | ⟨_, remaining, _, hfirst, hothers, hcons⟩
    · cases hnil
    obtain ⟨rfl, rfl⟩ := cons.inj hcons
    obtain ⟨used, rfl, ⟨rfl, hiff⟩ | ⟨hlt, hpadded⟩⟩ := hitem hfirst
    · rcases ih hothers with ⟨rfl, hno⟩ | ⟨hlt, hyes⟩
      · exact .inl ⟨rfl, hiff.not.mpr hno⟩
      · exact .inr ⟨by simpa [encodeItems] using hlt, hiff.mpr hyes⟩
    · refine .inr ⟨?_, hpadded⟩
      rw [encodeItems, length_append, length_append]
      rcases ih hothers with ⟨rfl, -⟩ | ⟨hle, -⟩ <;> omega

lemma decodeAt_reencodes : ∀ {input rest : Bytes} {item : Item},
    decodeAt levels input = .ok (item, rest) →
      ∃ used, input = used ++ rest ∧ Reencodes item input used rest := by
  induction levels with
  | zero => exact fun h => nomatch h
  | succ levels ih =>
    intro input rest item h
    obtain ⟨_, kind, payload, hlevels, hheader, hread⟩ := decodeAt_eq_ok.mp h
    obtain rfl := Nat.succ.inj hlevels
    rcases hread with ⟨rfl, rfl⟩ | ⟨rfl, items, hitems, rfl⟩
    · exact reencodes_string hheader
    · have hpadded := padded_iff hheader
      simp only [reduceCtorEq, false_and, true_and, false_or] at hpadded
      obtain ⟨hstring, -⟩ | ⟨hlt, rfl⟩ := readHeader_eq_ok.mp hheader
      · cases hstring
      refine ⟨_, rfl, ?_⟩
      rcases encodeItems_decoded ih hitems with ⟨rfl, hno⟩ | ⟨hshorter, hyes⟩
      · exact .inl ⟨rfl, by rw [hpadded]; simp [hno]⟩
      · -- a shorter payload has no longer header
        refine .inr ⟨?_, hpadded.mpr (.inl hyes)⟩
        have hmono := length_encodeLength_mono 0xc0 hlt hshorter.le
        rw [encode, length_append, length_append]
        exact Nat.add_lt_add_of_le_of_lt hmono hshorter

/-- Encoding a decoded item gives the decoded bytes back unless a byte is padded in them. -/
lemma encode_decoded_iff {item : Item} (h : decode input = .ok item) :
    encode item = input ↔ ¬Padded input := by
  obtain ⟨used, rfl, hused⟩ := decodeAt_reencodes (decode_eq_ok.mp h)
  rw [append_nil] at hused ⊢
  rcases hused with ⟨heq, hiff⟩ | ⟨hlt, hpadded⟩
  · exact ⟨fun _ => hiff.not.mpr not_padded_nil, fun _ => heq⟩
  · refine ⟨fun heq => ?_, fun hno => absurd hpadded hno⟩
    rw [heq] at hlt
    exact absurd hlt (lt_irrefl _)

/-- Decoding is canonical exactly on inputs with no padded byte: they are the encoding of
what they decode to, and two of them that decode to the same item are the same. -/
theorem decode_canonical_iff {input : Bytes} {item : Item} (h : decode input = .ok item) :
    (encode item = input ↔ ¬Padded input) ∧
      (¬Padded input → ∀ other, decode other = .ok item → (other = input ↔ ¬Padded other)) := by
  refine ⟨encode_decoded_iff h, fun hinput other hother => ?_⟩
  rw [← encode_decoded_iff hother, (encode_decoded_iff h).mpr hinput, eq_comm]

theorem decode_canonical_dog : (encode (.string [0x64, 0x6f, 0x67]) = [0x83, 0x64, 0x6f, 0x67] ↔
      ¬Padded [0x83, 0x64, 0x6f, 0x67]) ∧ (¬Padded [0x83, 0x64, 0x6f, 0x67] → ∀ other,
      decode other = .ok (.string [0x64, 0x6f, 0x67]) →
        (other = [0x83, 0x64, 0x6f, 0x67] ↔ ¬Padded other)) :=
  decode_canonical_iff (by rfl)

/-- The byte `0x05` behind the header `0x81` is accepted, and is not what `0x05` encodes to. -/
theorem padded_byte_is_decoded :
    decode [0x81, 0x05] = .ok (.string [0x05]) ∧ decode [0x05] = .ok (.string [0x05]) ∧
      encode (.string [0x05]) = [0x05] ∧ encode (.string [0x05]) ≠ [0x81, 0x05] :=
  ⟨by rfl, by rfl, by rfl, by decide⟩

end Budlum.Rlp
