import Mathlib

/-!
# The BudZero instruction set

Opcodes, instructions and their 64-bit words (`bud-isa`). An instruction word holds the
opcode in its low byte, then three 5-bit register indices and a 32-bit immediate. Which
opcodes a word may hold depends on the profile it is decoded for: on mainnet the opcodes
of the staged rollout are refused until their gate is opened.
-/

namespace Budlum.BudZero

open Nat

inductive Opcode
  | halt | add | sub | mul | div | inv | and | not
  | eq | neq | lt | gt | lte | gte
  | jmp | jnz | call | ret
  | load | store | push | pop
  | assert | poseidon | log | sRead | sWrite | syscall
  | verifyMerkle | verifyInference | privacyCommit | nullifierCheck | sumConservation
deriving DecidableEq, Repr, Inhabited

namespace Opcode

/-- Every opcode, in the order of the source's declaration. -/
def all : List Opcode :=
  [halt, add, sub, mul, div, inv, and, not, eq, neq, lt, gt, lte, gte, jmp, jnz, call, ret,
    load, store, push, pop, assert, poseidon, log, sRead, sWrite, syscall, verifyMerkle,
    verifyInference, privacyCommit, nullifierCheck, sumConservation]

/-- The byte of an opcode (`#[repr(u8)]`). -/
def code : Opcode → ℕ
  | halt => 0x00 | add => 0x01 | sub => 0x02 | mul => 0x03
  | div => 0x04 | inv => 0x05 | and => 0x06 | not => 0x09
  | eq => 0x0A | neq => 0x0B | lt => 0x0C | gt => 0x0D | lte => 0x0E | gte => 0x0F
  | jmp => 0x10 | jnz => 0x11 | call => 0x12 | ret => 0x13
  | load => 0x14 | store => 0x15 | push => 0x16 | pop => 0x17
  | assert => 0x18 | poseidon => 0x19 | log => 0x1A | sRead => 0x1B | sWrite => 0x1C
  | syscall => 0x1D | verifyMerkle => 0x1E | verifyInference => 0x1F
  | privacyCommit => 0x20 | nullifierCheck => 0x21 | sumConservation => 0x22

/-- The name under which `{:?}` prints an opcode. -/
def name : Opcode → String
  | halt => "Halt" | add => "Add" | sub => "Sub" | mul => "Mul"
  | div => "Div" | inv => "Inv" | and => "And" | not => "Not"
  | eq => "Eq" | neq => "Neq" | lt => "Lt" | gt => "Gt" | lte => "Lte" | gte => "Gte"
  | jmp => "Jmp" | jnz => "Jnz" | call => "Call" | ret => "Ret"
  | load => "Load" | store => "Store" | push => "Push" | pop => "Pop"
  | assert => "Assert" | poseidon => "Poseidon" | log => "Log"
  | sRead => "SRead" | sWrite => "SWrite" | syscall => "Syscall"
  | verifyMerkle => "VerifyMerkle" | verifyInference => "VerifyInference"
  | privacyCommit => "PrivacyCommit" | nullifierCheck => "NullifierCheck"
  | sumConservation => "SumConservation"

def isExperimental (_ : Opcode) : Bool := false

def requiresMainnetActivation : Opcode → Bool
  | verifyMerkle | verifyInference | privacyCommit | nullifierCheck | sumConservation => true
  | _ => false

/-- The opcode whose byte is given; `decode_any` refuses the other bytes. -/
def ofCode (byte : ℕ) : Option Opcode := all.find? fun opcode => opcode.code == byte

lemma mem_all (opcode : Opcode) : opcode ∈ all := by
  cases opcode <;> decide

lemma code_lt (opcode : Opcode) : opcode.code < 256 := by
  cases opcode <;> decide

lemma ofCode_code (opcode : Opcode) : ofCode opcode.code = some opcode := by
  cases opcode <;> rfl

lemma code_of_ofCode {byte : ℕ} {opcode : Opcode} (h : ofCode byte = some opcode) :
    opcode.code = byte := by
  simpa using List.find?_some h

end Opcode

inductive IsaProfile
  | production | experimental | testing
deriving DecidableEq, Repr

/-- The name under which `{:?}` prints a profile. -/
def IsaProfile.name : IsaProfile → String
  | production => "Production"
  | experimental => "Experimental"
  | testing => "Testing"

structure MainnetActivation where
  verifyMerkleEnabled : Bool
  verifyInferenceEnabled : Bool
  privacyCommitEnabled : Bool
  nullifierCheckEnabled : Bool
  sumConservationEnabled : Bool
deriving DecidableEq, Repr

namespace MainnetActivation

/-- `MainnetActivation::default`: the privacy opcodes are open, Merkle and inference
verification are not. -/
def default : MainnetActivation where
  verifyMerkleEnabled := false
  verifyInferenceEnabled := false
  privacyCommitEnabled := true
  nullifierCheckEnabled := true
  sumConservationEnabled := true

def allows (activation : MainnetActivation) (opcode : Opcode) : Bool :=
  if opcode.requiresMainnetActivation then
    match opcode with
    | .verifyMerkle => activation.verifyMerkleEnabled
    | .verifyInference => activation.verifyInferenceEnabled
    | .privacyCommit => activation.privacyCommitEnabled
    | .nullifierCheck => activation.nullifierCheckEnabled
    | .sumConservation => activation.sumConservationEnabled
    | _ => false
  else true

end MainnetActivation

inductive DecodeError
  | invalidOpcode (byte : ℕ)
  | experimentalOpcodeDisabled (opcode : Opcode) (profile : IsaProfile)
  | mainnetActivationRequired (opcode : Opcode)
deriving DecidableEq, Repr

/-- A byte as `{:02X}` prints it. -/
def hexByte (byte : ℕ) : String :=
  String.ofList [(digitChar (byte / 16)).toUpper, (digitChar (byte % 16)).toUpper]

/-- `Display for DecodeError`. -/
def DecodeError.text : DecodeError → String
  | invalidOpcode byte => "Unknown opcode 0x" ++ hexByte byte
  | experimentalOpcodeDisabled opcode profile =>
    "Opcode " ++ opcode.name ++ " disabled in " ++ profile.name
  | mainnetActivationRequired opcode =>
    "Opcode " ++ opcode.name ++ " requires mainnet activation"

/-- A 32-bit word read as an `i32`. -/
def toI32 (word : ℕ) : ℤ := if word < 2 ^ 31 then word else (word : ℤ) - 2 ^ 32

/-- An `i32` or `i64` cast to an unsigned word of `width` bits. -/
def asUnsigned (width : ℕ) (value : ℤ) : ℕ := (value % 2 ^ width).toNat

instance neZero_registers : NeZero 32 := ⟨by decide⟩

structure Instruction where
  opcode : Opcode
  rd : Fin 32
  rs1 : Fin 32
  rs2 : Fin 32
  imm : ℤ
deriving DecidableEq, Repr

namespace Instruction

/-- `Instruction::encode`. The fields do not overlap, so what the source joins with `|=`
adds up. -/
def encode (inst : Instruction) : ℕ :=
  inst.opcode.code + inst.rd * 2 ^ 8 + inst.rs1 * 2 ^ 13 + inst.rs2 * 2 ^ 18 +
    asUnsigned 32 inst.imm * 2 ^ 23

def decodeAny (val : ℕ) : Except DecodeError Instruction :=
  match Opcode.ofCode (val % 256) with
  | none => .error (.invalidOpcode (val % 256))
  | some opcode => .ok
      { opcode
        rd := Fin.ofNat 32 (val >>> 8)
        rs1 := Fin.ofNat 32 (val >>> 13)
        rs2 := Fin.ofNat 32 (val >>> 18)
        imm := toI32 ((val >>> 23) % 2 ^ 32) }

def decodeForProfile (val : ℕ) (profile : IsaProfile) : Except DecodeError Instruction :=
  match decodeAny val with
  | .error e => .error e
  | .ok inst =>
    if inst.opcode.isExperimental && profile == .production then
      .error (.experimentalOpcodeDisabled inst.opcode profile)
    else .ok inst

def decodeForMainnet (val : ℕ) (activation : MainnetActivation) :
    Except DecodeError Instruction :=
  match decodeForProfile val .production with
  | .error e => .error e
  | .ok inst =>
    if activation.allows inst.opcode then .ok inst
    else .error (.mainnetActivationRequired inst.opcode)

/-- `Instruction::decode`, as a build without the `experimental` feature has it. -/
def decode (val : ℕ) : Except String Instruction :=
  (decodeForProfile val .production).mapError DecodeError.text

def ImmFits (inst : Instruction) : Prop := -2 ^ 31 ≤ inst.imm ∧ inst.imm < 2 ^ 31

lemma asUnsigned_lt (width : ℕ) (value : ℤ) : asUnsigned width value < 2 ^ width := by
  have hpos : (0 : ℤ) < 2 ^ width := by positivity
  have hlt := Int.emod_lt_of_pos value hpos
  have hcast : ((2 ^ width : ℕ) : ℤ) = 2 ^ width := by push_cast; rfl
  unfold asUnsigned
  omega

lemma decodeAny_of_code {word : ℕ} {opcode : Opcode} (h : word % 256 = opcode.code) :
    decodeAny word = .ok
      { opcode
        rd := Fin.ofNat 32 (word >>> 8)
        rs1 := Fin.ofNat 32 (word >>> 13)
        rs2 := Fin.ofNat 32 (word >>> 18)
        imm := toI32 ((word >>> 23) % 2 ^ 32) } := by
  unfold decodeAny
  rw [h, Opcode.ofCode_code]

lemma decodeForProfile_eq (val : ℕ) (profile : IsaProfile) :
    decodeForProfile val profile = decodeAny val := by
  unfold decodeForProfile
  cases decodeAny val <;> rfl

lemma toI32_fits (word : ℕ) (h : word < 2 ^ 32) : -2 ^ 31 ≤ toI32 word ∧ toI32 word < 2 ^ 31 := by
  unfold toI32
  split_ifs <;> omega

lemma decodeAny_immFits {val : ℕ} {inst : Instruction} (h : decodeAny val = .ok inst) :
    inst.ImmFits := by
  unfold decodeAny at h
  split at h
  · cases h
  · cases h
    exact toI32_fits _ (mod_lt _ (by decide))

lemma asUnsigned_toI32 {word : ℕ} (h : word < 2 ^ 32) : asUnsigned 32 (toI32 word) = word := by
  unfold asUnsigned toI32
  split_ifs <;> omega

lemma toI32_asUnsigned {inst : Instruction} (h : inst.ImmFits) :
    toI32 (asUnsigned 32 inst.imm) = inst.imm := by
  obtain ⟨hlow, hhigh⟩ := h
  unfold asUnsigned toI32
  split_ifs <;> omega

/-- An instruction is read back from its word, and a word is the encoding of what it decodes
to exactly if the nine bits above the immediate are zero. -/
theorem encode_decode_iff (inst : Instruction) (word : ℕ) :
    (inst.ImmFits → decodeAny inst.encode = .ok inst) ∧
    ∀ decoded, decodeAny word = .ok decoded → (decoded.encode = word ↔ word < 2 ^ 55) := by
  constructor
  · intro himm
    have hcode := inst.opcode.code_lt
    have hunsigned := asUnsigned_lt 32 inst.imm
    obtain ⟨opcode, rd, rs1, rs2, imm⟩ := inst
    rw [@decodeAny_of_code _ opcode]
    · simp only [Except.ok.injEq, mk.injEq, true_and, Fin.ext_iff, Fin.val_ofNat,
        shiftRight_eq_div_pow]
      have hback := toI32_asUnsigned himm
      unfold encode
      dsimp only at *
      refine ⟨by omega, by omega, by omega, ?_⟩
      rw [show (opcode.code + rd * 2 ^ 8 + rs1 * 2 ^ 13 + rs2 * 2 ^ 18 + asUnsigned 32 imm * 2 ^ 23) /
        2 ^ 23 % 2 ^ 32 = asUnsigned 32 imm by omega]
      exact hback
    · unfold encode
      dsimp only at *
      omega
  · intro decoded h
    unfold decodeAny at h
    split at h
    · cases h
    · next opcode hopcode =>
      cases h
      have hcode := Opcode.code_of_ofCode hopcode
      have himm := asUnsigned_toI32 (mod_lt (word >>> 23) (show 0 < 2 ^ 32 by decide))
      unfold encode
      dsimp only [Fin.val_ofNat]
      rw [himm, hcode]
      simp only [shiftRight_eq_div_pow]
      omega

theorem high_bits_ignored : ∃ inst, decodeAny (2 ^ 55) = .ok inst ∧ inst.encode = 0 :=
  ⟨_, rfl, rfl⟩

end Instruction

end Budlum.BudZero
