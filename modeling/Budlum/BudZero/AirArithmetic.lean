import Budlum.BudZero.AirRows
import Budlum.BudZero.Vm

/-!
# Arithmetic and comparison rows

A row that satisfies the constraints of a row alone has, for the field operations, the
tests and the bitwise conjunction, the destination that the machine computes from the
row's operands. The prover chooses the inverses and the bits freely: an inverse witness
can only say whether its element is 0 (`mul_witness_eq`), and the bits of an operand can
only be those of its canonical value (`OperandBits.spells`), since the constraint on the
halves excludes the second spelling that a number below `2^64 - P` has in the field.
-/

namespace Budlum.BudZero

open FieldBits Vm Nat

namespace Air

variable {pub : ℕ → Goldilocks} {row : Row} {a b : ℕ}

/-- The destination is the number, and the number is canonical. -/
def Computes (row : Row) (value : ℕ) : Prop :=
  value < goldilocksP ∧ row.rdValNew = (value : Goldilocks)

lemma Computes.dstVal {value : ℕ} (h : Computes row value) : value = row.rdValNew.val := by
  rw [h.2, val_cast h.1]

lemma cast_boolWord (q : Bool) : ((boolWord q : ℕ) : Goldilocks) = ind (q = true) := by
  cases q <;> simp [boolWord, ind]

lemma computes_boolWord {q : Prop} [Decidable q] (h : row.rdValNew = ind q) :
    Computes row (boolWord q) := by
  refine ⟨?_, ?_⟩
  · by_cases hq : q <;> simp [boolWord, hq] <;> decide
  · rw [h, cast_boolWord]
    simp [ind]

section

variable {x y : Goldilocks}

lemma eq_of_gate {g : Goldilocks} (hg : g = 1) (h : g * (x - y) = 0) : x = y := by
  rw [hg, one_mul] at h
  exact sub_eq_zero.mp h

lemma zero_of_gate {g : Goldilocks} (hg : g = 1) (h : g * x = 0) : x = 0 := by
  rwa [hg, one_mul] at h

end

/-! ## Field operations -/

section

variable (h : Arithmetic row) (hrs1 : row.rs1Val = (a : Goldilocks))
  (hrs2 : row.rs2Val = (b : Goldilocks))

include h hrs1 hrs2

lemma computes_add (hsel : row.sel .add = 1) : Computes row (fieldAdd a b) := by
  refine ⟨fieldAdd_lt a b, ?_⟩
  rw [eq_of_gate hsel h.add, hrs1, hrs2, cast_fieldAdd]

lemma computes_sub (hsel : row.sel .sub = 1) : Computes row (fieldSub a b) := by
  refine ⟨fieldSub_lt a b, ?_⟩
  rw [eq_of_gate hsel h.sub, hrs1, hrs2, cast_fieldSub]

lemma computes_mul (hsel : row.sel .mul = 1) : Computes row (fieldMul a b) := by
  refine ⟨fieldMul_lt a b, ?_⟩
  rw [eq_of_gate hsel h.mul, hrs1, hrs2, cast_fieldMul]

lemma computes_div (hsel : row.sel .div = 1) (hb : b < goldilocksP) :
    Computes row (if b ≠ 0 then a * fieldInverse b % goldilocksP else 0) := by
  have hzero := zero_of_gate hsel h.divZero
  have hinv := zero_of_gate hsel h.divInv
  have hdiv := zero_of_gate hsel h.div
  rw [hrs2] at hzero hinv hdiv
  by_cases hb0 : b = 0
  · -- Division by 0: the witness is 1, and forces the destination to 0.
    have hone : row.divZero = 1 := by
      rw [hb0, cast_zero, zero_mul, zero_add] at hinv
      exact sub_eq_zero.mp hinv
    have hrd := h.divByZero
    rw [hsel, hone, one_mul, one_mul] at hrd
    rw [if_neg (not_not.mpr hb0)]
    exact ⟨goldilocksP_pos, by rw [hrd, cast_zero]⟩
  · have hne : (b : Goldilocks) ≠ 0 := by
      intro hcast
      exact hb0 ((cast_inj hb goldilocksP_pos).mp (by rw [hcast, cast_zero]))
    have hdz : row.divZero = 0 := (mul_eq_zero.mp hzero).resolve_left hne
    rw [hdz, hrs1, sub_zero, mul_one, sub_eq_zero] at hdiv
    rw [if_pos hb0]
    refine ⟨mod_lt _ goldilocksP_pos, ?_⟩
    rw [ZMod.natCast_mod, cast_mul, cast_fieldInverse b hb, ← hdiv, mul_assoc,
      mul_inv_cancel₀ hne, mul_one]

omit hrs2 in
lemma computes_inv (hsel : row.sel .inv = 1) (ha : a < goldilocksP) :
    Computes row (if a ≠ 0 then fieldInverse a else 0) := by
  have hzero := zero_of_gate hsel h.invZero
  have hinv := zero_of_gate hsel h.inv
  rw [hrs1] at hzero hinv
  by_cases ha0 : a = 0
  · have hone : row.invZero = 1 := by
      rw [ha0, cast_zero, zero_mul, zero_add] at hinv
      exact sub_eq_zero.mp hinv
    have hrd := h.invOfZero
    rw [hsel, hone, one_mul, one_mul] at hrd
    rw [if_neg (not_not.mpr ha0)]
    exact ⟨goldilocksP_pos, by rw [hrd, cast_zero]⟩
  · have hne : (a : Goldilocks) ≠ 0 := by
      intro hcast
      exact ha0 ((cast_inj ha goldilocksP_pos).mp (by rw [hcast, cast_zero]))
    have hiz : row.invZero = 0 := (mul_eq_zero.mp hzero).resolve_left hne
    rw [hiz, add_zero, sub_eq_zero] at hinv
    rw [if_pos ha0]
    refine ⟨fieldInverse_lt a, ?_⟩
    rw [cast_fieldInverse a ha]
    exact eq_inv_of_mul_eq_one_right hinv

lemma eqNeqZ_eq (hsel : row.sel .eq + row.sel .neq = 1) (ha : a < goldilocksP)
    (hb : b < goldilocksP) : row.eqNeqZ = ind (a ≠ b) := by
  have hdiff := zero_of_gate hsel h.eqDiff
  rw [Row.eqNeqZ, mul_witness_eq hdiff, hrs1, hrs2]
  simp only [ind, ne_eq, sub_eq_zero, cast_inj ha hb]

lemma computes_eq (hruns : row.Runs .eq) (ha : a < goldilocksP) (hb : b < goldilocksP) :
    Computes row (boolWord (a = b)) := by
  have hsel : row.sel .eq + row.sel .neq = 1 := by simp [hruns.sel_self, hruns.sel_of_ne]
  apply computes_boolWord
  rw [eq_of_gate hruns.sel_self h.eq, eqNeqZ_eq h hrs1 hrs2 hsel ha hb]
  by_cases hab : a = b <;> simp [ind, hab]

lemma computes_neq (hruns : row.Runs .neq) (ha : a < goldilocksP) (hb : b < goldilocksP) :
    Computes row (boolWord (a ≠ b)) := by
  have hsel : row.sel .eq + row.sel .neq = 1 := by simp [hruns.sel_self, hruns.sel_of_ne]
  apply computes_boolWord
  rw [eq_of_gate hruns.sel_self h.neq, eqNeqZ_eq h hrs1 hrs2 hsel ha hb]

omit hrs2 in
lemma computes_not (hsel : row.sel .not = 1) (ha : a < goldilocksP) :
    Computes row (boolWord (a = 0)) := by
  have hzero := zero_of_gate hsel h.notZero
  have hcast : (a : Goldilocks) = 0 ↔ a = 0 := by
    simpa using cast_inj ha goldilocksP_pos
  apply computes_boolWord
  rw [eq_of_gate hsel h.not, Row.notZ, mul_witness_eq hzero, hrs1]
  by_cases ha0 : a = 0 <;> simp [ind, hcast, ha0]

end

/-! ## Bits -/

lemma OperandBits.spells {bits : ℕ → Goldilocks} {hiInv val : Goldilocks}
    (h : OperandBits row bits hiInv val) (hgate : row.isCmpOrBw = 1) (ha : a < goldilocksP)
    (hval : val = (a : Goldilocks)) : Spells bits 64 a := by
  have hbits : ∀ i < 64, bits i = 0 ∨ bits i = 1 :=
    fun i hi => isBool_eq_zero.mp (zero_of_gate hgate (h.bool i hi))
  obtain ⟨n, hn, hspells⟩ := exists_spells hbits
  have hhi : bitSum bits 32 32 = ((n / 2 ^ 32 : ℕ) : Goldilocks) := by
    rw [Spells.bitSum_start hspells, mod_eq_of_lt (by omega)]
  have hlo : bitSum bits 0 32 = ((n % 2 ^ 32 : ℕ) : Goldilocks) :=
    (hspells.mono (by omega)).bitSum_zero
  have hcanonical : n < goldilocksP := by
    by_contra hge
    -- Above the prime the high half is all ones and the low half is not 0.
    have hhalf : n / 2 ^ 32 = 0xFFFFFFFF ∧ n % 2 ^ 32 ≠ 0 := by
      have hge' : 18446744069414584321 ≤ n := by simpa [goldilocksP] using hge
      omega
    have hlow := zero_of_gate hgate h.lo
    rw [hhi, hlo, hhalf.1] at hlow
    have hlow0 : ((n % 2 ^ 32 : ℕ) : Goldilocks) = ((0 : ℕ) : Goldilocks) := by
      simpa using hlow
    have hlt : n % 2 ^ 32 < goldilocksP := lt_trans (mod_lt _ (by decide)) (by decide)
    exact hhalf.2 ((cast_inj hlt goldilocksP_pos).mp hlow0)
  have hsum : ((n : ℕ) : Goldilocks) = (a : Goldilocks) := by
    rw [← hval, ← eq_of_gate hgate h.sum, hspells.bitSum_zero, mod_eq_of_lt hn]
  rwa [(cast_inj hcanonical ha).mp hsum] at hspells

lemma computes_and (h : Comparisons row) (hruns : row.Runs .and)
    (hrs1 : row.rs1Val = (a : Goldilocks)) (hrs2 : row.rs2Val = (b : Goldilocks))
    (ha : a < goldilocksP) (hb : b < goldilocksP) : Computes row (a &&& b) := by
  have hgate : row.isCmpOrBw = 1 := by
    rw [Row.isCmpOrBw, Row.isCmp, hruns.anyOf (by decide), hruns.sel_self]
    simp
  have hspells := (h.rs1.spells hgate ha hrs1).land (h.rs2.spells hgate hb hrs2)
  have hle : a &&& b ≤ a := and_le_left
  refine ⟨by omega, ?_⟩
  have hlt : a &&& b < 2 ^ 64 := lt_of_le_of_lt hle (lt_trans ha (by decide))
  rw [eq_of_gate hruns.sel_self h.and, hspells.bitSum_zero, mod_eq_of_lt hlt]

/-! ## Comparisons -/

/-- The bit columns of a comparison row spell the operands. -/
structure Compares (row : Row) (a b : ℕ) : Prop where
  gate : row.isCmp = 1
  rs1 : Spells row.cmpRs1 64 a
  rs2 : Spells row.cmpRs2 64 b

lemma Comparisons.compares (h : Comparisons row) {o : Opcode} (hruns : row.Runs o)
    (ho : o ∈ [.lt, .gt, .lte, .gte]) (hrs1 : row.rs1Val = (a : Goldilocks))
    (hrs2 : row.rs2Val = (b : Goldilocks)) (ha : a < goldilocksP) (hb : b < goldilocksP) :
    Compares row a b := by
  have hcmp : row.isCmp = 1 := by rw [Row.isCmp, hruns.anyOf (by decide), if_pos ho]
  have hand : .and ≠ o := by
    rintro rfl
    simp at ho
  have hgate : row.isCmpOrBw = 1 := by
    rw [Row.isCmpOrBw, hcmp, hruns.sel_of_ne hand, add_zero]
  exact ⟨hcmp, h.rs1.spells hgate ha hrs1, h.rs2.spells hgate hb hrs2⟩

lemma Comparisons.cmpEq (h : Comparisons row) (hc : Compares row a b) (ha : a < 2 ^ 64)
    (hb : b < 2 ^ 64) {i : ℕ} (hi : i < 64) : row.cmpEq i = ind (a / 2 ^ i = b / 2 ^ i) := by
  -- Downwards from the top bit, above which both operands are 0.
  induction hd : 63 - i generalizing i with
  | zero =>
    obtain rfl : i = 63 := by omega
    have htop : a / 2 ^ (63 + 1) = b / 2 ^ (63 + 1) := by
      rw [div_eq_of_lt ha, div_eq_of_lt hb]
    rw [eq_of_gate hc.gate h.eqTop, hc.rs1 63 hi, hc.rs2 63 hi, ind_eq_step a b 63,
      ind_true htop, one_mul]
  | succ d ih =>
    have hnext := ih (show i + 1 < 64 by omega) (by omega)
    rw [eq_of_gate hc.gate (h.eqStep i (by omega)), hnext, hc.rs1 i hi, hc.rs2 i hi, ← ind_eq_step]

lemma Comparisons.cmpLtRaw (h : Comparisons row) (hc : Compares row a b) (ha : a < 2 ^ 64)
    (hb : b < 2 ^ 64) : row.cmpLtRaw = ind (a < b) := by
  have hsum : ∑ i ∈ Finset.range 63, row.cmpEq (i + 1) * (1 - row.cmpRs1 i) * row.cmpRs2 i
      = ind (a < b) - ind (a / 2 ^ 63 < b / 2 ^ 63) := by
    rw [← sum_ind_lt]
    refine Finset.sum_congr rfl fun i hi => ?_
    have hi' : i < 63 := Finset.mem_range.mp hi
    rw [h.cmpEq hc ha hb (show i + 1 < 64 by omega), hc.rs1 i (by omega), hc.rs2 i (by omega)]
  have htop : (ind (a / 2 ^ 63 < b / 2 ^ 63) : Goldilocks)
      = (1 - row.cmpRs1 63) * row.cmpRs2 63 := by
    have hstep := ind_lt_step (R := Goldilocks) a b 63
    rw [div_eq_of_lt ha, div_eq_of_lt hb, ind_false (lt_irrefl 0), ind_true rfl,
      sub_zero, one_mul] at hstep
    rw [hstep, hc.rs1 63 (by omega), hc.rs2 63 (by omega)]
  rw [eq_of_gate hc.gate h.ltRaw, cmpLtSum, hsum, ← htop]
  ring

section

variable (h : Comparisons row) {o : Opcode} (hruns : row.Runs o)
  (hrs1 : row.rs1Val = (a : Goldilocks)) (hrs2 : row.rs2Val = (b : Goldilocks))
  (ha : a < goldilocksP) (hb : b < goldilocksP)

include h hruns hrs1 hrs2 ha hb

lemma Comparisons.flags (ho : o ∈ [.lt, .gt, .lte, .gte]) :
    row.cmpEq 0 = ind (a = b) ∧ row.cmpLtRaw = ind (a < b) := by
  have hc := h.compares hruns ho hrs1 hrs2 ha hb
  have ha' : a < 2 ^ 64 := lt_trans ha (by decide)
  have hb' : b < 2 ^ 64 := lt_trans hb (by decide)
  refine ⟨?_, h.cmpLtRaw hc ha' hb'⟩
  simpa only [pow_zero, Nat.div_one] using h.cmpEq hc ha' hb' (show 0 < 64 by omega)

lemma computes_lt (ho : o = .lt) : Computes row (boolWord (a < b)) := by
  subst ho
  obtain ⟨-, hlt⟩ := h.flags hruns hrs1 hrs2 ha hb (by simp)
  apply computes_boolWord
  rw [eq_of_gate hruns.sel_self h.lt, hlt]

lemma computes_gt (ho : o = .gt) : Computes row (boolWord (a > b)) := by
  subst ho
  obtain ⟨heq, hlt⟩ := h.flags hruns hrs1 hrs2 ha hb (by simp)
  apply computes_boolWord
  rw [eq_of_gate hruns.sel_self h.gt, heq, hlt]
  rcases lt_trichotomy a b with hab | hab | hab
  · simp [ind, hab, hab.ne, hab.asymm]
  · simp [ind, hab]
  · simp [ind, hab, hab.ne', hab.asymm]

lemma computes_lte (ho : o = .lte) : Computes row (boolWord (a ≤ b)) := by
  subst ho
  obtain ⟨heq, hlt⟩ := h.flags hruns hrs1 hrs2 ha hb (by simp)
  apply computes_boolWord
  rw [eq_of_gate hruns.sel_self h.lte, heq, hlt]
  rcases lt_trichotomy a b with hab | hab | hab
  · simp [ind, hab, hab.ne, hab.le]
  · simp [ind, hab]
  · simp [ind, hab.ne', hab.asymm, hab.not_ge]

lemma computes_gte (ho : o = .gte) : Computes row (boolWord (a ≥ b)) := by
  subst ho
  obtain ⟨-, hlt⟩ := h.flags hruns hrs1 hrs2 ha hb (by simp)
  apply computes_boolWord
  rw [eq_of_gate hruns.sel_self h.gte, hlt]
  by_cases hab : a < b
  · simp [ind, hab, hab.not_ge]
  · simp [ind, hab, not_lt.mp hab]

end

/-! ## Every opcode of the group -/

def arithmeticOps : List Opcode :=
  [.add, .sub, .mul, .div, .inv, .not, .eq, .neq, .lt, .gt, .lte, .gte, .and]

/-- The destination of the row is the one the machine computes, whatever machine performs
the instruction. -/
theorem arithmetic_sound (hrow : EveryRow pub row) {inst : Instruction}
    (hop : inst.opcode ∈ arithmeticOps) (hsel : row.sel inst.opcode = 1)
    (ha : a < goldilocksP) (hb : b < goldilocksP) (hrs1 : row.rs1Val = (a : Goldilocks))
    (hrs2 : row.rs2Val = (b : Goldilocks)) (vm : Vm) :
    ∃ out, vm.perform inst a b = .ok out ∧ out.dstVal = row.rdValNew.val := by
  obtain ⟨o, hruns, -⟩ := hrow.selectors.runs
  obtain rfl : o = inst.opcode := hruns.eq_of_sel hsel
  have harith := hrow.arithmetic
  have hcmp := hrow.comparisons
  -- Every arm of the group writes a number back; what is left is which one.
  have hwrites : ∀ {value : ℕ}, vm.perform inst a b = .ok (vm.writeBack inst value) →
      Computes row value →
      ∃ out, vm.perform inst a b = .ok out ∧ out.dstVal = row.rdValNew.val :=
    fun hperform hcomputes => ⟨_, hperform, hcomputes.dstVal⟩
  simp only [arithmeticOps, List.mem_cons, List.not_mem_nil, or_false] at hop
  rcases hop with hop | hop | hop | hop | hop | hop | hop | hop | hop | hop | hop | hop | hop <;>
    rw [hop] at hruns hsel
  · exact hwrites (by rw [perform, hop]) (computes_add harith hrs1 hrs2 hsel)
  · exact hwrites (by rw [perform, hop]) (computes_sub harith hrs1 hrs2 hsel)
  · exact hwrites (by rw [perform, hop]) (computes_mul harith hrs1 hrs2 hsel)
  · exact hwrites (by rw [perform, hop]) (computes_div harith hrs1 hrs2 hsel hb)
  · exact hwrites (by rw [perform, hop]) (computes_inv harith hrs1 hsel ha)
  · exact hwrites (by rw [perform, hop]) (computes_not harith hrs1 hsel ha)
  · exact hwrites (by rw [perform, hop]) (computes_eq harith hrs1 hrs2 hruns ha hb)
  · exact hwrites (by rw [perform, hop]) (computes_neq harith hrs1 hrs2 hruns ha hb)
  · exact hwrites (by rw [perform, hop]) (computes_lt hcmp hruns hrs1 hrs2 ha hb rfl)
  · exact hwrites (by rw [perform, hop]) (computes_gt hcmp hruns hrs1 hrs2 ha hb rfl)
  · exact hwrites (by rw [perform, hop]) (computes_lte hcmp hruns hrs1 hrs2 ha hb rfl)
  · exact hwrites (by rw [perform, hop]) (computes_gte hcmp hruns hrs1 hrs2 ha hb rfl)
  · exact hwrites (by rw [perform, hop]) (computes_and hcmp hruns hrs1 hrs2 ha hb)

/-- A row that adds 2 to the largest field element. -/
def wrappingAdd : Row where
  opcode := 1
  rs1Val := -1
  rs2Val := 2
  rdValNew := 1
  sel := fun x => if x = .add then 1 else 0
  cpuActive := 1

lemma wrappingAdd_everyRow : EveryRow (fun _ => 0) wrappingAdd := by
  have hruns : wrappingAdd.Runs .add := fun _ => rfl
  exact
    { selectors := .of_runs hruns (by decide)
      activity := ⟨by decide, by decide⟩
      arithmetic := (arithmetic_iff _).mpr (by decide +kernel)
      comparisons := .idle (by decide)
      indices := (indices_iff _).mpr (by decide +kernel)
      control := .idle (by decide)
      merkle := .idle rfl rfl
      halt := .idle (by decide)
      syscalls := .idle rfl ⟨rfl, rfl, rfl, rfl⟩
      registers := ⟨by decide, by decide, by decide⟩
      memory := ⟨by decide, by decide, by decide⟩
      poseidon := .idle (by decide)
      sumConservation := .idle rfl }

/-- The sum wraps to 1, as the machine's does. -/
theorem arithmetic_sound_wrapping :
    ∃ out, (withGasLimit 0 0).perform ⟨.add, 3, 1, 2, 0⟩ 18446744069414584320 2 = .ok out ∧
      out.dstVal = wrappingAdd.rdValNew.val :=
  arithmetic_sound wrappingAdd_everyRow (by decide) rfl (by decide) (by decide)
    (by decide +kernel) (by decide +kernel) (withGasLimit 0 0)

end Air

end Budlum.BudZero
