import Budlum.BudZero.Air

/-!
# What a row of the matrix runs

The selector constraints leave exactly one opcode to a row (`Selectors.runs`). On such a
row every gate is 0 or 1, the constraints of the other opcodes hold of themselves, and the
lookups count the row once or not at all.
-/

namespace Budlum.BudZero

open List Opcode

lemma Opcode.nodup_all : all.Nodup := by decide

namespace Row

variable {row : Row} {o x : Opcode}

def Runs (row : Row) (o : Opcode) : Prop := ∀ x, row.sel x = if x = o then 1 else 0

namespace Runs

section

variable (h : row.Runs o)
include h

lemma sel_self : row.sel o = 1 := by rw [h o, if_pos rfl]

lemma sel_of_ne (hx : x ≠ o) : row.sel x = 0 := by rw [h x, if_neg hx]

lemma eq_of_sel (hx : row.sel x = 1) : o = x := by
  by_contra hne
  rw [h.sel_of_ne fun heq => hne heq.symm] at hx
  exact zero_ne_one hx

lemma anyOf {ops : List Opcode} (hnodup : ops.Nodup) :
    row.anyOf ops = if o ∈ ops then 1 else 0 := by
  have hsel : row.sel = fun x => if x = o then 1 else 0 := funext h
  rw [Row.anyOf, hsel, sum_map_ite_eq]
  by_cases ho : o ∈ ops
  · simp [ho, count_eq_one_of_mem hnodup ho]
  · simp [ho, count_eq_zero_of_not_mem ho]

lemma isRealOp : row.isRealOp = if o = .halt then 0 else 1 := by
  rw [Row.isRealOp, h.anyOf (nodup_all.filter _)]
  by_cases ho : o = .halt
  · simp [ho]
  · simp [ho, mem_all]

lemma isCpu : row.isCpu = 1 := by
  rw [Row.isCpu, h.isRealOp, h .halt]
  by_cases ho : o = .halt
  · simp [ho]
  · simp [ho, Ne.symm ho]

end

end Runs

end Row

namespace Air

variable {row : Row}

/-! ## One opcode to a row -/

/-- Bits that sum to 1 in the field are a single 1: there are fewer of them than the prime. -/
lemma exists_one_of_sum {ops : List Opcode} {f : Opcode → Goldilocks}
    (hbits : ∀ o ∈ ops, f o = 0 ∨ f o = 1) (hlength : ops.length < goldilocksP)
    (hsum : (ops.map f).sum = 1) : ∃ o, ops.filter (fun x => f x = 1) = [o] := by
  have hcount : (ops.map f).sum = ((ops.filter fun x => f x = 1).length : Goldilocks) := by
    clear hlength hsum
    induction ops with
    | nil => simp
    | cons o rest ih =>
      have hrest := ih fun x hx => hbits x (mem_cons_of_mem _ hx)
      rcases hbits o (mem_cons_self ..) with ho | ho
      · simp [ho, hrest]
      · simp [ho, hrest, add_comm]
  have hone : ((ops.filter fun x => f x = 1).length : Goldilocks) = ((1 : ℕ) : Goldilocks) := by
    rw [← hcount, hsum, Nat.cast_one]
  have hle : (ops.filter fun x => f x = 1).length ≤ ops.length := length_filter_le ..
  have hlen := (cast_inj (by omega) (by decide)).mp hone
  exact length_eq_one_iff.mp hlen

lemma Selectors.sum_eq (h : Selectors row) : (all.map row.sel).sum = 1 := by
  rw [← sub_eq_zero, ← h.exactlyOne, Row.isCpu, Row.isRealOp, Row.anyOf]
  have hfilter : all.filter (· ≠ .halt) = all.tail := by decide
  rw [hfilter]
  show ((.halt :: all.tail).map row.sel).sum - 1 = _
  rw [map_cons, sum_cons]
  ring

lemma Selectors.runs (h : Selectors row) :
    ∃ o, row.Runs o ∧ row.opcode = (o.code : Goldilocks) := by
  have hbits : ∀ x, row.sel x = 0 ∨ row.sel x = 1 :=
    fun x => isBool_eq_zero.mp (h.bool x (mem_all x))
  obtain ⟨o, ho⟩ := exists_one_of_sum (fun x _ => hbits x) (by decide) h.sum_eq
  have hmem : ∀ x, row.sel x = 1 ↔ x = o := by
    intro x
    have hx : x ∈ all.filter (fun x => row.sel x = 1) ↔ x ∈ [o] := by rw [ho]
    simpa [mem_all] using hx
  have hruns : row.Runs o := by
    intro x
    by_cases hx : x = o
    · rw [if_pos hx, (hmem x).mpr hx]
    · rw [if_neg hx]
      exact (hbits x).resolve_right fun hone => hx ((hmem x).mp hone)
  refine ⟨o, hruns, ?_⟩
  have hopcode := h.opcode
  have hsel : row.sel = fun x => if x = o then 1 else 0 := funext hruns
  simp only [hsel, ite_mul, one_mul, zero_mul, sum_map_ite_eq,
    count_eq_one_of_mem nodup_all (mem_all o)] at hopcode
  simpa [sub_eq_zero] using hopcode

lemma Selectors.of_runs {o : Opcode} (h : row.Runs o) (hopcode : row.opcode = (o.code : Goldilocks)) :
    Selectors row where
  bool x _ := by
    rw [h x, isBool_eq_zero]
    by_cases hx : x = o <;> simp [hx]
  exactlyOne := by rw [h.isCpu, sub_self]
  opcode := by
    have hsel : row.sel = fun x => if x = o then 1 else 0 := funext h
    simp only [hsel, ite_mul, one_mul, zero_mul, sum_map_ite_eq,
      count_eq_one_of_mem nodup_all (mem_all o)]
    simp [hopcode]

/-! ## The constraints of the opcodes a row does not run -/

section

variable {pub : ℕ → Goldilocks}

lemma Arithmetic.idle (h : ∀ x ∈ [.add, .sub, .mul, .div, .inv, .eq, .neq, .not], row.sel x = 0) :
    Arithmetic row := by
  simp only [forall_mem_cons, not_mem_nil, IsEmpty.forall_iff, implies_true] at h
  obtain ⟨hadd, hsub, hmul, hdiv, hinv, heq, hneq, hnot, -⟩ := h
  constructor <;> simp [hadd, hsub, hmul, hdiv, hinv, heq, hneq, hnot]

lemma Comparisons.idle (h : ∀ x ∈ [.lt, .gt, .lte, .gte, .and], row.sel x = 0) :
    Comparisons row := by
  simp only [forall_mem_cons, not_mem_nil, IsEmpty.forall_iff, implies_true] at h
  obtain ⟨hlt, hgt, hlte, hgte, hand, -⟩ := h
  have hcmp : row.isCmp = 0 := by simp [Row.isCmp, Row.anyOf, hlt, hgt, hlte, hgte]
  have hgate : row.isCmpOrBw = 0 := by simp [Row.isCmpOrBw, hcmp, hand]
  have hbits : ∀ bits hiInv val, OperandBits row bits hiInv val := by
    intro bits hiInv val
    constructor <;> simp [hgate]
  constructor <;> simp [hcmp, hlt, hgt, hlte, hgte, hand, hbits]

lemma Control.idle (h : ∀ x ∈ [.jmp, .call, .jnz, .assert, .push, .pop], row.sel x = 0) :
    Control row := by
  simp only [forall_mem_cons, not_mem_nil, IsEmpty.forall_iff, implies_true] at h
  obtain ⟨hjmp, hcall, hjnz, hassert, hpush, hpop, -⟩ := h
  constructor <;> simp [hjmp, hcall, hjnz, hassert, hpush, hpop]

lemma Merkle.idle (h : row.sel .verifyMerkle = 0) (hexpand : row.merkleIsExpand = 0) :
    Merkle row := by
  have horiginal : row.onOriginal = 0 := by rw [Row.onOriginal, h, zero_mul]
  constructor <;> simp [h, hexpand, horiginal, isBool]

lemma HaltRow.idle (h : row.sel .halt * row.cpuActive = 0) : HaltRow pub row := by
  constructor <;> simp [h]

lemma Syscalls.idle (h : row.sel .syscall * row.rdValNew = 0)
    (hflags : row.syscallIs1 = 0 ∧ row.syscallIs2 = 0 ∧ row.syscallIs3 = 0 ∧ row.syscallIs6 = 0) :
    Syscalls pub row := by
  obtain ⟨h1, h2, h3, h6⟩ := hflags
  have hflag : ∀ number, SyscallFlag row 0 number := by
    intro number
    constructor <;> simp [isBool]
  refine ⟨h6 ▸ hflag 6, h1 ▸ hflag 1, h2 ▸ hflag 2, h3 ▸ hflag 3, ?_, ?_, ?_, ?_, ?_⟩ <;>
    simp [h1, h2, h3, h6, Row.knownSyscall, h]

lemma Poseidon.idle
    (h : ∀ x ∈ [.poseidon, .privacyCommit, .nullifierCheck, .sWrite], row.sel x = 0) :
    Poseidon row := by
  simp only [forall_mem_cons, not_mem_nil, IsEmpty.forall_iff, implies_true] at h
  obtain ⟨hposeidon, hcommit, hnullifier, hwrite, -⟩ := h
  have hgate : row.poseidonGate = 0 := by
    simp [Row.poseidonGate, Row.anyOf, hposeidon, hcommit, hnullifier, hwrite]
  constructor <;> simp [hposeidon, hcommit, hnullifier, hwrite, hgate]

lemma SumConservation.idle (h : row.sel .sumConservation = 0) : SumConservation row := by
  constructor <;> simp [h]

lemma Inference.idle {nxt : Row} (h : row.sel .verifyInference = 0)
    (hexpand : row.inferenceIsExpand = 0) : Inference row nxt := by
  constructor <;> simp [h, hexpand, isBool]

lemma StateWritesTransition.idle {nxt : Row} (h : row.sel .sWrite = 0) :
    StateWritesTransition row nxt := by
  constructor
  simp [h]

/-- The opcodes without arithmetic, comparison or hash. -/
def lightOps : List Opcode :=
  [.halt, .jmp, .jnz, .call, .ret, .load, .store, .push, .pop, .assert, .log, .sRead,
    .syscall, .verifyMerkle]

/-- What a row that runs one of them has yet to satisfy. -/
@[mk_iff] structure LightRow (pub : ℕ → Goldilocks) (row : Row) : Prop where
  activity : Activity row
  indices : Indices row
  control : Control row
  merkle : Merkle row
  halt : HaltRow pub row
  syscall : row.sel .syscall * row.rdValNew = 0
  registers : TableRow row.reg
  memory : TableRow row.mem

instance (pub : ℕ → Goldilocks) (row : Row) : Decidable (LightRow pub row) :=
  decidable_of_iff _ (lightRow_iff pub row).symm

/-- What such a row and its successor have yet to satisfy. -/
@[mk_iff] structure LightTransition (cur nxt : Row) : Prop where
  clock : ClockTransition cur nxt
  activity : ActivityTransition cur nxt
  stack : StackTransition cur nxt
  merkle : MerkleTransition cur nxt
  gas : GasTransition cur nxt
  digests : DigestTransition cur nxt
  registers : TableTransition regInitBeta regInitGamma cur.reg nxt.reg
  registerSame : RegisterTransition cur nxt
  memory : TableTransition memInitBeta memInitGamma cur.mem nxt.mem

instance (cur nxt : Row) : Decidable (LightTransition cur nxt) :=
  decidable_of_iff _ (lightTransition_iff cur nxt).symm

lemma LightRow.everyRow (h : LightRow pub row) {o : Opcode} (hruns : row.Runs o)
    (hopcode : row.opcode = (o.code : Goldilocks)) (ho : o ∈ lightOps)
    (hflags : row.syscallIs1 = 0 ∧ row.syscallIs2 = 0 ∧ row.syscallIs3 = 0 ∧ row.syscallIs6 = 0) :
    EveryRow pub row := by
  have hzero : ∀ {x}, x ∉ lightOps → row.sel x = 0 := by
    intro x hx
    apply hruns.sel_of_ne
    rintro rfl
    exact hx ho
  have hzeros : ∀ {ops : List Opcode}, (∀ x ∈ ops, x ∉ lightOps) → ∀ x ∈ ops, row.sel x = 0 :=
    fun hops x hx => hzero (hops x hx)
  exact
    { h with
      selectors := .of_runs hruns hopcode
      arithmetic := .idle (hzeros (by decide))
      comparisons := .idle (hzeros (by decide))
      syscalls := .idle h.syscall hflags
      poseidon := .idle (hzeros (by decide))
      sumConservation := .idle (hzero (by decide)) }

end

end Air

/-! ## Rows of a satisfying assignment -/

namespace BudAir

open Air LogUp

variable {air : BudAir} {rows : ℕ → Row} {pub : ℕ → Goldilocks} {i : ℕ}

lemma sixteen_le_degree (air : BudAir) : 16 ≤ air.degree := le_max_right ..

@[simp] lemma mem_lookupRows : i ∈ air.lookupRows ↔ i + 1 < air.degree := by
  have hdegree := air.sixteen_le_degree
  rw [lookupRows, mem_range]
  omega

namespace Satisfies

variable (h : air.Satisfies rows pub)

include h

lemma degree_lt : air.degree < goldilocksP := lt_of_le_of_lt h.domain (by decide)

lemma length_lookupRows_lt : 3 * air.lookupRows.length < goldilocksP := by
  have hdomain := h.domain
  rw [lookupRows, length_range]
  show _ < 18446744069414584321
  omega

lemma runs (hi : i < air.degree) :
    ∃ o, (rows i).Runs o ∧ (rows i).opcode = (o.code : Goldilocks) :=
  (h.every i hi).selectors.runs

lemma cpuActive_bit (hi : i < air.degree) : (rows i).cpuActive = 0 ∨ (rows i).cpuActive = 1 :=
  isBool_eq_zero.mp (h.every i hi).activity.bool

lemma expand_bit (hi : i < air.degree) :
    (rows i).merkleIsExpand = 0 ∨ (rows i).merkleIsExpand = 1 :=
  isBool_eq_zero.mp (h.every i hi).merkle.expandBool

lemma next_pc (hi : i + 1 < air.degree) : (rows (i + 1)).pc = (rows i).nextPc := by
  obtain ⟨o, hruns, -⟩ := h.runs (show i < air.degree by omega)
  have hstep := (h.transition i hi).clock.pc
  rwa [hruns.isCpu, one_mul, sub_eq_zero] at hstep

lemma plain_programDemand : Plain (air.programDemand rows) := by
  intro term hterm
  obtain ⟨i, hi, rfl⟩ := mem_map.mp hterm
  have hi' : i < air.degree := Nat.lt_of_succ_lt (mem_lookupRows.mp hi)
  show (rows i).progActive = 0 ∨ (rows i).progActive = 1
  rcases h.cpuActive_bit hi' with hactive | hactive <;>
    rcases h.expand_bit hi' with hexpand | hexpand <;>
    simp [Row.progActive, hactive, hexpand]

/-- An active row that is no expansion row carries a word of the program, at its program
counter and decoded. -/
lemma fetched (hi : i + 1 < air.degree) (hactive : (rows i).cpuActive = 1)
    (hexpand : (rows i).merkleIsExpand = 0) :
    ∃ k < air.degree, k < air.program.length ∧ (rows i).programEntry = air.preprocessed k := by
  have hlive : (rows i).programEntry ∈ live (air.programDemand rows) := by
    rw [mem_live]
    refine ⟨(rows i).progActive, mem_map.mpr ⟨i, mem_lookupRows.mpr hi, rfl⟩, ?_⟩
    rw [Row.progActive, hactive, hexpand, sub_zero, one_mul]
    exact one_ne_zero
  have hlength : (air.programDemand rows).length < goldilocksP := by
    have hbound := h.length_lookupRows_lt
    rw [programDemand, length_map]
    omega
  obtain ⟨m, hmem, hm⟩ := h.program.exists_supply h.plain_programDemand hlength hlive
  obtain ⟨k, hk, hpair⟩ := mem_map.mp hmem
  obtain ⟨hentry, hmult⟩ := Prod.mk.inj hpair
  refine ⟨k, Nat.lt_of_succ_lt (mem_lookupRows.mp hk), ?_, hentry.symm⟩
  by_contra hout
  exact hm (hmult ▸ if_neg hout)

end Satisfies

/-- The checks of an assignment whose rows all run a light opcode. -/
structure Light (air : BudAir) (height : ℕ) (rows : ℕ → Row) (ops : ℕ → Opcode)
    (pub : ℕ → Goldilocks) : Prop where
  degree : air.degree = height
  domain : height ≤ 2 ^ 32
  runs : ∀ i, (rows i).Runs (ops i)
  opcode : ∀ i < height, (rows i).opcode = ((ops i).code : Goldilocks)
  light : ∀ i, ops i ∈ lightOps
  syscalls : ∀ i, (rows i).syscallIs1 = 0 ∧ (rows i).syscallIs2 = 0 ∧ (rows i).syscallIs3 = 0 ∧
    (rows i).syscallIs6 = 0
  inference : ∀ i, (rows i).inferenceIsExpand = 0
  every : ∀ i < height, LightRow pub (rows i)
  transition : ∀ i < height - 1, LightTransition (rows i) (rows (i + 1))
  first : FirstRow pub (rows 0)
  firstRegister : TableFirst regInitGamma (rows 0).reg
  firstMemory : TableFirst memInitGamma (rows 0).mem
  last : LastRow pub (rows (height - 1))
  registers : Balanced (air.registerDemand rows) (air.registerSupply rows)
  memory : Balanced (air.memoryDemand rows) (air.memorySupply rows)
  program : Balanced (air.programDemand rows) air.programSupply

lemma Light.satisfies {height : ℕ} {ops : ℕ → Opcode} (h : Light air height rows ops pub) :
    air.Satisfies rows pub := by
  have hzero : ∀ {x}, x ∉ lightOps → ∀ i, (rows i).sel x = 0 := by
    intro x hx i
    apply (h.runs i).sel_of_ne
    rintro rfl
    exact hx (h.light i)
  obtain ⟨rfl, hdomain, hruns, hopcode, hlight, hsyscalls, hinference, hevery, htransition,
    hfirst, hregister, hmemory, hlast, hregisters, hmem, hprogram⟩ := h
  exact
    { domain := hdomain
      every := fun i hi => (hevery i hi).everyRow (hruns i) (hopcode i hi) (hlight i) (hsyscalls i)
      inference := fun i _ => .idle (hzero (by decide) i) (hinference i)
      first := hfirst
      firstRegister := hregister
      firstMemory := hmemory
      transition := fun i hi =>
        { htransition i (by omega) with stateWrites := .idle (hzero (by decide) i) }
      last := hlast
      registers := hregisters
      memory := hmem
      program := hprogram }

end BudAir

end Budlum.BudZero
