import Budlum.BudZero.Stepping

/-!
# Storage of compiled contracts

A contract keeps a scalar under the number of its field, and the entry of a mapping under
the Poseidon hash of the field's number and the key. The machine casts that hash to the
`i32` of a slot, so entries are told apart by half of its bits only.
-/

namespace Budlum.BudL

open BudZero Vm SortedMap

/-- A storage variable, by the number of its field, or an entry of a mapping. -/
inductive Location
  | scalar (field : ℕ)
  | entry (field key : ℕ)
deriving DecidableEq

def Location.slot : Location → ℤ
  | .scalar field => field
  | .entry field key => slotOfWord (poseidon4Hash field key)

/-- The code of `Stmt::MappingWrite` behind that of key and value. `alloc_reg` hands out
`base` and `target`. -/
def mappingWrite (field : ℕ) (keyReg valReg base target : Fin 32) : List Instruction :=
  [⟨.load, base, 0, 0, field⟩, ⟨.poseidon, target, base, keyReg, 0⟩,
    ⟨.sWrite, 0, valReg, target, -1⟩]

/-- The code of `Expr::StorageRead`, and of `Expr::MappingRead` behind that of the key. -/
def readCode (keyReg base target res : Fin 32) : Location → List Instruction
  | .scalar field => [⟨.sRead, res, 0, 0, field⟩]
  | .entry field _ => [⟨.load, base, 0, 0, field⟩, ⟨.poseidon, target, base, keyReg, 0⟩,
      ⟨.sRead, res, 0, target, -1⟩]

/-- Straight-line code, each instruction performed as `Vm.step` does, gas and fetching apart. -/
def exec (code : List Instruction) (vm : Vm) : Except VmError Vm :=
  code.foldlM (fun vm inst =>
    (vm.perform inst (vm.reg inst.rs1) (vm.reg inst.rs2)).map (·.vm)) vm

def value (vm : Vm) (loc : Location) : ℕ := (vm.storage.get? loc.slot).getD 0

section

variable {vm : Vm} {field key : ℕ} {keyReg valReg base target res : Fin 32}

lemma reg_writeBack {inst : Instruction} {result : ℕ} (h : inst.rd ≠ 0) (i : Fin 32) :
    (vm.writeBack inst result).vm.reg i = if i = inst.rd then result else vm.reg i := by
  by_cases hi : i = 0
  · rw [hi, reg_zero, reg_zero, if_neg (Ne.symm h)]
  · rw [reg_of_ne hi, reg_of_ne hi]
    exact Function.update_apply ..

/-- The slot of an entry is in `target` once its code has run. -/
def hashed (vm : Vm) (field : ℕ) (keyReg base target : Fin 32) : Vm :=
  let loaded := (vm.writeBack ⟨.load, base, 0, 0, field⟩ (asUnsigned 64 field)).vm
  (loaded.writeBack ⟨.poseidon, target, base, keyReg, 0⟩
    (poseidon4Hash (loaded.reg base) (loaded.reg keyReg))).vm

lemma reg_hashed (hfield : field < 2 ^ 31) (hbase : base ∉ [0, keyReg]) (htarget : target ≠ 0)
    (i : Fin 32) : (hashed vm field keyReg base target).reg i =
      if i = target then poseidon4Hash field (vm.reg keyReg) else if i = base then field
      else vm.reg i := by
  simp only [List.mem_cons, List.not_mem_nil, or_false, not_or] at hbase
  have hfits : asUnsigned 64 field = field := by
    unfold asUnsigned
    omega
  simp only [hashed]
  rw [reg_writeBack htarget, reg_writeBack hbase.1, reg_writeBack hbase.1, reg_writeBack hbase.1,
    if_pos rfl, if_neg (Ne.symm hbase.2), hfits]

lemma exec_mappingWrite (hfield : field < 2 ^ 31) (hbase : base ∉ [0, keyReg])
    (htarget : target ≠ 0) (hval : valReg ∉ [base, target]) : ∃ vm',
    exec (mappingWrite field keyReg valReg base target) vm = .ok vm' ∧ vm'.storage =
      vm.storage.insert (Location.entry field (vm.reg keyReg)).slot (vm.reg valReg) := by
  refine ⟨_, rfl, ?_⟩
  simp only [List.mem_cons, List.not_mem_nil, or_false, not_or] at hval
  change vm.storage.insert (slotOfWord ((hashed vm field keyReg base target).reg target))
    ((hashed vm field keyReg base target).reg valReg) = _
  rw [reg_hashed hfield hbase htarget, reg_hashed hfield hbase htarget, if_pos rfl,
    if_neg hval.2, if_neg hval.1]
  rfl

/-- The code for a location leaves its value in the result register. -/
theorem exec_readCode (loc : Location) (hloc : ∀ field key, loc = .entry field key →
      field < 2 ^ 31 ∧ vm.reg keyReg = key) (hbase : base ∉ [0, keyReg])
    (htarget : target ≠ 0) (hres : res ≠ 0) : ∃ vm',
    exec (readCode keyReg base target res loc) vm = .ok vm' ∧ vm'.reg res = value vm loc := by
  cases loc with
  | scalar field =>
    refine ⟨_, rfl, ?_⟩
    change ((vm.writeBack ⟨.sRead, res, 0, 0, field⟩ _).vm).reg res = _
    rw [reg_writeBack hres, if_pos rfl]
    have himm : (field : ℤ) ≠ -1 := by omega
    simp [value, storageSlot, Location.slot, himm]
  | entry field key =>
    obtain ⟨hfield, rfl⟩ := hloc field key rfl
    refine ⟨_, rfl, ?_⟩
    change (((hashed vm field keyReg base target).writeBack ⟨.sRead, res, 0, target, -1⟩
      ((vm.storage.get? (slotOfWord ((hashed vm field keyReg base target).reg target))).getD
        0)).vm).reg res = _
    rw [reg_writeBack hres, if_pos rfl, reg_hashed hfield hbase htarget, if_pos rfl]
    rfl

theorem exec_readCode_entry :
    let vm : Vm := { withGasLimit 0 9 with
      registers := fun _ => 7, storage := SortedMap.empty.insert (Location.entry 5 7).slot 42 }
    ∃ vm', exec (readCode 1 2 3 4 (.entry 5 7)) vm = .ok vm' ∧ vm'.reg 4 = 42 := by
  intro vm
  obtain ⟨vm', hrun, hread⟩ := @exec_readCode vm 1 2 3 4 (.entry 5 7)
    (fun _ _ h => by cases h; exact ⟨by decide, rfl⟩) (by decide) (by decide) (by decide)
  refine ⟨vm', hrun, hread.trans ?_⟩
  rw [value, SortedMap.get?_insert_self]
  rfl

/-- Writing `m[k]` reads back, and leaves the other locations in use alone exactly when none
of them shares the slot of `m[k]`. -/
theorem mapping_write_separate_iff (hfield : field < 2 ^ 31) (hkey : keyReg ≠ 0)
    (hbase : base ∉ [0, keyReg]) (htarget : target ≠ 0) (hval : valReg ∉ [base, target])
    (used : Set Location) : (∀ vm, vm.reg keyReg = key → ∃ vm',
      exec (mappingWrite field keyReg valReg base target) vm = .ok vm' ∧
      value vm' (.entry field key) = vm.reg valReg ∧
      ∀ loc ∈ used, loc ≠ .entry field key → value vm' loc = value vm loc) ↔
    ∀ loc ∈ used, loc ≠ .entry field key → loc.slot ≠ (Location.entry field key).slot := by
  constructor
  · intro h loc hused hne hslot
    -- a machine whose slot holds something else than what is written
    let start : Vm := { withGasLimit 0 0 with registers := fun _ => key }
    let vm : Vm := { start with
      storage := SortedMap.empty.insert (Location.entry field key).slot (start.reg valReg + 1) }
    obtain ⟨vm', -, hown, hothers⟩ := h vm (reg_of_ne hkey)
    have hheld : value vm loc = vm.reg valReg + 1 := by
      rw [value, hslot, get?_insert_self]
      rfl
    have hkept := hothers loc hused hne
    rw [value, hslot] at hkept
    rw [value, hkept, hheld] at hown
    omega
  · rintro h vm rfl
    obtain ⟨vm', hrun, hstorage⟩ := @exec_mappingWrite vm field _ _ _ _ hfield hbase htarget hval
    refine ⟨vm', hrun, ?_, fun loc hused hne => ?_⟩
    · rw [value, hstorage, get?_insert_self]
      rfl
    · rw [value, hstorage, get?_insert, if_neg (h loc hused hne)]
      rfl

end

theorem mapping_write_separate_scalar : (Location.scalar 1).slot ≠ (Location.entry 0 5).slot ∧
    ∀ vm : Vm, vm.reg 1 = 5 → ∃ vm', exec (mappingWrite 0 1 2 3 4) vm = .ok vm' ∧
      value vm' (.entry 0 5) = vm.reg 2 ∧
      ∀ loc ∈ ({.scalar 1} : Set Location), loc ≠ .entry 0 5 → value vm' loc = value vm loc := by
  have hslot : (Location.scalar 1).slot ≠ (Location.entry 0 5).slot := by decide +kernel
  refine ⟨hslot, (mapping_write_separate_iff (by decide) (by decide) (by decide) (by decide)
    (by decide) _).mpr ?_⟩
  rintro _ rfl -
  exact hslot

/-- `m[20388] = 7` is read back from `m[92509]`: the hashes differ in their upper half only. -/
theorem entries_share_slot : poseidon4Hash 0 20388 ≠ poseidon4Hash 0 92509 ∧
    ∃ vm, exec ([⟨.load, 2, 0, 0, 20388⟩, ⟨.load, 3, 0, 0, 7⟩] ++ mappingWrite 0 2 3 4 5 ++
      [⟨.load, 2, 0, 0, 92509⟩] ++ readCode 2 3 4 5 (.entry 0 92509)) (withGasLimit 0 0) =
        .ok vm ∧ vm.reg 5 = 7 :=
  ⟨by decide +kernel, _, rfl, by decide +kernel⟩

end Budlum.BudL
