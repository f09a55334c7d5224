import Budlum.Registries.Verifiers

/-!
# What slashing leaves behind

`Call.Change` says what one call can make of one registration, and everything about runs is
read off it. A slashed registration is never anything else again. An account that was slashed
is not kept from entering a role that it did not hold then.
-/

namespace Budlum.Verifiers

open Machine Exec SortedMap Option

namespace VerifierRegistry

variable {r : VerifierRegistry} {account : Address} {role : RoleId}

/-! ## Lookups -/

section

variable {a : Address} {x : RoleId}

lemma key_inj : key a x = key account role ↔ a = account ∧ x = role := by
  unfold key
  rw [toLex_inj, Prod.mk.injEq]
  exact and_comm

lemma contains_eq_false :
    r.registrations.contains (key account role) = false ↔ r.get account role = none := by
  unfold contains get
  rw [isSome_eq_false_iff, isNone_iff_eq_none]

variable {reg : Registration}

lemma get_put :
    (r.put account role reg).get a x = if a = account ∧ x = role then some reg else r.get a x := by
  unfold put get
  rw [get?_insert]
  exact if_congr key_inj rfl rfl

lemma get_remove :
    (r.remove account role).get a x = if a = account ∧ x = role then none else r.get a x := by
  unfold remove get
  rw [get?_erase]
  exact if_congr key_inj rfl rfl

/-- What a slash of the account makes of a registration it holds. -/
def jailed (ratio : ℕ) (reg : Registration) : Registration :=
  if reg.status = .slashed then reg else reg.punished ratio

variable {ratio : ℕ}

lemma status_jailed : (jailed ratio reg).status = .slashed := by
  unfold jailed
  split_ifs with h
  · exact h
  · rfl

lemma jailed_jailed : jailed ratio (jailed ratio reg) = jailed ratio reg := if_pos status_jailed

lemma get_slashHeld : (slashHeld account ratio r role).get a x =
      if a = account ∧ x = role then (r.get a x).map (jailed ratio) else r.get a x := by
  unfold slashHeld
  rcases hget : r.get account role with _ | reg
  · split_ifs with h
    · rw [h.1, h.2, hget]
      rfl
    · rfl
  · dsimp only
    split_ifs with hslashed h h
    · rw [h.1, h.2, hget, map_some, jailed, if_pos hslashed]
    · rfl
    · rw [get_put, if_pos h, h.1, h.2, hget, map_some, jailed, if_neg hslashed]
    · rw [get_put, if_neg h]

lemma get_foldl_slashHeld (roles : List RoleId) (r : VerifierRegistry) :
    (roles.foldl (slashHeld account ratio) r).get a x =
      if a = account ∧ x ∈ roles then (r.get a x).map (jailed ratio) else r.get a x := by
  induction roles generalizing r with
  | nil => simp
  | cons role rest ih =>
    rw [List.foldl_cons, ih, get_slashHeld]
    by_cases hrole : a = account ∧ x = role
    · have hagain : ((r.get a x).map (jailed ratio)).map (jailed ratio) =
          (r.get a x).map (jailed ratio) := by
        rw [map_map]
        exact congrArg (fun f => (r.get a x).map f) (funext fun _ => jailed_jailed)
      have hmem : a = account ∧ x ∈ role :: rest := ⟨hrole.1, hrole.2 ▸ List.mem_cons_self⟩
      rw [if_pos hrole, if_pos hmem, hagain, ite_self]
    · have hmem : a = account ∧ x ∈ role :: rest ↔ a = account ∧ x ∈ rest := by
        rw [List.mem_cons]
        constructor
        · rintro ⟨ha, hx | hx⟩
          · exact absurd ⟨ha, hx⟩ hrole
          · exact ⟨ha, hx⟩
        · rintro ⟨ha, hx⟩
          exact ⟨ha, .inr hx⟩
      rw [if_neg hrole, if_congr hmem rfl rfl]

lemma get_slashCrossRole : (r.slashCrossRole account role ratio).get a x =
      if a = account ∧ x ≠ role then (r.get a x).map (jailed ratio) else r.get a x := by
  unfold slashCrossRole
  rw [get_foldl_slashHeld]
  by_cases ha : a = account
  · subst ha
    rcases hget : r.get a x with _ | reg
    · simp
    · have hkey : key a x ∈ r.registrations.keys := mem_keys.mpr (by
        change (r.get a x).isSome
        rw [hget]
        rfl)
      have hmem : x ∈ r.registrations.keys.filterMap (fun k =>
          if (ofLex k).2 = a ∧ (ofLex k).1 ≠ role then some (ofLex k).1 else none) ↔ x ≠ role := by
        rw [List.mem_filterMap]
        constructor
        · rintro ⟨k, -, hk⟩
          split_ifs at hk with hother
          cases hk
          exact hother.2
        · intro hx
          exact ⟨key a x, hkey, if_pos ⟨rfl, hx⟩⟩
      rw [if_congr (and_congr_right fun _ => hmem) rfl rfl]
  · rw [if_neg fun h => ha h.1, if_neg fun h => ha h.1]

lemma params_slashCrossRole : (r.slashCrossRole account role ratio).params = r.params := by
  have hloop : ∀ (roles : List RoleId) (r : VerifierRegistry),
      (roles.foldl (slashHeld account ratio) r).params = r.params := by
    intro roles
    induction roles with
    | nil => exact fun r => rfl
    | cons role rest ih =>
      intro r
      rw [List.foldl_cons, ih]
      unfold slashHeld
      split
      · split_ifs <;> rfl
      · rfl
  exact hloop _ r

end

/-! ## What a slash does -/

/-- The registry after a slash of the account: all that the account holds is slashed, each
registration once, and nothing else is touched. -/
structure Struck (r r' : VerifierRegistry) (account : Address) (ratio : ℕ) : Prop where
  params : r'.params = r.params
  get : ∀ a x, r'.get a x =
    if a = account then (r.get a x).map (jailed ratio) else r.get a x

section

variable {condition : SlashingCondition} {ratio : ℕ}

lemma struck_slash {reg : Registration} (hget : r.get account role = some reg)
    (hstatus : reg.status ≠ .slashed) :
    Struck r ((r.put account role (reg.punished ratio)).slashCrossRole account role ratio)
      account ratio where
  params := params_slashCrossRole
  get a x := by
    rw [get_slashCrossRole, get_put]
    by_cases ha : a = account
    · subst ha
      by_cases hx : x = role
      · subst hx
        rw [if_neg fun h => h.2 rfl, if_pos ⟨rfl, rfl⟩, if_pos rfl, hget, map_some, jailed,
          if_neg hstatus]
      · rw [if_pos ⟨rfl, hx⟩, if_neg fun h => hx h.2, if_pos rfl]
    · rw [if_neg fun h => ha h.1, if_neg fun h => ha h.1, if_neg ha]

lemma wp_slash : wp (slash account role condition ratio) (fun _ r' => Struck r r' account ratio)
      (fun _ r' => r' = r) r := by
  simp only [slash, wp_rules, id]
  exact ⟨fun reg hget => ⟨fun _ => trivial, fun hstatus => struck_slash hget hstatus⟩,
    fun _ => trivial⟩

lemma wp_slashFromReport {report : SlashingReport} : wp (slashFromReport report)
      (fun o r' => (o.isSome → ∃ ratio, Struck r r' report.offender ratio) ∧ (o = none → r' = r))
      (fun _ r' => r' = r) r := by
  simp only [slashFromReport, wp_rules, wp_attempt, id]
  refine ⟨fun _ _ => wp_mono wp_slash (fun outcome r' hstruck => ?_) fun e r' hsame => ?_,
    fun _ _ => trivial⟩
  · simp only [wp_rules]
    exact ⟨fun _ => ⟨_, hstruck.params, hstruck.get⟩, fun h => by cases h⟩
  · exact ⟨fun h => (by cases h), fun _ => hsame⟩

end

end VerifierRegistry

/-! ## One call -/

open VerifierRegistry

inductive Call
  | register (account : Address) (role : RoleId) (stake currentEpoch : ℕ)
  | upsertStake (account : Address) (role : RoleId) (totalStake currentEpoch : ℕ)
  | addStake (account : Address) (role : RoleId) (amount : ℕ)
  | beginUnbonding (account : Address) (role : RoleId) (currentEpoch : ℕ)
  | withdraw (account : Address) (role : RoleId) (currentEpoch : ℕ)
  | slash (account : Address) (role : RoleId) (condition : SlashingCondition) (ratio : ℕ)
  | slashFromReport (report : SlashingReport)

namespace Call

/-- The registry that a call leaves, whatever it returned. -/
def apply (r : VerifierRegistry) : Call → VerifierRegistry
  | .register account role stake currentEpoch =>
    ((VerifierRegistry.register account role stake currentEpoch).run r).2
  | .upsertStake account role totalStake currentEpoch =>
    r.upsertStake account role totalStake currentEpoch
  | .addStake account role amount => ((VerifierRegistry.addStake account role amount).run r).2
  | .beginUnbonding account role currentEpoch =>
    ((VerifierRegistry.beginUnbonding account role currentEpoch).run r).2
  | .withdraw account role currentEpoch =>
    ((VerifierRegistry.withdraw account role currentEpoch).run r).2
  | .slash account role condition ratio =>
    ((VerifierRegistry.slash account role condition ratio).run r).2
  | .slashFromReport report => ((VerifierRegistry.slashFromReport report).run r).2

def Accuses (account : Address) : Call → Prop
  | .slash a _ _ _ => a = account
  | .slashFromReport report => report.offender = account
  | _ => False

def Slashes (r : VerifierRegistry) (account : Address) : Call → Prop
  | .slash a role condition ratio =>
    a = account ∧ ∃ outcome, ((VerifierRegistry.slash a role condition ratio).run r).1 = .ok outcome
  | .slashFromReport report => report.offender = account ∧
      ∃ outcome, ((VerifierRegistry.slashFromReport report).run r).1 = .ok (some outcome)
  | _ => False

/-- The call brings at least the minimum stake for the account to the role. -/
def Enters (minStake : ℕ) (account : Address) (role : RoleId) : Call → Prop
  | .register a x stake _ => a = account ∧ x = role ∧ minStake ≤ stake
  | .upsertStake a x totalStake _ => a = account ∧ x = role ∧ minStake ≤ totalStake
  | _ => False

/-- What a call can make of the registration of an account in a role. -/
inductive Change (minStake : ℕ) (account : Address) (role : RoleId) (c : Call) :
    Option Registration → Option Registration → Prop
  | keep (found : Option Registration) : Change minStake account role c found found
  | enter (hc : c.Enters minStake account role) (reg : Registration) :
      Change minStake account role c none (some reg)
  | stake (hc : ∀ a, ¬ c.Accuses a) (reg : Registration) (stake : ℕ) :
      Change minStake account role c (some reg) (some { reg with stake })
  | unbond (reg : Registration) (hactive : reg.status = .active) (releaseEpoch : ℕ) :
      Change minStake account role c (some reg) (some { reg with status := .unbonding releaseEpoch })
  | leave (reg : Registration) (hstatus : reg.status ≠ .slashed) :
      Change minStake account role c (some reg) none
  | punish (hc : c.Accuses account) (reg : Registration) (hstatus : reg.status ≠ .slashed)
      (ratio : ℕ) : Change minStake account role c (some reg) (some (reg.punished ratio))

variable {r : VerifierRegistry} {account : Address} {role : RoleId} {c : Call}

/-- Every registration of `r` has become one of `r'` as `Change` allows, under the same
parameters. -/
structure Yields (c : Call) (r r' : VerifierRegistry) : Prop where
  change : ∀ account role, Change r.params.minStake account role c (r.get account role)
    (r'.get account role)
  params : r'.params = r.params

namespace Yields

variable {r' : VerifierRegistry} {reg : Registration}

lemma same : Yields c r r := ⟨fun _ _ => .keep _, rfl⟩

lemma put (h : Change r.params.minStake account role c (r.get account role) (some reg)) :
    Yields c r (r.put account role reg) := by
  refine ⟨fun a x => ?_, rfl⟩
  rw [get_put]
  split_ifs with hkey
  · rw [hkey.1, hkey.2]
    exact h
  · exact .keep _

lemma remove (h : Change r.params.minStake account role c (r.get account role) none) :
    Yields c r (r.remove account role) := by
  refine ⟨fun a x => ?_, rfl⟩
  rw [get_remove]
  split_ifs with hkey
  · rw [hkey.1, hkey.2]
    exact h
  · exact .keep _

lemma struck {ratio : ℕ} (h : Struck r r' account ratio) (hc : c.Accuses account) :
    Yields c r r' := by
  refine ⟨fun a x => ?_, h.params⟩
  rw [h.get]
  split_ifs with ha
  · subst ha
    rcases r.get a x with _ | reg
    · exact .keep none
    · by_cases hstatus : reg.status = .slashed
      · rw [map_some, jailed, if_pos hstatus]
        exact .keep _
      · rw [map_some, jailed, if_neg hstatus]
        exact .punish hc reg hstatus ratio
  · exact .keep _

end Yields

lemma yields_upsertStake (totalStake currentEpoch : ℕ) :
    Yields (.upsertStake account role totalStake currentEpoch) r
      (r.upsertStake account role totalStake currentEpoch) := by
  have hstake : ∀ reg, r.get account role = some reg →
      Yields (.upsertStake account role totalStake currentEpoch) r
        (r.put account role { reg with stake := totalStake }) := by
    intro reg hget
    apply Yields.put
    rw [hget]
    exact .stake (fun _ => id) reg totalStake
  unfold VerifierRegistry.upsertStake
  split
  · next reg hget =>
      split_ifs with hslashed hzero
      · exact hstake reg hget
      · apply Yields.remove
        rw [hget]
        exact .leave reg hslashed
      · exact hstake reg hget
  · next hget =>
      split_ifs with hmin
      · have henters : (Call.upsertStake account role totalStake currentEpoch).Enters
            r.params.minStake account role := ⟨rfl, rfl, hmin⟩
        apply Yields.put
        rw [hget]
        exact .enter henters _
      · exact .same

lemma yields_apply (r : VerifierRegistry) (c : Call) : Yields c r (c.apply r) := by
  cases c with
  | register account role stake currentEpoch =>
    apply wp_snd.mp
    simp only [VerifierRegistry.register, wp_rules, id]
    refine ⟨fun _ => .same, fun hmin => ⟨fun _ => .same, fun hnew => .put ?_⟩⟩
    have henters : (Call.register account role stake currentEpoch).Enters r.params.minStake account
        role := ⟨rfl, rfl, not_lt.mp hmin⟩
    rw [contains_eq_false.mp (Bool.eq_false_iff.mpr hnew)]
    exact .enter henters _
  | upsertStake _ _ totalStake currentEpoch => exact yields_upsertStake totalStake currentEpoch
  | addStake account role amount =>
    apply wp_snd.mp
    simp only [VerifierRegistry.addStake, wp_rules, id]
    refine ⟨fun reg hget => .put ?_, fun _ => .same⟩
    rw [hget]
    exact .stake (fun _ => id) reg _
  | beginUnbonding account role currentEpoch =>
    apply wp_snd.mp
    simp only [VerifierRegistry.beginUnbonding, wp_rules, id, not_not]
    refine ⟨fun reg hget => ⟨fun _ => .same, fun hactive => .put ?_⟩, fun _ => .same⟩
    rw [hget]
    exact .unbond reg hactive _
  | withdraw account role currentEpoch =>
    apply wp_snd.mp
    simp only [VerifierRegistry.withdraw, wp_rules, id]
    refine ⟨fun reg hget => ⟨fun _ hreleased => .remove ?_, fun _ _ => .same⟩, fun _ => .same⟩
    rw [hget]
    refine .leave reg fun hslashed => ?_
    rw [hslashed] at hreleased
    cases hreleased
  | slash account role condition ratio =>
    apply wp_snd.mp
    refine wp_mono wp_slash (fun _ r' hstruck => .struck hstruck rfl) fun _ r' hsame => ?_
    rw [hsame]
    exact .same
  | slashFromReport report =>
    apply wp_snd.mp
    refine wp_mono wp_slashFromReport (fun outcome r' h => ?_) fun _ r' hsame => ?_
    · rcases outcome with _ | outcome
      · rw [h.2 rfl]
        exact .same
      · obtain ⟨ratio, hstruck⟩ := h.1 rfl
        exact .struck hstruck rfl
    · rw [hsame]
      exact .same

lemma Slashes.struck (h : c.Slashes r account) : ∃ ratio, Struck r (c.apply r) account ratio := by
  cases c with
  | slash a x condition ratio =>
    obtain ⟨rfl, outcome, hrun⟩ := h
    exact ⟨ratio, (wp_iff.mp wp_slash).1 outcome _ (Prod.ext hrun rfl)⟩
  | slashFromReport report =>
    obtain ⟨rfl, outcome, hrun⟩ := h
    exact ((wp_iff.mp wp_slashFromReport).1 (some outcome) _ (Prod.ext hrun rfl)).1 rfl
  | register | upsertStake | addStake | beginUnbonding | withdraw => exact h.elim

section

variable {minStake : ℕ} {reg : Registration} {found : Option Registration}

section

variable (h : Change minStake account role c (some reg) found) (hslashed : reg.status = .slashed)
include h hslashed

lemma Change.slashed : ∃ left, found = some left ∧ left.status = .slashed := by
  cases h with
  | keep => exact ⟨reg, rfl, hslashed⟩
  | stake _ _ stake => exact ⟨{ reg with stake }, rfl, hslashed⟩
  | unbond _ hactive => exact nomatch hslashed.symm.trans hactive
  | leave _ hstatus => exact absurd hslashed hstatus
  | punish _ _ hstatus => exact absurd hslashed hstatus

lemma Change.of_accuses {a : Address} (hc : c.Accuses a) : found = some reg := by
  cases h with
  | keep => rfl
  | stake hquiet => exact absurd hc (hquiet a)
  | unbond _ hactive => exact nomatch hslashed.symm.trans hactive
  | leave _ hstatus => exact absurd hslashed hstatus
  | punish _ _ hstatus => exact absurd hslashed hstatus

end

lemma Change.enters (h : Change minStake account role c none (some reg)) :
    c.Enters minStake account role := by
  cases h with
  | enter hc => exact hc

end

end Call

/-! ## Runs -/

def VerifierRegistry.runCalls (r : VerifierRegistry) (calls : List Call) : VerifierRegistry :=
  calls.foldl Call.apply r

section

variable {r : VerifierRegistry} {account : Address} {role : RoleId}

variable {reg : Registration}

lemma slashed_runCalls (calls : List Call)
    (hget : r.get account role = some reg) (hslashed : reg.status = .slashed) :
    ∃ left, (r.runCalls calls).get account role = some left ∧ left.status = .slashed := by
  induction calls generalizing r reg with
  | nil => exact ⟨reg, hget, hslashed⟩
  | cons c rest ih =>
    have hchange := (c.yields_apply r).change account role
    rw [hget] at hchange
    obtain ⟨left, hleft, hstatus⟩ := hchange.slashed hslashed
    exact ih hleft hstatus

lemma params_runCalls (calls : List Call) : (r.runCalls calls).params = r.params := by
  induction calls generalizing r with
  | nil => rfl
  | cons c rest ih => exact ih.trans (c.yields_apply r).params

lemma enters_of_runCalls (calls : List Call) (hnone : r.get account role = none)
    (hget : (r.runCalls calls).get account role = some reg) :
    ∃ c ∈ calls, c.Enters r.params.minStake account role := by
  induction calls generalizing r with
  | nil => exact nomatch hnone.symm.trans hget
  | cons c rest ih =>
    have hchange := (c.yields_apply r).change account role
    rw [hnone] at hchange
    rcases hnext : (c.apply r).get account role with _ | entered
    · obtain ⟨d, hd, henters⟩ := ih hnext hget
      rw [(c.yields_apply r).params] at henters
      exact ⟨d, List.mem_cons_of_mem c hd, henters⟩
    · rw [hnext] at hchange
      exact ⟨c, List.mem_cons_self, hchange.enters⟩

lemma isActive_of_get (hget : r.get account role = some reg)
    (hslashed : reg.status = .slashed) : r.isActive account role = false := by
  unfold isActive Registration.isActive
  rw [hget, map_some, hslashed]
  rfl

lemma withdraw_of_slashed (hget : r.get account role = some reg)
    (hslashed : reg.status = .slashed) (currentEpoch : ℕ) :
    (withdraw account role currentEpoch).run r = (.error (.notActive account role), r) := by
  have hread : ofOption (.notRegistered account role) (r.get account role) =
      (pure reg : Exec VerifierRegistry RegistryError Registration) := by
    rw [hget]
    rfl
  have hcheck : checkReleased account role currentEpoch reg.status =
      .error (.notActive account role) := by
    rw [hslashed]
    rfl
  change (ofOption (RegistryError.notRegistered account role) (r.get account role) >>= _) r = _
  rw [hread]
  change (ofExcept id (checkReleased account role currentEpoch reg.status) >>= _) r = _
  rw [hcheck]
  rfl

lemma isActive_register {stake : ℕ} (hnone : r.get account role = none)
    (hmin : r.params.minStake ≤ stake) (hstake : 0 < stake) (currentEpoch : ℕ) :
    ((Call.register account role stake currentEpoch).apply r).isActive account role = true := by
  have hnew := contains_eq_false.mpr hnone
  have hrun : (VerifierRegistry.register account role stake currentEpoch).run r =
      (.ok (), r.put account role ⟨account, role, stake, .active, currentEpoch⟩) := by
    apply run_eq_ok
    simp [VerifierRegistry.register, hnew, hmin]
  change ((VerifierRegistry.register account role stake currentEpoch).run r).2.isActive account
    role = true
  rw [hrun, VerifierRegistry.isActive, get_put, if_pos ⟨rfl, rfl⟩]
  simpa [Registration.isActive] using hstake

/-- All that a slashed account holds stays slashed: it is not active there, cannot be
withdrawn, and no slash takes from it again. Where the account is active later it has entered
anew, a role that it did not hold, with a call of its own; and that it can always do. -/
theorem slashed_roles_stay_slashed {c : Call} (h : c.Slashes r account) (later : List Call) :
    let hit := c.apply r
    let now := hit.runCalls later
    (∀ role reg, hit.get account role = some reg →
      ∃ left, now.get account role = some left ∧ left.status = .slashed ∧
        now.isActive account role = false ∧
        (∀ currentEpoch, (withdraw account role currentEpoch).run now =
          (.error (.notActive account role), now)) ∧
        ∀ (d : Call) (a : Address), d.Accuses a → (d.apply now).get account role = some left) ∧
    (∀ role, now.isActive account role = true → hit.get account role = none ∧
      ∃ d ∈ later, d.Enters r.params.minStake account role) ∧
    ∀ role stake currentEpoch, now.get account role = none → r.params.minStake ≤ stake →
      0 < stake →
      ((Call.register account role stake currentEpoch).apply now).isActive account role = true := by
  intro hit now
  obtain ⟨ratio, hstruck⟩ := h.struck
  have hheld : ∀ role reg, hit.get account role = some reg →
      ∃ left, now.get account role = some left ∧ left.status = .slashed := by
    intro role reg hget
    have hslashed : reg.status = .slashed := by
      rw [hstruck.get, if_pos rfl, map_eq_some_iff] at hget
      obtain ⟨_, _, rfl⟩ := hget
      exact status_jailed
    exact slashed_runCalls later hget hslashed
  have hparams : now.params = r.params := (params_runCalls later).trans hstruck.params
  refine ⟨fun role reg hget => ?_, fun role hactive => ?_, fun role stake epoch hnone hmin => ?_⟩
  · obtain ⟨left, hleft, hslashed⟩ := hheld role reg hget
    refine ⟨left, hleft, hslashed, isActive_of_get hleft hslashed,
      withdraw_of_slashed hleft hslashed, fun d a hd => ?_⟩
    have hchange := (d.yields_apply now).change account role
    rw [hleft] at hchange
    exact hchange.of_accuses hslashed hd
  · rcases hget : hit.get account role with _ | reg
    · refine ⟨rfl, ?_⟩
      rcases hnow : now.get account role with _ | entered
      · rw [isActive, hnow] at hactive
        cases hactive
      · rw [← hstruck.params]
        exact enters_of_runCalls later hget hnow
    · obtain ⟨left, hleft, hslashed⟩ := hheld role reg hget
      exact nomatch (isActive_of_get hleft hslashed).symm.trans hactive
  · exact fun hstake => isActive_register hnone (hparams.symm ▸ hmin) hstake epoch

def loneVerifier : VerifierRegistry :=
  (withParams .default).runCalls [.register ⟨1⟩ masterVerifier 10000 0]

def equivocation : Call := .slash ⟨1⟩ masterVerifier .doubleSign 500000

lemma equivocation_slashes : equivocation.Slashes loneVerifier ⟨1⟩ := ⟨rfl, _, rfl⟩

/-- The slashed verifier adds stake and registers as a relayer; as a verifier it stays
slashed. -/
theorem slashed_roles_stay_slashed_verifier :
    let now := (equivocation.apply loneVerifier).runCalls
      [.addStake ⟨1⟩ masterVerifier 700, .register ⟨1⟩ relayer 1000 1]
    equivocation.Slashes loneVerifier ⟨1⟩ ∧
      ∃ left, now.get ⟨1⟩ masterVerifier = some left ∧ left.status = .slashed ∧
        now.isActive ⟨1⟩ masterVerifier = false ∧
        (∀ currentEpoch, (withdraw ⟨1⟩ masterVerifier currentEpoch).run now =
          (.error (.notActive ⟨1⟩ masterVerifier), now)) ∧
        ∀ (d : Call) (a : Address), d.Accuses a → (d.apply now).get ⟨1⟩ masterVerifier = some left :=
  ⟨equivocation_slashes, (slashed_roles_stay_slashed equivocation_slashes _).1 masterVerifier
    ⟨⟨1⟩, masterVerifier, 5000, .slashed, 0⟩ (by decide +kernel)⟩

/-- A role that the account did not hold when it was slashed is open to it. -/
theorem slashed_account_enters_role : equivocation.Slashes loneVerifier ⟨1⟩ ∧
      ((equivocation.apply loneVerifier).runCalls [.register ⟨1⟩ relayer 1000 1]).isActive ⟨1⟩
        relayer = true :=
  ⟨equivocation_slashes, by decide +kernel⟩

end

end Budlum.Verifiers
