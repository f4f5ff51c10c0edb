import Thrylos.Library.Runs
import Thrylos.RootCommitment
import Thrylos.SlashingEngine

/-!
Validators a node learns of from its peers: `RegisterDiscoveredValidator` and `SyncValidators` of
`consensus/pos/consensus.go`. `GetValidator` returns the registered object, and no step compares a
public key with its address.
-/

namespace Thrylos

def WorldState.updateValidator (val : Validator) : WorldM Unit := fun ws =>
  if (ws.validators.find? val.address).isNone then
    .error s!"validator {text val.address} not found" ws
  else
    match validateAddress val.address with
    | .error err => .error s!"invalid validator address: {err}" ws
    | .ok () =>
      .ok () { ws with validators := ws.validators.insert (val.address, val) }

def replacePubkey (key : Address) (existing : Validator) (pubkey : Bytes) : WorldM Unit := do
  let existing := { existing with pubkey }
  modify fun ws => { ws with validators := ws.validators.insert (key, existing) }
  ignoreFailure (WorldState.updateValidator existing)

def addDiscovered (genesis : GenesisConfig) (val : Validator) : WorldM Unit :=
  if parseBigInt val.stake = 0 then throw s!"invalid stake amount: {text val.stake}"
  else (addValidator genesis val).adaptExcept ("failed to add validator to world state: " ++ ·)

def registerDiscoveredValidator (genesis : GenesisConfig) : Option Validator → WorldM Unit
  | none => throw "validator cannot be nil"
  | some val => do
    if val.address = [] then throw "validator address cannot be empty"
    else if val.pubkey = [] then throw "validator public key cannot be empty"
    else
      match (← get).validators.find? val.address with
      | some (key, existing) =>
        if existing.pubkey ≠ val.pubkey then replacePubkey key existing val.pubkey
        else pure ()
      | none => addDiscovered genesis val

def syncValidators (genesis : GenesisConfig) : List (Option Validator) → WorldState →
    Option WorldState
  | [], ws => some ws
  | none :: _, _ => none
  | some val :: rest, ws =>
    syncValidators genesis rest (registerDiscoveredValidator genesis (some val) ws).final

inductive DiscoveryCall where
  | register (val : Option Validator)
  | sync (vals : List (Option Validator))

def DiscoveryCall.next? (genesis : GenesisConfig) (ws : WorldState) :
    DiscoveryCall → Option WorldState
  | .register val => some (registerDiscoveredValidator genesis val ws).final
  | .sync vals => syncValidators genesis vals ws

def lowerByte (byte : Byte) : Byte := if 65 ≤ byte ∧ byte ≤ 90 then byte + 32 else byte

section

variable (keccak256 : Bytes → Bytes)

/-- `PublicKey.Address` in the text form of `Address.String`. -/
def addressOf (curve : Curve) (key : PublicKey) : Address :=
  [48, 120] ++ hexBytes ((keccak256 ((curve.fromECDSAPub key).drop 1)).drop 12)

def Derives (curve : Curve) (pubkey : Bytes) (addr : Address) : Prop :=
  ∃ key, newPublicKeyFromBytes curve pubkey = .ok key ∧
    addr.map lowerByte = addressOf keccak256 curve key

structure KeysKept (curve : Curve) (before after : WorldState) : Prop where
  registered : ∀ addr entry, before.validators.find? addr = some entry →
    ∃ kept, after.validators.find? addr = some kept ∧ kept.2.pubkey = entry.2.pubkey
  added : ∀ addr entry, before.validators.find? addr = none →
    after.validators.find? addr = some entry → Derives keccak256 curve entry.2.pubkey addr

def Addable (genesis : GenesisConfig) (val : Validator) : Prop :=
  parseBigInt val.stake ≠ 0 ∧ validateAddress val.address = .ok () ∧
    genesis.minValidatorStake ≤ parseBigInt val.stake

def Unforged (curve : Curve) (genesis : GenesisConfig) (ws : WorldState) : Option Validator → Prop
  | none => True
  | some val => val.address ≠ [] → val.pubkey ≠ [] →
      match ws.validators.find? val.address with
      | some existing => existing.2.pubkey = val.pubkey
      | none => Addable genesis val → Derives keccak256 curve val.pubkey val.address

def UnforgedAll (keccak256 : Bytes → Bytes) (curve : Curve) (genesis : GenesisConfig) :
    WorldState → List (Option Validator) → Prop
  | _, [] => True
  | ws, val :: rest => Unforged keccak256 curve genesis ws val ∧
      UnforgedAll keccak256 curve genesis (registerDiscoveredValidator genesis val ws).final rest

def DiscoveryCall.Unforged (curve : Curve) (genesis : GenesisConfig)
    (ws : WorldState) : DiscoveryCall → Prop
  | .register val => Thrylos.Unforged keccak256 curve genesis ws val
  | .sync vals => UnforgedAll keccak256 curve genesis ws vals

end

section Keys

variable {keccak256 : Bytes → Bytes} {curve : Curve} {genesis : GenesisConfig}
  {ws middle after : WorldState} {val : Validator}

theorem KeysKept.refl (ws : WorldState) : KeysKept keccak256 curve ws ws where
  registered _ entry found := ⟨entry, found, rfl⟩
  added _ _ absent found := by cases absent.symm.trans found

theorem KeysKept.trans (first : KeysKept keccak256 curve ws middle)
    (second : KeysKept keccak256 curve middle after) : KeysKept keccak256 curve ws after where
  registered addr entry found := by
    obtain ⟨kept, foundKept, same⟩ := first.registered addr entry found
    obtain ⟨last, foundLast, sameLast⟩ := second.registered addr kept foundKept
    exact ⟨last, foundLast, sameLast.trans same⟩
  added addr entry absent found := by
    cases between : middle.validators.find? addr with
    | none => exact second.added addr entry between found
    | some known =>
      obtain ⟨_, foundKept, same⟩ := second.registered addr known between
      cases foundKept.symm.trans found
      rw [same]
      exact first.added addr known absent between

theorem ignored_updateValidator_find? {existing : Validator} {key : Address}
    (written : ws.validators.find? key = some (key, existing)) :
    ∃ entry, (ignoreFailure (WorldState.updateValidator existing) ws).final.validators.find? key =
      some entry ∧ entry.2 = existing := by
  have final : (ignoreFailure (WorldState.updateValidator existing) ws).final = ws ∨
      (ignoreFailure (WorldState.updateValidator existing) ws).final =
        { ws with validators := ws.validators.insert (existing.address, existing) } := by
    change (EStateM.tryCatch (WorldState.updateValidator existing) (fun _ => pure ()) ws).final = _ ∨
      (EStateM.tryCatch (WorldState.updateValidator existing) (fun _ => pure ()) ws).final = _
    unfold EStateM.tryCatch WorldState.updateValidator
    by_cases absent : (ws.validators.find? existing.address).isNone = true
    · simp only [absent, if_true]
      exact .inl rfl
    · simp only [absent, if_false, Bool.false_eq_true]
      cases validateAddress existing.address with
      | error => exact .inl rfl
      | ok => exact .inr rfl
  rcases final with same | inserted
  · rw [same]
    exact ⟨_, written, rfl⟩
  · rw [inserted, KeyedMap.find?_insert]
    split_ifs
    · exact ⟨_, rfl, rfl⟩
    · exact ⟨_, written, rfl⟩

variable {existing : Address × Validator}

theorem replacePubkey_find? {addr : Address} (pubkey : Bytes)
    (found : ws.validators.find? addr = some existing) :
    ∃ replaced, (replacePubkey existing.1 existing.2 pubkey ws).final.validators.find? addr =
      some replaced ∧ replaced.2.pubkey = pubkey := by
  have key : existing.1 = addr := KeyedMap.find?_key found
  let assigned : WorldState := { ws with
    validators := ws.validators.insert (existing.1, { existing.2 with pubkey }) }
  have written : assigned.validators.find? addr = some (addr, { existing.2 with pubkey }) := by
    rw [KeyedMap.find?_insert, if_pos key, key]
  obtain ⟨entry, foundEntry, same⟩ := ignored_updateValidator_find? written
  exact ⟨entry, foundEntry, by rw [same]⟩

theorem register_registered (address : val.address ≠ []) (pubkey : val.pubkey ≠ [])
    (found : ws.validators.find? val.address = some existing) :
    (registerDiscoveredValidator genesis (some val) ws).final =
      if existing.2.pubkey ≠ val.pubkey then
        (replacePubkey existing.1 existing.2 val.pubkey ws).final else ws := by
  simp only [registerDiscoveredValidator, address, pubkey, if_false]
  rw [EStateM.bind_ok EStateM.get_ok]
  simp only [found]
  split_ifs <;> rfl

theorem addValidator_final (address : val.address ≠ []) (pubkey : val.pubkey ≠ [])
    (absent : ws.validators.find? val.address = none) : (addValidator genesis val ws).final =
      if validateAddress val.address = .ok () ∧
          genesis.minValidatorStake ≤ parseBigInt val.stake then
        { ws with validators := ws.validators.insert (val.address, val) }
      else ws := by
  unfold addValidator
  rw [if_neg address]
  cases valid : validateAddress val.address with
  | error => simp [EStateM.Result.final]
  | ok =>
  simp only [if_neg pubkey, absent, Option.isSome_none, Bool.false_eq_true, if_false, true_and]
  split_ifs with low enough enough
  · exact absurd enough (not_le.mpr low)
  · rfl
  · rfl
  · exact absurd (not_lt.mp low) enough

theorem register_absent (address : val.address ≠ []) (pubkey : val.pubkey ≠ [])
    (absent : ws.validators.find? val.address = none) :
    (Addable genesis val → (registerDiscoveredValidator genesis (some val) ws).final =
      { ws with validators := ws.validators.insert (val.address, val) }) ∧
    (¬ Addable genesis val → (registerDiscoveredValidator genesis (some val) ws).final = ws) := by
  simp only [registerDiscoveredValidator, address, pubkey, if_false]
  rw [EStateM.bind_ok EStateM.get_ok]
  simp only [absent, addDiscovered]
  by_cases worthless : parseBigInt val.stake = 0
  · simp only [worthless, if_true]
    exact ⟨fun addable => absurd worthless addable.1, fun _ => rfl⟩
  · rw [if_neg worthless, EStateM.final_adaptExcept, addValidator_final address pubkey absent]
    exact ⟨fun addable => if_pos addable.2, fun refused => if_neg fun checks => refused ⟨worthless, checks⟩⟩

theorem KeysKept.insert_iff (absent : ws.validators.find? val.address = none) :
    KeysKept keccak256 curve ws { ws with validators := ws.validators.insert (val.address, val) } ↔
      Derives keccak256 curve val.pubkey val.address := by
  constructor
  · intro kept
    exact kept.added _ (val.address, val) absent (by simp)
  · intro derives
    refine ⟨fun addr entry found => ?_, fun addr entry missing found => ?_⟩
    · have other : val.address ≠ addr := by
        rintro rfl
        cases absent.symm.trans found
      exact ⟨entry, by simpa [other] using found, rfl⟩
    · by_cases same : val.address = addr
      · simp only [KeyedMap.find?_insert, same, if_true, Option.some.injEq] at found
        rw [← found, ← same]
        exact derives
      · simp only [KeyedMap.find?_insert, same, if_false] at found
        cases missing.symm.trans found

theorem keysKept_register_iff (offered : Option Validator) :
    KeysKept keccak256 curve ws (registerDiscoveredValidator genesis offered ws).final ↔
      Unforged keccak256 curve genesis ws offered := by
  cases offered with
  | none => exact iff_of_true (.refl ws) trivial
  | some val =>
  by_cases address : val.address = []
  · have unchanged : (registerDiscoveredValidator genesis (some val) ws).final = ws := by
      simp only [registerDiscoveredValidator, address, if_true]
      rfl
    rw [unchanged]
    exact iff_of_true (.refl ws) fun named => absurd address named
  by_cases pubkey : val.pubkey = []
  · have unchanged : (registerDiscoveredValidator genesis (some val) ws).final = ws := by
      simp only [registerDiscoveredValidator, address, pubkey, if_true, if_false]
      rfl
    rw [unchanged]
    exact iff_of_true (.refl ws) fun _ keyed => absurd pubkey keyed
  simp only [Unforged, address, pubkey, ne_eq, not_false_eq_true, forall_const]
  cases found : ws.validators.find? val.address with
  | some existing =>
    rw [register_registered address pubkey found]
    by_cases same : existing.2.pubkey = val.pubkey
    · rw [if_neg (not_not.mpr same)]
      exact iff_of_true (.refl ws) same
    rw [if_pos same]
    refine iff_of_false (fun kept => same ?_) same
    obtain ⟨_, foundReplaced, given⟩ := replacePubkey_find? val.pubkey found
    obtain ⟨_, foundKept, sameKey⟩ := kept.registered _ existing found
    cases foundKept.symm.trans foundReplaced
    exact sameKey.symm.trans given
  | none =>
    obtain ⟨inserted, refused⟩ := register_absent address pubkey found
    by_cases addable : Addable genesis val
    · rw [inserted addable, KeysKept.insert_iff found]
      exact ⟨fun derives _ => derives, fun derives => derives addable⟩
    · rw [refused addable]
      exact iff_of_true (.refl ws) fun added => absurd added addable

theorem keysKept_syncValidators {vals : List (Option Validator)}
    (unforged : UnforgedAll keccak256 curve genesis ws vals)
    (made : syncValidators genesis vals ws = some after) : KeysKept keccak256 curve ws after := by
  induction vals generalizing ws with
  | nil =>
    cases made
    exact .refl _
  | cons offered _ ih =>
    cases offered with
    | none => cases made
    | some val =>
      exact ((keysKept_register_iff (some val)).mpr unforged.1).trans (ih unforged.2 made)

theorem keysKept_call {call : DiscoveryCall} (unforged : call.Unforged keccak256 curve genesis ws)
    (made : call.next? genesis ws = some after) : KeysKept keccak256 curve ws after := by
  cases call with
  | register offered =>
    cases made
    exact (keysKept_register_iff offered).mpr unforged
  | sync => exact keysKept_syncValidators unforged made

end Keys

/-- A registration leaves the keys alone exactly if it is not forged. -/
theorem discovery_keeps_keys_iff_unforged (keccak256 : Bytes → Bytes) (curve : Curve)
    (genesis : GenesisConfig) : (∀ ws offered,
      KeysKept keccak256 curve ws (registerDiscoveredValidator genesis offered ws).final ↔
        Unforged keccak256 curve genesis ws offered) ∧ ∀ start st, Run (DiscoveryCall.next? genesis)
        (fun ws call => call.Unforged keccak256 curve genesis ws) start st →
      KeysKept keccak256 curve start st := by
  refine ⟨fun ws offered => keysKept_register_iff offered, fun start st run => ?_⟩
  refine run.keeps (KeysKept keccak256 curve start) (.refl start) ?_
  intro ws call after kept unforged made
  exact kept.trans (keysKept_call unforged made)

theorem a_known_validator_keeps_its_key :
    KeysKept id sampleCurve (sampleRegistered [sampleKeyed 97 [2]])
      (sampleRegistered [sampleKeyed 97 [2]]) := by
  have unforged : DiscoveryCall.Unforged id sampleCurve sampleMinimum
      (sampleRegistered [sampleKeyed 97 [2]]) (.sync [some (sampleKeyed 97 [2]).2]) :=
    ⟨fun _ _ => rfl, trivial⟩
  exact (discovery_keeps_keys_iff_unforged id sampleCurve sampleMinimum).2 _ _
    (.call _ _ .start unforged rfl)

/-- A peer replaces a validator's key and registers another validator under no key at all. -/
theorem a_peer_takes_over_a_validator :
    let ws := sampleRegistered [sampleKeyed 97 [2]]
    let offered := [some (sampleKeyed 97 [3]).2, some (sampleKeyed 98 [4]).2]
    ∃ after, syncValidators sampleMinimum offered ws = some after ∧
      (ws.validators.find? (sampleAddress 97)).map (·.2.pubkey) = some [2] ∧
      (after.validators.find? (sampleAddress 97)).map (·.2.pubkey) = some [3] ∧
      ws.validators.find? (sampleAddress 98) = none ∧
      (after.validators.find? (sampleAddress 98)).map (·.2.pubkey) = some [4] ∧
      ∀ keccak256 curve, ¬ Derives keccak256 curve [4] (sampleAddress 98) := by
  refine ⟨_, rfl, by decide +kernel, by decide +kernel, by decide +kernel, by decide +kernel, ?_⟩
  rintro _ _ ⟨_, parsed, -⟩
  cases parsed

end Thrylos
