import Thrylos.Library.Framing
import Thrylos.Genesis
import Thrylos.OverlayRoot

/-!
What a canonical state root commits to. Nothing marks where the accounts end, and nothing how long a
public key is.
-/

namespace Thrylos

open Framing

section Addresses

variable {digit : Byte}

theorem isHexDigit_ne_zero (hex : isHexDigit digit = true) : digit ≠ 0 := by
  rintro rfl
  simp [isHexDigit] at hex

theorem isHexDigit_ne_X (hex : isHexDigit digit = true) : digit ≠ 88 := by
  rintro rfl
  simp [isHexDigit] at hex

theorem digits_not_led {digits rest others : Bytes} (sized : digits.length = 40)
    (hex : ∀ digit ∈ digits, isHexDigit digit = true) : digits ++ rest ≠ [48, 88] ++ others := by
  intro same
  match digits, sized, hex with
  | _ :: second :: _, _, hex =>
    obtain ⟨-, tails⟩ := List.cons.inj same
    exact isHexDigit_ne_X (hex second (by simp)) (List.cons.inj tails).1

theorem framed_address : Framed (fun addr => validateAddress addr = .ok ()) Anything id := by
  intro first second valid validSecond rest others _ _ same
  obtain ⟨_, digits, leads, rfl, sized, hex⟩ := validateAddress_shape valid
  obtain ⟨_, digitsSecond, leadsSecond, rfl, sizedSecond, hexSecond⟩ :=
    validateAddress_shape validSecond
  simp only [id_eq, List.append_assoc] at same ⊢
  have bodies (tails : digits ++ rest = digitsSecond ++ others) :
      digits = digitsSecond ∧ rest = others :=
    List.append_inj tails (sized.trans sizedSecond.symm)
  rcases leads with rfl | rfl | rfl <;> rcases leadsSecond with rfl | rfl | rfl <;>
    simp only [List.cons_append, List.nil_append, List.cons.injEq, true_and] at same ⊢
  · exact bodies same
  · exact absurd same.1 (by decide)
  · exact absurd same (digits_not_led sized hex)
  · exact absurd same.1 (by decide)
  · exact bodies same
  · exact absurd same.1 (by decide)
  · exact absurd same.symm (digits_not_led sizedSecond hexSecond)
  · exact absurd same.1 (by decide)
  · exact bodies same

theorem address_bytes {addr : Address} (valid : validateAddress addr = .ok ()) :
    8 < addr.length ∧ ∀ byte ∈ addr, byte ≠ 0 := by
  obtain ⟨lead, _, leads, rfl, _, hex⟩ := validateAddress_shape valid
  refine ⟨by rw [List.length_append]; omega, fun byte mem => ?_⟩
  rcases List.mem_append.mp mem with front | back
  · have leading : ∀ byte ∈ lead, byte ≠ 0 := by
      rcases leads with rfl | rfl | rfl <;> simp
    exact leading byte front
  · exact isHexDigit_ne_zero (hex byte back)

end Addresses

inductive StateItem where
  | account (address bal : Bytes) (nonce : UInt64) (stakedAmount rewards : Bytes)
  | delegation (val amt : Bytes)

namespace StateItem

def data : StateItem → Bytes
  | .account address bal nonce stakedAmount rewards =>
    address ++ (lengthPrefixed 2 bal ++ (BigEndian.fixed 8 nonce.toNat ++
      (lengthPrefixed 2 stakedAmount ++ lengthPrefixed 2 rewards)))
  | .delegation val amt => val ++ lengthPrefixed 2 amt

def Valid : StateItem → Prop
  | .account address bal _ stakedAmount rewards =>
    validateAddress address = .ok () ∧ bal.length ≤ maxUint256Bytes ∧
      stakedAmount.length ≤ maxUint256Bytes ∧ rewards.length ≤ maxUint256Bytes
  | .delegation val amt =>
    validateAddress val = .ok () ∧ amt.length ≤ maxUint256Bytes

end StateItem

theorem framed_amount :
    Framed (fun amt : Bytes => amt.length ≤ maxUint256Bytes) Anything (lengthPrefixed 2) := by
  intro first second short shortSecond
  exact framed_lengthPrefixed 2 (short.trans_lt (by decide)) (shortSecond.trans_lt (by decide))

theorem framed_nonce :
    Framed (fun _ : UInt64 => True) Anything (fun nonce => BigEndian.fixed 8 nonce.toNat) := by
  refine framed_of_width (fun nonce _ => BigEndian.fixed_length 8 _) fun first second _ _ same => ?_
  exact UInt64.toNat.inj ((BigEndian.fixed_inj first.toNat_lt second.toNat_lt).mp same)

def StartsAddress (rest : Bytes) : Prop :=
  rest = [] ∨ ∃ addr others, validateAddress addr = .ok () ∧ rest = addr ++ others

theorem not_startsAddress {nonce : UInt64} {amt rest : Bytes}
    (short : amt.length ≤ maxUint256Bytes) :
    ¬ StartsAddress (BigEndian.fixed 8 nonce.toNat ++ (lengthPrefixed 2 amt ++ rest)) := by
  have high : amt.length / 256 = 0 := Nat.div_eq_of_lt (short.trans_lt (by decide))
  have zero : (BigEndian.fixed 8 nonce.toNat ++ (lengthPrefixed 2 amt ++ rest))[8]? = some 0 := by
    rw [List.getElem?_append_right (by simp)]
    simp [lengthPrefixed, BigEndian.fixed, high]
  rintro (empty | ⟨addr, _, valid, starts⟩)
  · rw [empty] at zero
    cases zero
  · obtain ⟨long, nonzero⟩ := address_bytes valid
    rw [starts, List.getElem?_append_left long, List.getElem?_eq_getElem long] at zero
    exact nonzero addr[8] (List.getElem_mem long) (Option.some.inj zero)

theorem framed_item : Framed StateItem.Valid StartsAddress StateItem.data := by
  intro first second valid validSecond rest others starts startsOthers same
  cases first with
  | account address bal _ _ rewards =>
    obtain ⟨address, bal, staked, rewards⟩ := valid
    cases second with
    | account =>
      obtain ⟨address', balance', staked', rewards'⟩ := validSecond
      simp only [StateItem.data, List.append_assoc] at same
      obtain ⟨rfl, fromBalance⟩ := framed_address address address' trivial trivial same
      obtain ⟨rfl, fromNonce⟩ := framed_amount bal balance' trivial trivial fromBalance
      obtain ⟨rfl, fromStaked⟩ := framed_nonce trivial trivial trivial trivial fromNonce
      obtain ⟨rfl, fromRewards⟩ := framed_amount staked staked' trivial trivial fromStaked
      obtain ⟨rfl, tails⟩ := framed_amount rewards rewards' trivial trivial fromRewards
      exact ⟨rfl, tails⟩
    | delegation =>
      obtain ⟨val, amt⟩ := validSecond
      simp only [StateItem.data, List.append_assoc] at same
      obtain ⟨-, fromAmount⟩ := framed_address address val trivial trivial same
      obtain ⟨-, tails⟩ := framed_amount bal amt trivial trivial fromAmount
      rw [← tails] at startsOthers
      exact absurd startsOthers (not_startsAddress staked)
  | delegation val amt =>
    obtain ⟨val, amt⟩ := valid
    cases second with
    | account =>
      obtain ⟨address, bal, staked, -⟩ := validSecond
      simp only [StateItem.data, List.append_assoc] at same
      obtain ⟨-, fromAmount⟩ := framed_address val address trivial trivial same
      obtain ⟨-, tails⟩ := framed_amount amt bal trivial trivial fromAmount
      rw [tails] at starts
      exact absurd starts (not_startsAddress staked)
    | delegation =>
      obtain ⟨validator', amount'⟩ := validSecond
      simp only [StateItem.data, List.append_assoc] at same
      obtain ⟨rfl, fromAmount⟩ := framed_address val validator' trivial trivial same
      obtain ⟨rfl, tails⟩ := framed_amount amt amount' trivial trivial fromAmount
      exact ⟨rfl, tails⟩

section Accounts

variable {raw : Bytes} {item : StateItem}

theorem canonicalizeUint256Bytes_short {canonical : Bytes}
    (ok : canonicalizeUint256Bytes raw = .ok canonical) : canonical.length ≤ maxUint256Bytes := by
  rw [canonicalizeUint256Bytes_ok ok, BigEndian.encode_length_le]
  exact parseBigInt_lt raw

theorem appendStateUint256_encoded (encoded : BigEndian.encode (parseBigInt raw) = raw) :
    appendStateUint256 2 raw = lengthPrefixed 2 raw ∧ raw.length ≤ maxUint256Bytes := by
  have ok : canonicalizeUint256Bytes raw = .ok raw := by
    rw [← encoded]
    exact canonicalizeUint256Bytes_encode (parseBigInt_lt raw)
  exact ⟨appendStateUint256_accepted ok, canonicalizeUint256Bytes_short ok⟩

def Account.items (acc : Account) : List StateItem :=
  .account acc.address acc.balance acc.nonce acc.stakedAmount acc.rewards ::
    acc.delegatedTo.entries.map fun entry => .delegation entry.1 entry.2

def StartsAccount (rest : List StateItem) : Prop :=
  ∀ val amt, rest.head? ≠ some (.delegation val amt)

theorem delegations_split {entries others : List (Address × Bytes)} {rest tail : List StateItem}
    (starts : StartsAccount rest) (startsTail : StartsAccount tail)
    (same : entries.map (fun entry => StateItem.delegation entry.1 entry.2) ++ rest =
      others.map (fun entry => StateItem.delegation entry.1 entry.2) ++ tail) :
    entries = others ∧ rest = tail := by
  induction entries generalizing others with
  | nil =>
    cases others with
    | nil => exact ⟨rfl, same⟩
    | cons other =>
      simp only [List.map_nil, List.nil_append] at same
      exact absurd (by rw [same]; rfl) (starts other.1 other.2)
  | cons entry _ ih =>
    cases others with
    | nil =>
      simp only [List.map_nil, List.nil_append] at same
      exact absurd (by rw [← same]; rfl) (startsTail entry.1 entry.2)
    | cons =>
      simp only [List.map_cons, List.cons_append, List.cons.injEq, StateItem.delegation.injEq]
        at same
      obtain ⟨rfl, tails⟩ := ih same.2
      exact ⟨by rw [Prod.ext same.1.1 same.1.2], tails⟩

theorem framed_account : Framed (fun _ : Account => True) StartsAccount Account.items := by
  intro first second _ _ rest others starts startsOthers same
  obtain ⟨_, _, _, _, ⟨_, _⟩, _⟩ := first
  simp only [Account.items, List.cons_append, List.cons.injEq, StateItem.account.injEq] at same
  obtain ⟨⟨rfl, rfl, rfl, rfl, rfl⟩, fromDelegations⟩ := same
  obtain ⟨rfl, tails⟩ := delegations_split starts startsOthers fromDelegations
  exact ⟨rfl, tails⟩

variable {acc : Account}

theorem accountStateData_items (canonical : acc.Canonical) :
    accountStateData 2 acc = acc.items.flatMap StateItem.data := by
  obtain ⟨bal, staked, rewards⟩ := canonical.fields
  have delegations : acc.delegatedTo.entries.flatMap (delegationStateData 2) =
      (acc.delegatedTo.entries.map fun entry => StateItem.delegation entry.1 entry.2).flatMap
        StateItem.data := by
    rw [List.flatMap_map]
    refine List.flatMap_congr fun entry mem => ?_
    have ok := canonicalizeUint256ByteMap_self_iff.mp (canonical_iff.mp canonical).2 entry mem
    rw [delegationStateData, appendStateUint256_accepted ok]
    rfl
  simp only [accountStateData, Account.items, List.flatMap_cons, StateItem.data, delegations,
    (appendStateUint256_encoded bal).1, (appendStateUint256_encoded staked).1,
    (appendStateUint256_encoded rewards).1, List.append_assoc]

theorem items_valid (canonical : acc.Canonical) (valid : validateAccount acc = .ok ()) :
    ∀ item ∈ acc.items, item.Valid := by
  obtain ⟨bal, staked, rewards⟩ := canonical.fields
  obtain ⟨address, delegations, -⟩ := validateAccount_ok_iff.mp valid
  intro item mem
  rcases List.mem_cons.mp mem with rfl | delegated
  · exact ⟨address, (appendStateUint256_encoded bal).2, (appendStateUint256_encoded staked).2,
      (appendStateUint256_encoded rewards).2⟩
  · obtain ⟨entry, held, rfl⟩ := List.mem_map.mp delegated
    have ok := canonicalizeUint256ByteMap_self_iff.mp (canonical_iff.mp canonical).2 entry held
    exact ⟨(delegations entry held).1, canonicalizeUint256Bytes_short ok⟩

theorem StateItem.Valid.nonempty (valid : item.Valid) : item.data ≠ [] := by
  cases item <;> simp [StateItem.data, lengthPrefixed, BigEndian.fixed]

theorem StateItem.Valid.opens (valid : item.Valid) (rest : Bytes) :
    StartsAddress (item.data ++ rest) := by
  cases item with
  | account address => exact .inr ⟨address, _, valid.1, List.append_assoc _ _ _⟩
  | delegation val => exact .inr ⟨val, _, valid.1, List.append_assoc _ _ _⟩

theorem accounts_readable {accounts others : List Account}
    (valid : ∀ acc ∈ accounts, acc.Canonical ∧ validateAccount acc = .ok ())
    (validOthers : ∀ acc ∈ others, acc.Canonical ∧ validateAccount acc = .ok ())
    (same : accounts.flatMap (accountStateData 2) = others.flatMap (accountStateData 2)) :
    accounts = others := by
  have asItems {list : List Account}
      (valid : ∀ acc ∈ list, acc.Canonical ∧ validateAccount acc = .ok ()) :
      list.flatMap (accountStateData 2) = (list.flatMap Account.items).flatMap StateItem.data := by
    rw [List.flatMap_assoc]
    exact List.flatMap_congr fun acc mem => accountStateData_items (valid acc mem).1
  have itemsValid {list : List Account}
      (valid : ∀ acc ∈ list, acc.Canonical ∧ validateAccount acc = .ok ()) :
      ∀ item ∈ list.flatMap Account.items, item.Valid := by
    intro item mem
    obtain ⟨acc, listed, inside⟩ := List.mem_flatMap.mp mem
    exact items_valid (valid acc listed).1 (valid acc listed).2 item inside
  rw [asItems valid, asItems validOthers] at same
  have items := framed_item.flatMap_inj (.inl rfl) (fun _ valid => valid.opens)
    (fun _ valid => valid.nonempty) (itemsValid valid) (itemsValid validOthers) same
  refine framed_account.flatMap_inj ?_ ?_ ?_ (fun _ _ => trivial) (fun _ _ => trivial) items
  · intro val amt
    simp
  · intro acc _ rest val amt
    simp [Account.items]
  · simp [Account.items]

end Accounts

structure RecordedValidator where
  address : Address
  pubkey : Bytes
  stake : Bytes
  active : Bool
  deriving DecidableEq

def normalStake (raw : Bytes) : Bytes :=
  match canonicalizeUint256Bytes raw with
  | .error _ => raw
  | .ok canonical => canonical

def Validator.recorded (val : Validator) : RecordedValidator :=
  ⟨val.address, val.pubkey, normalStake val.stake, val.active⟩

namespace RecordedValidator

def data (val : RecordedValidator) : Bytes :=
  val.address ++ (val.pubkey ++ (appendStateUint256 2 val.stake ++ [if val.active then 1 else 0]))

def layout (val : RecordedValidator) : Nat × Option Nat :=
  (val.pubkey.length,
    match canonicalizeUint256Bytes val.stake with
    | .error _ => some val.stake.length
    | .ok _ => none)

structure Valid (val : RecordedValidator) : Prop where
  address : validateAddress val.address = .ok ()
  stake : ∀ canonical, canonicalizeUint256Bytes val.stake = .ok canonical → canonical = val.stake

end RecordedValidator

theorem canonicalizeUint256Bytes_normalStake {raw canonical : Bytes}
    (ok : canonicalizeUint256Bytes (normalStake raw) = .ok canonical) :
    canonical = normalStake raw ∧ canonicalizeUint256Bytes raw = .ok canonical := by
  unfold normalStake at ok ⊢
  cases original : canonicalizeUint256Bytes raw with
  | error =>
    rw [original] at ok
    cases original.symm.trans ok
  | ok =>
  rw [original, canonicalizeUint256Bytes_ok original] at ok
  have idem := canonicalizeUint256Bytes_encode (parseBigInt_lt raw)
  have same := Except.ok.inj (idem.symm.trans ok)
  rw [← canonicalizeUint256Bytes_ok original] at same
  exact ⟨same.symm, by rw [same]⟩

theorem appendStateUint256_normalStake (raw : Bytes) :
    appendStateUint256 2 (normalStake raw) = appendStateUint256 2 raw := by
  cases ok : canonicalizeUint256Bytes raw with
  | error => simp only [normalStake, ok]
  | ok canonical =>
  have norm : normalStake raw = canonical := by simp only [normalStake, ok]
  have idem : canonicalizeUint256Bytes canonical = .ok canonical := by
    rw [canonicalizeUint256Bytes_ok ok]
    exact canonicalizeUint256Bytes_encode (parseBigInt_lt raw)
  rw [norm, appendStateUint256_accepted idem, appendStateUint256_accepted ok]

theorem validatorStateData_recorded (val : Validator) :
    validatorStateData 2 val = val.recorded.data := by
  simp only [validatorStateData, RecordedValidator.data, Validator.recorded,
    appendStateUint256_normalStake, List.append_assoc]
  rfl

theorem recorded_valid {val : Validator} (address : validateAddress val.address = .ok ()) :
    val.recorded.Valid :=
  ⟨address, fun _ ok => (canonicalizeUint256Bytes_normalStake ok).1⟩

theorem framed_flag :
    Framed (fun _ : Bool => True) Anything (fun active => [if active then (1 : Byte) else 0]) := by
  refine framed_of_width (fun _ _ => rfl) fun first second _ _ same => ?_
  cases first <;> cases second <;> simp_all

theorem framed_validator (shape : Nat × Option Nat) :
    Framed (fun val : RecordedValidator => val.Valid ∧ val.layout = shape) Anything
      RecordedValidator.data := by
  rintro ⟨_, pubkey, stake, active⟩ ⟨_, pubkey', stake', active'⟩ ⟨valid, rfl⟩
    ⟨valid', shapes⟩ rest others _ _ same
  simp only [RecordedValidator.data, List.append_assoc] at same
  obtain ⟨rfl, fromKey⟩ := framed_address valid.address valid'.address trivial trivial same
  have keys : pubkey'.length = pubkey.length := congrArg Prod.fst shapes
  obtain ⟨rfl, fromStake⟩ := List.append_inj fromKey keys.symm
  have stakes : stake = stake' ∧ [if active then (1 : Byte) else 0] ++ rest =
      [if active' then (1 : Byte) else 0] ++ others := by
    have lengths := congrArg Prod.snd shapes
    simp only [RecordedValidator.layout] at lengths
    cases amt : canonicalizeUint256Bytes stake with
    | error =>
      cases amount' : canonicalizeUint256Bytes stake' with
      | error =>
        simp only [amt, amount', Option.some.injEq] at lengths
        rw [appendStateUint256_refused amt, appendStateUint256_refused amount'] at fromStake
        exact List.append_inj fromStake lengths.symm
      | ok => simp [amt, amount'] at lengths
    | ok canonical =>
      cases amount' : canonicalizeUint256Bytes stake' with
      | error => simp [amt, amount'] at lengths
      | ok canonical' =>
      obtain rfl := valid.stake canonical amt
      obtain rfl := valid'.stake canonical' amount'
      rw [appendStateUint256_accepted amt, appendStateUint256_accepted amount'] at fromStake
      exact framed_amount (canonicalizeUint256Bytes_short amt)
        (canonicalizeUint256Bytes_short amount') trivial trivial fromStake
  obtain ⟨rfl, fromFlag⟩ := stakes
  obtain ⟨rfl, tails⟩ := framed_flag trivial trivial trivial trivial fromFlag
  exact ⟨rfl, tails⟩

def WorldState.accountPart (ws : WorldState) : Bytes :=
  (getAllAccounts ws.ledger).entries.flatMap (accountStateData 2)

def WorldState.recordedValidators (ws : WorldState) : List (Address × RecordedValidator) :=
  ws.validators.entries.map fun entry => (entry.1, entry.2.recorded)

structure WorldState.Admitted (genesis : GenesisConfig) (ws : WorldState) : Prop where
  accounts : ∀ acc ∈ (getAllAccounts ws.ledger).entries, validateAccount acc = .ok ()
  validators : ∀ entry ∈ ws.validators.entries, entry.1 = entry.2.address ∧
    ∃ before after, addValidator genesis entry.2 before = .ok () after

structure SameLayout (first second : WorldState) : Prop where
  accounts : first.accountPart.length = second.accountPart.length
  validators : first.recordedValidators.map (·.2.layout) = second.recordedValidators.map (·.2.layout)

section Commitment

variable {genesis : GenesisConfig} {first second : WorldState}

theorem addValidator_address {val : Validator} {before after : WorldState}
    (added : addValidator genesis val before = .ok () after) :
    validateAddress val.address = .ok () := by
  cases valid : validateAddress val.address with
  | ok => rfl
  | error =>
    simp only [addValidator, valid] at added
    split_ifs at added

theorem stateData_parts (ws : WorldState) : stateData 2 (getAllAccounts ws.ledger) ws.validators =
      ws.accountPart ++ (ws.recordedValidators.map Prod.snd).flatMap RecordedValidator.data := by
  have vals : ws.validators.entries.flatMap (fun entry => validatorStateData 2 entry.2) =
      (ws.recordedValidators.map Prod.snd).flatMap RecordedValidator.data := by
    simp only [WorldState.recordedValidators, List.map_map, List.flatMap_map]
    exact List.flatMap_congr fun entry _ => validatorStateData_recorded entry.2
  rw [stateData, vals, WorldState.accountPart]

theorem recordedValidators_of_snd (admitted : first.Admitted genesis)
    (admittedSecond : second.Admitted genesis)
    (same : first.recordedValidators.map Prod.snd = second.recordedValidators.map Prod.snd) :
    first.recordedValidators = second.recordedValidators := by
  have keyed {ws : WorldState} (admitted : ws.Admitted genesis) :
      ws.recordedValidators =
        (ws.recordedValidators.map Prod.snd).map fun recorded => (recorded.address, recorded) := by
    simp only [WorldState.recordedValidators, List.map_map]
    refine List.map_congr_left fun entry mem => ?_
    exact Prod.ext (admitted.validators entry mem).1 rfl
  rw [keyed admitted, keyed admittedSecond, same]

theorem stateData_readable (admitted : first.Admitted genesis)
    (admittedSecond : second.Admitted genesis) (layout : SameLayout first second)
    (same : stateData 2 (getAllAccounts first.ledger) first.validators =
      stateData 2 (getAllAccounts second.ledger) second.validators) :
    getAllAccounts first.ledger = getAllAccounts second.ledger ∧
      first.recordedValidators = second.recordedValidators := by
  rw [stateData_parts, stateData_parts] at same
  obtain ⟨accountParts, validatorParts⟩ := List.append_inj same layout.accounts
  have valid {ws : WorldState} (admitted : ws.Admitted genesis) :
      ∀ acc ∈ (getAllAccounts ws.ledger).entries,
        acc.Canonical ∧ validateAccount acc = .ok () := fun acc mem =>
    ⟨getAllAccounts_canonical mem, admitted.accounts acc mem⟩
  have recorded {ws : WorldState} (admitted : ws.Admitted genesis) :
      ∀ val ∈ ws.recordedValidators.map Prod.snd, val.Valid := by
    simp only [WorldState.recordedValidators, List.map_map, List.mem_map]
    rintro _ ⟨entry, mem, rfl⟩
    obtain ⟨-, _, _, added⟩ := admitted.validators entry mem
    exact recorded_valid (addValidator_address added)
  have accounts := accounts_readable (valid admitted) (valid admittedSecond) accountParts
  have layouts : (first.recordedValidators.map Prod.snd).map RecordedValidator.layout =
      (second.recordedValidators.map Prod.snd).map RecordedValidator.layout := by
    rw [List.map_map, List.map_map]
    exact layout.validators
  have vals := flatMap_inj_of_layout framed_validator (recorded admitted)
    (recorded admittedSecond) layouts validatorParts
  exact ⟨KeyedMap.eq_of_entries accounts, recordedValidators_of_snd admitted admittedSecond vals⟩

theorem SameLayout.of_eq (accounts : getAllAccounts first.ledger = getAllAccounts second.ledger)
    (vals : first.recordedValidators = second.recordedValidators) : SameLayout first second :=
  ⟨by rw [WorldState.accountPart, WorldState.accountPart, accounts], by rw [vals]⟩

/-- Under the canonical encoding equal roots mean equal states as far as the two can be read in
step. -/
theorem root_commits_iff_same_layout (cfg : NodeConfig) (admitted : first.Admitted genesis)
    (admittedSecond : second.Admitted genesis)
    (version : desiredStateRootEncodingVersionForHeight cfg first first.height = 2)
    (versionSecond : desiredStateRootEncodingVersionForHeight cfg second second.height = 2)
    (collisionFree : Function.Injective cfg.keccak256) :
    ((updateStateRoot cfg first).stateRoot = (updateStateRoot cfg second).stateRoot →
      getAllAccounts first.ledger = getAllAccounts second.ledger ∧
        first.recordedValidators = second.recordedValidators) ↔
    ((updateStateRoot cfg first).stateRoot = (updateStateRoot cfg second).stateRoot →
      SameLayout first second) := by
  refine imp_congr_right fun sameRoot => ?_
  have same : stateData 2 (getAllAccounts first.ledger) first.validators =
      stateData 2 (getAllAccounts second.ledger) second.validators := by
    simp only [updateStateRoot, version, versionSecond, rootOf] at sameRoot
    exact collisionFree (hexBytes_injective sameRoot)
  constructor
  · rintro ⟨accounts, vals⟩
    exact .of_eq accounts vals
  · exact fun layout => stateData_readable admitted admittedSecond layout same

end Commitment

def sampleKeyed (digit : Byte) (pubkey : Bytes) : Address × Validator :=
  (sampleAddress digit, {
    address := sampleAddress digit
    pubkey := pubkey
    stake := [5]
    selfStake := [5]
    delegatedStake := []
    delegators := KeyedMap.empty
    active := true
    jailUntil := 0 })

def sampleRegistered (vals : List (Address × Validator)) : WorldState :=
  { sampleWorld [] with validators := vals.foldl KeyedMap.insert KeyedMap.empty }

def sampleMinimum : GenesisConfig := ⟨[], 0, 1⟩

def sampleLongKey : Bytes := [2, 0, 1, 5, 1] ++ sampleAddress 98 ++ [3]

theorem sampleKeyed_added {digit : Byte} {pubkey : Bytes}
    (address : validateAddress (sampleAddress digit) = .ok ()) (key : pubkey ≠ []) :
    ∃ after, addValidator sampleMinimum (sampleKeyed digit pubkey).2 (sampleWorld []) = .ok () after := by
  have empty : (sampleWorld []).validators.find? (sampleAddress digit) = none := rfl
  have stake : ¬ (parseBigInt [5] : Int) < 1 := by decide
  simp only [addValidator, sampleKeyed, sampleMinimum, address, key, stake, empty, if_false,
    Option.isSome_none, Bool.false_eq_true]
  exact ⟨_, if_neg (by simp [sampleAddress])⟩

theorem sampleRegistered_admitted {vals : List (Address × Validator)}
    (listed : (sampleRegistered vals).validators.entries = vals)
    (keyed : ∀ entry ∈ vals, ∃ digit pubkey, entry = sampleKeyed digit pubkey ∧
      validateAddress (sampleAddress digit) = .ok () ∧ pubkey ≠ []) :
    (sampleRegistered vals).Admitted sampleMinimum := by
  refine ⟨fun acc mem => absurd mem List.not_mem_nil, fun entry mem => ?_⟩
  rw [listed] at mem
  obtain ⟨_, _, rfl, address, key⟩ := keyed entry mem
  obtain ⟨after, added⟩ := sampleKeyed_added address key
  exact ⟨rfl, _, after, added⟩

/-- One validator whose key holds the serialisation of another has the root of the two. -/
theorem a_key_hides_a_validator :
    (sampleRegistered [sampleKeyed 97 [2], sampleKeyed 98 [3]]).Admitted sampleMinimum ∧
      (sampleRegistered [sampleKeyed 97 sampleLongKey]).Admitted sampleMinimum ∧
      Function.Injective sampleConfig.keccak256 ∧ (updateStateRoot sampleConfig
          (sampleRegistered [sampleKeyed 97 [2], sampleKeyed 98 [3]])).stateRootEncodingVersion = 2 ∧
      (updateStateRoot sampleConfig
          (sampleRegistered [sampleKeyed 97 [2], sampleKeyed 98 [3]])).stateRoot =
        (updateStateRoot sampleConfig (sampleRegistered [sampleKeyed 97 sampleLongKey])).stateRoot ∧
      (sampleRegistered [sampleKeyed 97 [2], sampleKeyed 98 [3]]).recordedValidators ≠
        (sampleRegistered [sampleKeyed 97 sampleLongKey]).recordedValidators := by
  refine ⟨sampleRegistered_admitted rfl ?_, sampleRegistered_admitted rfl ?_,
    Function.injective_id, rfl, ?_, ?_⟩
  · intro entry mem
    rcases List.mem_pair.mp mem with rfl | rfl
    · exact ⟨97, [2], rfl, rfl, by decide⟩
    · exact ⟨98, [3], rfl, rfl, by decide⟩
  · intro entry mem
    rw [List.mem_singleton.mp mem]
    exact ⟨97, sampleLongKey, rfl, rfl, by decide⟩
  · have data : stateData 2 (getAllAccounts (sampleRegistered
        [sampleKeyed 97 [2], sampleKeyed 98 [3]]).ledger)
          (sampleRegistered [sampleKeyed 97 [2], sampleKeyed 98 [3]]).validators =
        stateData 2 (getAllAccounts (sampleRegistered [sampleKeyed 97 sampleLongKey]).ledger)
          (sampleRegistered [sampleKeyed 97 sampleLongKey]).validators := by decide +kernel
    exact congrArg hexBytes data
  · intro same
    exact absurd (congrArg List.length same) (by decide)

theorem equally_long_keys_have_their_own_root :
    (updateStateRoot sampleConfig (sampleRegistered [sampleKeyed 97 [2]])).stateRoot ≠
      (updateStateRoot sampleConfig (sampleRegistered [sampleKeyed 97 [3]])).stateRoot := by
  have admitted (pubkey : Bytes) (key : pubkey ≠ []) :
      (sampleRegistered [sampleKeyed 97 pubkey]).Admitted sampleMinimum := by
    refine sampleRegistered_admitted rfl fun entry mem => ?_
    rw [List.mem_singleton.mp mem]
    exact ⟨97, pubkey, rfl, rfl, key⟩
  intro same
  have equal := (root_commits_iff_same_layout sampleConfig (admitted [2] (by decide))
    (admitted [3] (by decide)) rfl rfl Function.injective_id).mpr (fun _ => ⟨rfl, rfl⟩) same
  exact absurd equal.2 (by decide)

end Thrylos
