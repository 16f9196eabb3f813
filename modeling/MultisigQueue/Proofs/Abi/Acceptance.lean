/-
Module: MultisigQueue.Proofs.Abi.Acceptance
Purpose: Which arguments contract functions accept, and the normal form in which they come back.
Main exports:
  AbiType.accept?_array, AbiType.normal, AbiType.present_of_accept?, AbiType.accept?_present,
  AbiFunction.encode_eq_ok_iff, AbiFunction.roundTrip
-/
import Mathlib.Data.List.Forall2
import MultisigQueue.Proofs.Abi.RoundTrip
import MultisigQueue.Proofs.Text.Hex

namespace MultisigQueue

/-!
An argument may be spelled in several ways, and a typed value has one spelling in which it is shown.
The normal form is said on spellings alone, by recursion on the type. What is shown of an accepted
argument is its normal form, and the normal form of a value is accepted as the value, so a trip
through contract data changes nothing but the spelling. All of this holds by either rule for the
case of the letters in an address.
-/

variable {rule : Address.CaseRule}

/-- A function goes through a list exactly if it goes through for each item. -/
theorem mapM_eq_some_iff {α β : Type} {f : α → Option β} {l : List α} {results : List β} :
    l.mapM f = some results ↔ List.Forall₂ (fun a b => f a = some b) l results := by
  induction l generalizing results with
  | nil => cases results <;> simp
  | cons a rest ih =>
      simp only [List.mapM_cons, Option.bind_eq_bind, Option.bind_eq_some_iff, ih]
      constructor
      · rintro ⟨b, first, others, later, same⟩
        cases same
        exact .cons first later
      · intro each
        cases each with
        | cons first later => exact ⟨_, first, _, later, rfl⟩

namespace AbiType

@[simp] theorem accept?_address (a : Address) : accept? rule .address (.bytes a.bytes) = some a :=
  FixedBytes.ofBytes?_bytes a

@[simp] theorem accept?_uint {bits : Nat} (n : Fin (2 ^ bits)) :
    accept? rule (.uint bits) (.int n.val) = some n := by
  have fits : (0 : Int) ≤ n.val ∧ (n.val : Int) < 2 ^ bits := by
    refine ⟨Int.natCast_nonneg _, ?_⟩
    exact_mod_cast n.isLt
  exact dif_pos fits

@[simp] theorem accept?_bytes32 (w : Word) : accept? rule .bytes32 (.bytes w.bytes) = some w := by
  have full : Bytes.padRight 32 w.bytes = w.bytes := by
    simp [Bytes.padRight, Bytes.zeros, w.length_eq]
  change FixedBytes.ofBytes? 32 (Bytes.padRight 32 w.bytes) = some w
  rw [full]
  exact FixedBytes.ofBytes?_bytes w

@[simp] theorem accept?_bytes (b : Bytes) : accept? rule .bytes (.bytes b) = some b := rfl

@[simp] theorem accept?_bool (b : Bool) : accept? rule .bool (.bool b) = some b := rfl

theorem acceptAll?_nil : acceptAll? rule [] [] = some () := rfl

theorem acceptAll?_cons {t : AbiType} {ts : List AbiType} {v : Value} {vs : List Value}
    {first : t.Val} {rest : Vals ts} (accepted : accept? rule t v = some first)
    (later : acceptAll? rule ts vs = some rest) :
    acceptAll? rule (t :: ts) (v :: vs) = some (first, rest) := by
  change ((accept? rule t v).bind fun value =>
    (acceptAll? rule ts vs).bind fun rest => some (value, rest)) = some (first, rest)
  rw [accepted, later]
  rfl

/-- A list of arguments is accepted for an array if each of them is accepted for its items. -/
theorem accept?_array {α : Type} {item : AbiType} {value : α → item.Val} {shown : α → Value}
    (each : ∀ a, accept? rule item (shown a) = some (value a)) (l : List α) :
    accept? rule (.array item) (.list (l.map shown)) = some (l.map value) := by
  change (l.map shown).mapM (accept? rule item) = some (l.map value)
  induction l with
  | nil => rfl
  | cons a rest ih => simp [each, ih]

mutual

/-- The normal form of an argument for a type: an address in lowercase digits, a string of 32 octets
filled up with zeros, and all else as it is. -/
def normal : AbiType → Value → Value
  | .address, .bytes b => .text (Hex.ofBytes b)
  | .address, .text s => .text (Address.normalText s)
  | .bytes32, .bytes b => .bytes (Bytes.padRight 32 b)
  | .array item, .list values => .list (List.map (normal item) values)
  | .tuple fields, .list values => .list (normalAll fields values)
  | _, v => v

/-- The normal forms of as many arguments as there are types. -/
def normalAll : List AbiType → List Value → List Value
  | t :: ts, v :: vs => normal t v :: normalAll ts vs
  | _, _ => []

end

/-- The number that is accepted is the one that is given. -/
theorem val_of_accept?_uint {bits : Nat} {given : Int} {n : Fin (2 ^ bits)}
    (accepted : accept? rule (.uint bits) (.int given) = some n) : (n.val : Int) = given := by
  by_cases fits : 0 ≤ given ∧ given < 2 ^ bits
  · have same : some _ = some n := (dif_pos fits).symm.trans accepted
    rw [← Option.some.inj same]
    exact Int.toNat_of_nonneg fits.1
  · cases (dif_neg fits).symm.trans accepted

mutual

/-- What is accepted is shown in its normal form. -/
theorem present_of_accept? : (t : AbiType) → (v : Value) → (x : t.Val) →
    accept? rule t v = some x → present t x = normal t v
  | .address, v, a, accepted => by
      cases v with
      | bytes b =>
          have same : FixedBytes.bytes a = b := FixedBytes.bytes_of_ofBytes? accepted
          exact congrArg (fun b => Value.text (Hex.ofBytes b)) same
      | text s =>
          have read := (Address.ofCased?_eq_some_iff.1 accepted).1
          exact congrArg Value.text (Address.lowercase_of_ofText? read)
      | _ => cases accepted
  | .bool, v, x, accepted => by
      cases v with
      | bool b =>
          cases accepted
          rfl
      | _ => cases accepted
  | .bytes, v, x, accepted => by
      cases v with
      | bytes b =>
          cases accepted
          rfl
      | _ => cases accepted
  | .bytes32, v, w, accepted => by
      cases v with
      | bytes b => exact congrArg Value.bytes (FixedBytes.bytes_of_ofBytes? accepted)
      | _ => cases accepted
  | .uint bits, v, n, accepted => by
      cases v with
      | int given =>
          exact congrArg Value.int (val_of_accept?_uint accepted)
      | _ => cases accepted
  | .array item, v, items, accepted => by
      cases v with
      | list values =>
          have each : List.Forall₂ (fun v x => accept? rule item v = some x) values items :=
            mapM_eq_some_iff.1 accepted
          have shown : List.map (present item) items = List.map (normal item) values := by
            clear accepted
            induction each with
            | nil => rfl
            | cons first _ ih =>
                rw [List.map_cons, List.map_cons, present_of_accept? item _ _ first, ih]
          exact congrArg Value.list shown
      | _ => cases accepted
  | .tuple fields, v, xs, accepted => by
      cases v with
      | list values =>
          exact congrArg Value.list (presentAll_of_acceptAll? fields values xs accepted)
      | _ => cases accepted

theorem presentAll_of_acceptAll? : (ts : List AbiType) → (vs : List Value) → (xs : Vals ts) →
    acceptAll? rule ts vs = some xs → presentAll ts xs = normalAll ts vs
  | [], [], _, _ => rfl
  | [], _ :: _, _, accepted => by cases accepted
  | _ :: _, [], _, accepted => by cases accepted
  | t :: ts, v :: vs, xs, accepted => by
      obtain ⟨x, first, accepted⟩ := Option.bind_eq_some_iff.1 accepted
      obtain ⟨others, later, same⟩ := Option.bind_eq_some_iff.1 accepted
      cases same
      change present t x :: presentAll ts others = normal t v :: normalAll ts vs
      rw [present_of_accept? t v x first, presentAll_of_acceptAll? ts vs others later]

end

mutual

/-- The normal form of a value is accepted as the value. -/
theorem accept?_present : (t : AbiType) → (x : t.Val) → accept? rule t (present t x) = some x
  | .address, a => Address.ofCased?_lowercase rule a
  | .bool, _ | .bytes, _ => rfl
  | .bytes32, w => accept?_bytes32 w
  | .uint _, n => accept?_uint n
  | .array item, items => by
      have each := accept?_array (accept?_present item) items
      exact each.trans (congrArg some (List.map_id items))
  | .tuple fields, xs => acceptAll?_presentAll fields xs

theorem acceptAll?_presentAll : (ts : List AbiType) → (xs : Vals ts) →
    acceptAll? rule ts (presentAll ts xs) = some xs
  | [], _ => rfl
  | t :: ts, (x, others) => acceptAll?_cons (accept?_present t x) (acceptAll?_presentAll ts others)

end

/-- As many values are shown as there are types. -/
theorem length_presentAll : (ts : List AbiType) → (xs : Vals ts) →
    (presentAll ts xs).length = ts.length
  | [], _ => rfl
  | _ :: ts, (_, others) => congrArg (· + 1) (length_presentAll ts others)

end AbiType

namespace AbiFunction

variable {f : AbiFunction}

/-- Calldata is made exactly of arguments that are accepted. -/
theorem encode_eq_ok_iff {args : List Value} {data : Bytes} :
    f.encode args rule = .ok data ↔ args.length = f.inputs.length ∧
      ∃ values, AbiType.acceptAll? rule f.inputs args = some values ∧ f.calldata values = data := by
  unfold encode
  split
  · rename_i other
    simp [other]
  · rename_i asMany
    simp only [ne_eq, Decidable.not_not] at asMany
    cases accepted : AbiType.acceptAll? rule f.inputs args <;> simp [asMany]

/-- Return data is made exactly of results that are accepted. -/
theorem encodeOutput_eq_ok_iff {results : List Value} {data : Bytes} :
    f.encodeOutput results rule = .ok data ↔
      ∃ values, AbiType.acceptAll? rule f.outputs results = some values ∧
        AbiType.encodeAll f.outputs values = data := by
  unfold encodeOutput
  cases accepted : AbiType.acceptAll? rule f.outputs results <;> simp

@[simp] theorem drop_calldata (f : AbiFunction) (args : AbiType.Vals f.inputs) :
    (f.calldata args).drop 4 = AbiType.encodeAll f.inputs args := by
  rw [calldata, ← f.length_selector, List.drop_left]

/-- What is accepted as arguments or results is written in whole words and comes back in its normal
form, and what is read from any octets at all is accepted again as the same values. The one
condition is that distances within the data fit into words: where tails overlap, a short payload may
stand for values whose own data is longer than that. -/
theorem roundTrip (rule : Address.CaseRule) (inputs : AbiType.allValid f.inputs = true)
    (outputs : AbiType.allValid f.outputs = true) :
    (∀ args data, f.encode args rule = .ok data → 32 ∣ (data.drop 4).length ∧
      ((data.drop 4).length < 2 ^ (256 : Nat) →
        ∃ values, f.decodeInput data = .ok values ∧
          AbiType.presentAll f.inputs values = AbiType.normalAll f.inputs args)) ∧
    (∀ results data, f.encodeOutput results rule = .ok data → 32 ∣ data.length ∧
      (data.length < 2 ^ (256 : Nat) →
        ∃ values, f.decode data = .ok values ∧
          AbiType.presentAll f.outputs values = AbiType.normalAll f.outputs results)) ∧
    (∀ data values, f.decodeInput data = .ok values →
      ∃ again, f.encode (AbiType.presentAll f.inputs values) rule = .ok again ∧
        ((again.drop 4).length < 2 ^ (256 : Nat) → f.decodeInput again = .ok values)) ∧
    ∀ data values, f.decode data = .ok values →
      ∃ again, f.encodeOutput (AbiType.presentAll f.outputs values) rule = .ok again ∧
        (again.length < 2 ^ (256 : Nat) → f.decode again = .ok values) := by
  refine ⟨?arguments, ?results, ?calldata, ?returnData⟩
  case arguments =>
    intro args data encoded
    obtain ⟨-, values, accepted, rfl⟩ := encode_eq_ok_iff.1 encoded
    rw [drop_calldata]
    refine ⟨AbiType.dvd_length_encodeAll f.inputs values, fun short => ?_⟩
    exact ⟨values, decodeInput_calldata inputs short,
      AbiType.presentAll_of_acceptAll? f.inputs args values accepted⟩
  case results =>
    intro results data encoded
    obtain ⟨values, accepted, rfl⟩ := encodeOutput_eq_ok_iff.1 encoded
    refine ⟨AbiType.dvd_length_encodeAll f.outputs values, fun short => ?_⟩
    exact ⟨values, decode_encodeAll outputs short,
      AbiType.presentAll_of_acceptAll? f.outputs results values accepted⟩
  case calldata =>
    intro data values _
    refine ⟨f.calldata values, encode_eq_ok_iff.2 ⟨AbiType.length_presentAll f.inputs values,
      values, AbiType.acceptAll?_presentAll f.inputs values, rfl⟩, ?_⟩
    intro short
    rw [drop_calldata] at short
    exact decodeInput_calldata inputs short
  case returnData =>
    intro data values _
    refine ⟨AbiType.encodeAll f.outputs values, encodeOutput_eq_ok_iff.2
      ⟨values, AbiType.acceptAll?_presentAll f.outputs values, rfl⟩, ?_⟩
    exact fun short => decode_encodeAll outputs short

/-- Two values that share their octets in a payload of 160 take up 192 in their own data. -/
example : (AbiType.decodeAll? [.array .bytes] ([32, 2, 64, 64, 0].flatMap Abi.wordBytes)).map
    (fun values => (List.length values.1, (AbiType.encodeAll [.array .bytes] values).length)) =
      some (2, 192) := by
  decide +kernel

/-- A function of a list of pairs and a filled-up string, with a list of numbers as its result. -/
def sample : AbiFunction where
  name := "file"
  inputs := [.array (.tuple [.address, .bytes]), .bytes32]
  outputs := [.array (.uint 8)]

/-- An address in capitals without a mark, one in octets, and a string to be filled up. -/
def sampleArguments : List Value :=
  [.list [.list [.text "ABCDEF0000000000000000000000000000000001", .bytes [1, 2]],
    .list [.bytes (Address.ofNat 7).bytes, .bytes []]], .bytes [9]]

/-- The values that these arguments stand for. -/
def sampleValues : AbiType.Vals sample.inputs :=
  ([(Address.ofNat 0xabcdef0000000000000000000000000000000001, [1, 2], ()),
    (Address.ofNat 7, [], ())], FixedBytes.ofNat 32 (9 * 256 ^ (31 : Nat)), ())

/-- The arguments come back in normal form. -/
theorem roundTrip_sample :
    ∃ data values, sample.encode sampleArguments = .ok data ∧
      sample.decodeInput data = .ok values ∧
      AbiType.presentAll sample.inputs values =
        [.list [.list [.text "0xabcdef0000000000000000000000000000000001", .bytes [1, 2]],
          .list [.text "0x0000000000000000000000000000000000000007", .bytes []]],
          .bytes (9 :: Bytes.zeros 31)] := by
  obtain ⟨arguments, -⟩ := roundTrip (f := sample) .checked rfl rfl
  have encoded : sample.encode sampleArguments = .ok (sample.calldata sampleValues) := rfl
  have short : ((sample.calldata sampleValues).drop 4).length < 2 ^ (256 : Nat) := by
    rw [drop_calldata]
    decide +kernel
  obtain ⟨values, decoded, shown⟩ := (arguments _ _ encoded).2 short
  exact ⟨_, values, encoded, decoded, shown⟩

end AbiFunction

end MultisigQueue
