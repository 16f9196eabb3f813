/-
Module: MultisigQueue.Proofs.Settings
Purpose: Changing some settings: what it changes, what it leaves, and two changes after another.
Main exports:
  Settings.Field.reading, Settings.ofValues_eq_ok_iff, Settings.ofValues_congr,
  Settings.Field.Admits, Settings.Valid, Settings.valid_iff, Settings.defaults,
  Settings.Overrides.Known, Settings.Overrides.updated, Settings.withOverrides_lawful
-/
import Mathlib.Data.List.DropRight
import MultisigQueue.Proofs.Query
import MultisigQueue.Proofs.Text.Hex
import MultisigQueue.Settings.Source

namespace MultisigQueue

/-!
Each setting is read on its own, and what it comes to is read as itself again. So changing some
settings can read all of them again and still leave the others alone, and a second change finds
every setting as if both had been made at once.
-/

/-- A text without the blanks around it has none around it. -/
theorem Text.trim_trim (blank : Char → Bool) (chars : List Char) :
    trim blank (trim blank chars) = trim blank chars := by
  have front : (trim blank chars).dropWhile blank = trim blank chars := by
    obtain ⟨behind, whole⟩ : trim blank chars <+: chars.dropWhile blank :=
      List.rdropWhile_prefix blank _
    rw [List.dropWhile_eq_self_iff]
    intro some
    have first := List.dropWhile_get_zero_not (p := blank) chars
      (by rw [← whole, List.length_append]; omega)
    simpa [← whole, List.getElem_append_left some] using first
  rw [trim, front]
  exact List.rdropWhile_idempotent blank _

namespace Settings

open Setting

namespace Field

/-- What a setting comes to for a value, as a value again. -/
def reading (f : Field) (v : Value) : Reading Value :=
  match f with
  | rpcUrl => (readUrl v).map .text
  | chainId => (readChainId v).map .int
  | address | multicallAddress => (readAddress v).map fun a => .text a.checksummed
  | pageSize => (readPageSize v).map .int
  | maxNonces => (readMaxNonces v).map .int
  | requestTimeout => (readTimeout v).map .real
  | maxRetries => (readMaxRetries v).map .int
  | userAgent => (text v).map .text

end Field

theorem cause?_map {α β : Type} (r : Reading α) (f : α → β) : cause? (r.map f) = cause? r := by
  cases r <;> rfl

theorem Field.refusal?_eq (f : Field) (v : Value) : f.refusal? v = cause? (f.reading v) := by
  cases f <;> exact (cause?_map _ _).symm

theorem ok_of_map_ok {ε α β : Type} {r : Except ε α} {f : α → β} {a : α}
    (injective : ∀ {b c}, f b = f c → b = c) (come : r.map f = .ok (f a)) : r = .ok a := by
  obtain ⟨b, come, same⟩ := map_eq_ok_iff.1 come
  rw [come, injective same]

theorem text_checksummed_injective {a b : Address}
    (same : Value.text a.checksummed = .text b.checksummed) : a = b :=
  Address.checksummed_injective (Value.text.inj same)

/-- All settings are read exactly if each comes to what it is afterwards. -/
theorem read_eq_ok_iff {given : Field → Value} {s : Settings} :
    read given = .ok s ↔ ∀ f : Field, f.reading (given f) = .ok (s.value f) := by
  constructor
  · intro all
    simp only [read, bind_eq_ok_iff] at all
    obtain ⟨_, rpcUrl, _, chainId, _, address, _, multicallAddress, _, pageSize, _, maxNonces, _,
      requestTimeout, _, maxRetries, _, userAgent, same⟩ := all
    cases same
    intro f
    cases f <;> simp only [Field.reading, *] <;> rfl
  · intro each
    have rpcUrl := ok_of_map_ok Value.text.inj (each .rpcUrl)
    have chainId := ok_of_map_ok Value.int.inj (each .chainId)
    have address := ok_of_map_ok text_checksummed_injective (each .address)
    have multicallAddress := ok_of_map_ok text_checksummed_injective (each .multicallAddress)
    have pageSize := ok_of_map_ok Value.int.inj (each .pageSize)
    have maxNonces := ok_of_map_ok Value.int.inj (each .maxNonces)
    have requestTimeout := ok_of_map_ok Value.real.inj (each .requestTimeout)
    have maxRetries := ok_of_map_ok Value.int.inj (each .maxRetries)
    have userAgent := ok_of_map_ok Value.text.inj (each .userAgent)
    simp only [read, rpcUrl, chainId, address, multicallAddress, pageSize, maxNonces,
      requestTimeout, maxRetries, userAgent]
    rfl

theorem ofValues_eq_ok_iff {given : Field → Value} {s : Settings} :
    ofValues given = .ok s ↔ ∀ f : Field, f.reading (given f) = .ok (s.value f) := by
  rw [← read_eq_ok_iff, ofValues]
  cases read given <;> simp

/-- Values that each setting reads make settings. -/
theorem exists_ofValues {given : Field → Value}
    (each : ∀ f : Field, ∃ w, f.reading (given f) = .ok w) : ∃ s, ofValues given = .ok s := by
  have reads {α : Type} {r : Reading α} {shown : α → Value} (come : ∃ w, r.map shown = .ok w) :
      ∃ a, r = .ok a := by
    obtain ⟨w, come⟩ := come
    obtain ⟨a, read, -⟩ := map_eq_ok_iff.1 come
    exact ⟨a, read⟩
  obtain ⟨_, rpcUrl⟩ := reads (each .rpcUrl)
  obtain ⟨_, chainId⟩ := reads (each .chainId)
  obtain ⟨_, address⟩ := reads (each .address)
  obtain ⟨_, multicallAddress⟩ := reads (each .multicallAddress)
  obtain ⟨_, pageSize⟩ := reads (each .pageSize)
  obtain ⟨_, maxNonces⟩ := reads (each .maxNonces)
  obtain ⟨_, requestTimeout⟩ := reads (each .requestTimeout)
  obtain ⟨_, maxRetries⟩ := reads (each .maxRetries)
  obtain ⟨_, userAgent⟩ := reads (each .userAgent)
  simp only [ofValues, read, rpcUrl, chainId, address, multicallAddress, pageSize, maxNonces,
    requestTimeout, maxRetries, userAgent]
  exact ⟨_, rfl⟩

/-- Values that each setting reads alike make the same settings, or are refused alike. -/
theorem ofValues_congr {given others : Field → Value}
    (alike : ∀ f : Field, f.reading (given f) = f.reading (others f)) :
    ofValues given = ofValues others := by
  have refused : failures given = failures others := by
    simp only [failures, Field.refusal?_eq, alike]
  cases made : read given with
  | ok s =>
      have again : read others = .ok s :=
        read_eq_ok_iff.2 fun f => (alike f).symm.trans (read_eq_ok_iff.1 made f)
      rw [ofValues, ofValues, made, again]
  | error first =>
      cases other : read others with
      | ok s =>
          rw [read_eq_ok_iff.2 fun f => (alike f).trans (read_eq_ok_iff.1 other f)] at made
          cases made
      | error second => rw [ofValues, ofValues, made, other, refused]

/-! ### What the settings admit -/

/-- The values that a setting can have once it has been read. -/
def Field.Admits : Field → Value → Prop
  | rpcUrl, .text url => hasScheme url.toList ∧ Text.trim Text.isBlank url.toList = url.toList
  | chainId, .int _ => True
  | address, .text spelled => ∃ a : Address, a.checksummed = spelled
  | multicallAddress, .text spelled => ∃ a : Address, a.checksummed = spelled
  | pageSize, .int n => 0 < n ∧ n ≤ 10000
  | maxNonces, .int n => 1 ≤ n ∧ n ≤ 1000
  | requestTimeout, .real x => 0.0 < x
  | maxRetries, .int n => 0 ≤ n ∧ n ≤ 10
  | userAgent, .text _ => True
  | _, _ => False

/-- Whether every setting has a value that it admits. -/
def Valid (s : Settings) : Prop := ∀ f : Field, f.Admits (s.value f)

theorem atMost_eq_ok_iff {bound n m : Int} : atMost bound n = .ok m ↔ n ≤ bound ∧ n = m := by
  by_cases within : n ≤ bound <;> simp [atMost, within]

theorem atLeast_eq_ok_iff {bound n m : Int} : atLeast bound n = .ok m ↔ bound ≤ n ∧ n = m := by
  by_cases within : bound ≤ n <;> simp [atLeast, within]

theorem moreThan_eq_ok_iff {bound n m : Int} : moreThan bound n = .ok m ↔ bound < n ∧ n = m := by
  by_cases within : bound < n <;> simp [moreThan, within]

theorem positive_eq_ok_iff {x y : Float} : positive x = .ok y ↔ 0.0 < x ∧ x = y := by
  by_cases within : 0.0 < x <;> simp [positive, within]

/-- An integer between two bounds is read, whichever way the lower one is checked. -/
theorem between_eq_ok_iff {check : Int → Reading Int} {above : Int → Prop}
    (checks : ∀ {n m}, check n = .ok m ↔ above n ∧ n = m) {bound n : Int} {v : Value} :
    (do atMost bound (← check (← integer v))) = .ok n ↔
      integer v = .ok n ∧ above n ∧ n ≤ bound := by
  simp only [bind_eq_ok_iff, checks, atMost_eq_ok_iff]
  constructor
  · rintro ⟨_, read, _, ⟨isAbove, rfl⟩, within, rfl⟩
    exact ⟨read, isAbove, within⟩
  · rintro ⟨read, isAbove, within⟩
    exact ⟨n, read, n, ⟨isAbove, rfl⟩, within, rfl⟩

theorem readPageSize_eq_ok_iff {v : Value} {n : Int} :
    readPageSize v = .ok n ↔ integer v = .ok n ∧ 0 < n ∧ n ≤ 10000 :=
  between_eq_ok_iff moreThan_eq_ok_iff

theorem readMaxNonces_eq_ok_iff {v : Value} {n : Int} :
    readMaxNonces v = .ok n ↔ integer v = .ok n ∧ 1 ≤ n ∧ n ≤ 1000 :=
  between_eq_ok_iff atLeast_eq_ok_iff

theorem readMaxRetries_eq_ok_iff {v : Value} {n : Int} :
    readMaxRetries v = .ok n ↔ integer v = .ok n ∧ 0 ≤ n ∧ n ≤ 10 :=
  between_eq_ok_iff atLeast_eq_ok_iff

theorem readTimeout_eq_ok_iff {v : Value} {x : Float} :
    readTimeout v = .ok x ↔ real v = .ok x ∧ 0.0 < x := by
  simp only [readTimeout, bind_eq_ok_iff, positive_eq_ok_iff]
  constructor
  · rintro ⟨_, read, isPositive, rfl⟩
    exact ⟨read, isPositive⟩
  · rintro ⟨read, isPositive⟩
    exact ⟨x, read, isPositive, rfl⟩

theorem readUrl_eq_ok_iff {v : Value} {url : String} :
    readUrl v = .ok url ↔ hasScheme url.toList ∧
      ∃ given, text v = .ok given ∧ Text.trim Text.isBlank given.toList = url.toList := by
  rw [readUrl, bind_eq_ok_iff]
  constructor
  · rintro ⟨given, read, made⟩
    dsimp only at made
    split at made
    · rename_i scheme
      cases made
      rw [String.toList_ofList]
      exact ⟨scheme, given, read, rfl⟩
    · cases made
  · rintro ⟨scheme, given, read, trimmed⟩
    refine ⟨given, read, ?_⟩
    dsimp only
    rw [trimmed, if_pos scheme, String.ofList_toList]
    rfl

theorem readAddress_checksummed (a : Address) : readAddress (.text a.checksummed) = .ok a := by
  simp only [readAddress, text, bind, Except.bind, Address.ofText?_checksummed]
  rfl

/-- What a setting comes to is admitted. -/
theorem Field.admits_of_reading {f : Field} {v w : Value} (come : f.reading v = .ok w) :
    f.Admits w := by
  cases f with
  | rpcUrl =>
      obtain ⟨url, read, rfl⟩ := map_eq_ok_iff.1 come
      obtain ⟨scheme, given, -, trimmed⟩ := readUrl_eq_ok_iff.1 read
      exact ⟨scheme, by rw [← trimmed, Text.trim_trim]⟩
  | chainId =>
      obtain ⟨n, -, rfl⟩ := map_eq_ok_iff.1 come
      exact trivial
  | address | multicallAddress =>
      obtain ⟨a, -, rfl⟩ := map_eq_ok_iff.1 come
      exact ⟨a, rfl⟩
  | pageSize =>
      obtain ⟨n, read, rfl⟩ := map_eq_ok_iff.1 come
      exact (readPageSize_eq_ok_iff.1 read).2
  | maxNonces =>
      obtain ⟨n, read, rfl⟩ := map_eq_ok_iff.1 come
      exact (readMaxNonces_eq_ok_iff.1 read).2
  | requestTimeout =>
      obtain ⟨x, read, rfl⟩ := map_eq_ok_iff.1 come
      exact (readTimeout_eq_ok_iff.1 read).2
  | maxRetries =>
      obtain ⟨n, read, rfl⟩ := map_eq_ok_iff.1 come
      exact (readMaxRetries_eq_ok_iff.1 read).2
  | userAgent =>
      obtain ⟨agent, -, rfl⟩ := map_eq_ok_iff.1 come
      exact trivial

/-- What a setting admits it reads as it is. -/
theorem Field.reading_of_admits {f : Field} {w : Value} (admitted : f.Admits w) :
    f.reading w = .ok w := by
  cases f with
  | rpcUrl =>
      cases w with
      | text url =>
          obtain ⟨scheme, trimmed⟩ := admitted
          rw [reading, readUrl_eq_ok_iff.2 ⟨scheme, url, rfl, trimmed⟩]
          rfl
      | _ => cases admitted
  | address | multicallAddress =>
      cases w with
      | text spelled =>
          obtain ⟨a, rfl⟩ := admitted
          rw [reading, readAddress_checksummed]
          rfl
      | _ => cases admitted
  | pageSize =>
      cases w with
      | int n =>
          rw [reading, readPageSize_eq_ok_iff.2 ⟨rfl, admitted⟩]
          rfl
      | _ => cases admitted
  | maxNonces =>
      cases w with
      | int n =>
          rw [reading, readMaxNonces_eq_ok_iff.2 ⟨rfl, admitted⟩]
          rfl
      | _ => cases admitted
  | requestTimeout =>
      cases w with
      | real x =>
          rw [reading, readTimeout_eq_ok_iff.2 ⟨rfl, admitted⟩]
          rfl
      | _ => cases admitted
  | maxRetries =>
      cases w with
      | int n =>
          rw [reading, readMaxRetries_eq_ok_iff.2 ⟨rfl, admitted⟩]
          rfl
      | _ => cases admitted
  | chainId =>
      cases w with
      | int n => rfl
      | _ => cases admitted
  | userAgent =>
      cases w with
      | text agent => rfl
      | _ => cases admitted

/-- Settings are valid exactly if they are made again from their own values. -/
theorem valid_iff {s : Settings} : s.Valid ↔ ofValues s.value = .ok s := by
  rw [ofValues_eq_ok_iff]
  exact forall_congr' fun f => ⟨Field.reading_of_admits, Field.admits_of_reading⟩

/-- All settings that are made are valid. -/
theorem valid_of_ofValues {given : Field → Value} {s : Settings} (made : ofValues given = .ok s) :
    s.Valid :=
  fun f => Field.admits_of_reading (ofValues_eq_ok_iff.1 made f)

/-- Every default is admitted. -/
theorem Field.admits_default (f : Field) : f.Admits f.default := by
  cases f with
  | rpcUrl => exact ⟨by decide, by decide⟩
  | chainId | userAgent => exact trivial
  | address | multicallAddress => exact ⟨_, rfl⟩
  | pageSize | maxNonces | maxRetries => exact ⟨by decide, by decide⟩
  | requestTimeout =>
      change (0.0 : Float) < 10.0
      decide

/-- The settings of a client that is given none. -/
def defaults : Settings where
  rpcUrl := "https://rpc.gnosischain.com"
  chainId := 100
  address := Store.defaultAddress
  multicallAddress := Batch.defaultAddress
  pageSize := 100
  maxNonces := 5
  requestTimeout := 10.0
  maxRetries := 0
  userAgent := "harbour-sdk-py/" ++ version

theorem value_defaults (f : Field) : defaults.value f = f.default := by
  cases f <;> rfl

theorem valid_defaults : defaults.Valid := fun f => by
  rw [value_defaults]
  exact f.admits_default

/-! ### Changing some of them -/

/-- The values of all settings under their names. -/
def fields (s : Settings) : Overrides := Field.all.map fun f => (f.name, s.value f)

namespace Overrides

/-- Whether there are settings of all these names. -/
def Known (given : Overrides) : Prop := ∀ entry ∈ given, ∃ f : Field, f.name = entry.1

/-- Named values with others put in the place of those of the same names. -/
def updated (given others : Overrides) : Overrides := others ++ given

theorem field?_updated (given others : Overrides) (key : String) :
    Value.field? (given.updated others) key =
      (Value.field? others key).or (Value.field? given key) := by
  rw [Value.field?, updated, List.find?_append, Option.map_or]
  rfl

theorem Known.updated {given others : Overrides} (known : given.Known)
    (othersKnown : others.Known) : (given.updated others).Known := by
  intro entry member
  rcases List.mem_append.1 member with other | first
  · exact othersKnown entry other
  · exact known entry first

theorem known_named (given : List (Field × Value)) :
    Known (given.map fun entry => (entry.1.name, entry.2)) := by
  intro entry member
  obtain ⟨⟨f, v⟩, -, rfl⟩ := List.mem_map.1 member
  exact ⟨f, rfl⟩

/-- Among names of settings there is none that is not one. -/
theorem Known.unknownNames {given : Overrides} (known : given.Known) : unknownNames given = [] := by
  have none : (given.map Prod.fst).filter (fun name => !Field.all.any (·.name == name)) = [] := by
    rw [List.filter_eq_nil_iff]
    intro name member
    obtain ⟨entry, given, rfl⟩ := List.mem_map.1 member
    obtain ⟨f, named⟩ := known entry given
    have isOne : Field.all.any (·.name == entry.1) :=
      List.any_eq_true.2 ⟨f, by cases f <;> decide, by rw [named]; exact beq_self_eq_true _⟩
    rw [isOne]
    decide
  rw [Settings.unknownNames, none]
  simp

end Overrides

theorem field?_fields (s : Settings) (f : Field) :
    Value.field? s.fields f.name = some (s.value f) := by
  cases f <;> simp [fields, Field.all, Field.name, Value.field?]

/-- The value that each setting is read from in a change. -/
def changed (s : Settings) (given : Overrides) (f : Field) : Value :=
  (Value.field? given f.name).getD (s.value f)

/-- With a value given for every setting, the surroundings do not matter. -/
theorem load_updated (source : Source) (s : Settings) (given : Overrides) :
    load source (s.fields.updated given) = ofValues (s.changed given) := by
  refine congrArg ofValues (funext fun f => ?_)
  rw [Overrides.field?_updated, field?_fields, changed]
  cases Value.field? given f.name <;> rfl

theorem withOverrides_eq {given : Overrides} (known : given.Known) (s : Settings) :
    s.withOverrides given = (ofValues (s.changed given)).mapError .invalid := by
  have read : ofValues (fun f => (Value.field? given f.name).getD (s.value f)) =
      ofValues (s.changed given) := rfl
  simp only [withOverrides, known.unknownNames, read]
  cases ofValues (s.changed given) <;> rfl

theorem withOverrides_eq_ok_iff {given : Overrides} (known : given.Known) {s t : Settings} :
    s.withOverrides given = .ok t ↔
      ∀ f : Field, f.reading (s.changed given f) = .ok (t.value f) := by
  rw [withOverrides_eq known, mapError_eq_ok_iff, ofValues_eq_ok_iff]

/-- A setting comes to the same in all settings that are made with one value for it. -/
theorem value_of_load {source : Source} {given : Overrides} {u : Settings} {f : Field} {v w : Value}
    (directly : Value.field? given f.name = some v) (made : load source given = .ok u)
    (come : f.reading v = .ok w) : u.value f = w := by
  have read := ofValues_eq_ok_iff.1 made f
  rw [directly] at read
  exact Except.ok.inj (read.symm.trans come)

theorem Field.name_injective : ∀ {f g : Field}, f.name = g.name → f = g := by
  intro f g same
  cases f <;> cases g <;> first | rfl | exact absurd same (by decide)

/-- A value that a setting reads makes settings, with the defaults for all others. -/
theorem exists_load_of_reading {f : Field} {v w : Value} (come : f.reading v = .ok w) :
    ∃ u, load {} [(f.name, v)] = .ok u := by
  refine exists_ofValues fun g => ?_
  by_cases same : f = g
  · subst same
    have directly : Value.field? [(f.name, v)] f.name = some v := by simp [Value.field?]
    exact ⟨w, by rw [directly]; exact come⟩
  · have absent : Value.field? [(f.name, v)] g.name = none := by
      simp only [Value.field?, Option.map_eq_none_iff, List.find?_singleton]
      exact if_neg fun named => same (Field.name_injective (eq_of_beq named))
    have bare : Source.value? {} g = none := rfl
    exact ⟨g.default, by rw [absent, bare]; exact Field.reading_of_admits g.admits_default⟩

/-- Changing some settings makes the settings that their values, updated with the changes, are read
as. The others stay, those that are given come to what they come to wherever they are given, and a
second change is as if both had been made at once. -/
theorem withOverrides_lawful {s : Settings} (valid : s.Valid) {first second : Overrides}
    (firstKnown : first.Known) (secondKnown : second.Known) :
    (∀ source, s.withOverrides first =
      (load source (s.fields.updated first)).mapError .invalid) ∧
    ∀ t, s.withOverrides first = .ok t →
      t.Valid ∧
      (∀ f : Field, Value.field? first f.name = none → t.value f = s.value f) ∧
      (∀ (f : Field) (v : Value), Value.field? first f.name = some v →
        (∃ u, load {} [(f.name, v)] = .ok u) ∧
        ∀ source given u, Value.field? given f.name = some v → load source given = .ok u →
          u.value f = t.value f) ∧
      t.withOverrides second = s.withOverrides (first.updated second) := by
  refine ⟨fun source => by rw [load_updated, withOverrides_eq firstKnown], ?_⟩
  intro t made
  have come := (withOverrides_eq_ok_iff firstKnown).1 made
  refine ⟨fun f => Field.admits_of_reading (come f), ?unchanged, ?overridden, ?composed⟩
  case unchanged =>
    intro f absent
    have same := come f
    rw [changed, absent] at same
    exact Except.ok.inj (same.symm.trans (Field.reading_of_admits (valid f)))
  case overridden =>
    intro f v given
    have read := come f
    rw [changed, given] at read
    exact ⟨exists_load_of_reading read, fun source others u directly made =>
      value_of_load directly made read⟩
  case composed =>
    rw [withOverrides_eq secondKnown, withOverrides_eq (firstKnown.updated secondKnown)]
    refine congrArg (Except.mapError ConfigError.invalid) (ofValues_congr fun f => ?_)
    rw [changed, changed, Overrides.field?_updated]
    cases Value.field? second f.name with
    | some v => rfl
    | none =>
        change f.reading (t.value f) = f.reading (s.changed first f)
        rw [come f, Field.reading_of_admits (Field.admits_of_reading (come f))]

/-- A page size given as text, and then another one together with a chain id. -/
theorem withOverrides_lawful_defaults :
    let first : Overrides := [("page_size", .text "10")]
    let second : Overrides := [("chain_id", .text " 0x5"), ("page_size", .int 20)]
    ∃ t u, defaults.withOverrides first = .ok t ∧ t.pageSize = 10 ∧ t.Valid ∧
      t.maxNonces = defaults.maxNonces ∧ t.withOverrides second = .ok u ∧
      defaults.withOverrides (first.updated second) = .ok u ∧ u.pageSize = 20 ∧ u.chainId = 5 := by
  intro first second
  have firstKnown : first.Known := Overrides.known_named [(.pageSize, .text "10")]
  have secondKnown : second.Known :=
    Overrides.known_named [(.chainId, .text " 0x5"), (.pageSize, .int 20)]
  have ten : readPageSize (.text "10") = .ok 10 := by decide +kernel
  have five : readChainId (.text " 0x5") = .ok 5 := by decide +kernel
  have made : defaults.withOverrides first = .ok { defaults with pageSize := 10 } := by
    rw [withOverrides_eq_ok_iff firstKnown]
    intro f
    cases f with
    | pageSize => exact congrArg (Except.map Value.int) ten
    | _ => exact Field.reading_of_admits (valid_defaults _)
  have both : defaults.withOverrides (first.updated second) =
      .ok { defaults with pageSize := 20, chainId := 5 } := by
    rw [withOverrides_eq_ok_iff (firstKnown.updated secondKnown)]
    intro f
    cases f with
    | pageSize => rfl
    | chainId => exact congrArg (Except.map Value.int) five
    | _ => exact Field.reading_of_admits (valid_defaults _)
  obtain ⟨-, lawful⟩ := withOverrides_lawful valid_defaults firstKnown secondKnown
  obtain ⟨valid, -, -, composed⟩ := lawful _ made
  exact ⟨_, _, made, rfl, valid, rfl, composed.trans both, both, rfl, rfl⟩

end Settings

end MultisigQueue
