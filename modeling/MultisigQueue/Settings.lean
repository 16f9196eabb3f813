/-
Module: MultisigQueue.Settings
Purpose: The settings of a client: their defaults, what each admits, and changing some of them.
Main exports:
  Settings.Field, Settings, Settings.ofValues, Settings.value, Settings.withOverrides,
  Settings.headers
-/
import MultisigQueue.Batch
import MultisigQueue.Settings.Reading
import MultisigQueue.Store
import MultisigQueue.Text.LetterCase

namespace MultisigQueue

/-!
Every setting has one value, read from whatever source gives one. All settings are read together,
and every one that is refused is reported. Changing settings reads all of them again, the unchanged
ones from what they are; reading a setting from its own value gives it back.
-/

/-- The settings there are. -/
inductive Settings.Field where
  | rpcUrl
  | chainId
  | address
  | multicallAddress
  | pageSize
  | maxNonces
  | requestTimeout
  | maxRetries
  | userAgent
deriving DecidableEq, Repr

/-- The settings of a client. -/
structure Settings where
  rpcUrl : String
  chainId : Int
  /-- Where the store stands. -/
  address : Address
  /-- Where the batching contract stands. -/
  multicallAddress : Address
  pageSize : Int
  maxNonces : Int
  requestTimeout : Float
  maxRetries : Int
  userAgent : String

namespace Settings

/-- The version that clients report. -/
def version : String := "0.1.0"

namespace Field

/-- All settings in order. -/
def all : List Field :=
  [rpcUrl, chainId, address, multicallAddress, pageSize, maxNonces, requestTimeout, maxRetries,
    userAgent]

/-- The name of a setting. -/
def name : Field → String
  | rpcUrl => "rpc_url"
  | chainId => "chain_id"
  | address => "address"
  | multicallAddress => "multicall_address"
  | pageSize => "page_size"
  | maxNonces => "max_nonces"
  | requestTimeout => "request_timeout"
  | maxRetries => "max_retries"
  | userAgent => "user_agent"

/-- The value of a setting that no source gives. -/
def default : Field → Value
  | rpcUrl => .text "https://rpc.gnosischain.com"
  | chainId => .int 100
  | address => .text Store.defaultAddress.checksummed
  | multicallAddress => .text Batch.defaultAddress.checksummed
  | pageSize => .int 100
  | maxNonces => .int 5
  | requestTimeout => .real 10.0
  | maxRetries => .int 0
  | userAgent => .text ("harbour-sdk-py/" ++ version)

end Field

open Setting

/-- Whether a text starts with the mark of a web address, in any case. -/
def hasScheme (chars : List Char) : Bool :=
  let folded := Text.lowered chars
  "http://".toList.isPrefixOf folded || "https://".toList.isPrefixOf folded

/-- A web address, without the blanks around it. -/
def readUrl (v : Value) : Reading String := do
  let chars := Text.trim Text.isBlank (← text v).toList
  if hasScheme chars then return String.ofList chars else throw .rule

/-- A chain id; a text is decimal, or hexadecimal after its mark. -/
def readChainId : Value → Reading Int
  | .text s =>
    let chars := Text.trim Text.isBlank s.toList
    let base := if "0x".toList.isPrefixOf (Text.lowered chars) then 16 else 10
    match Numeral.parseChars base chars with
    | .ok n => .ok n
    | .error _ => .error .rule
  | .unpaired _ => .error .rule
  | other => integer other

/-- An address given as text. -/
def readAddress (v : Value) : Reading Address := do
  match Address.ofText? (← text v) with
  | some a => return a
  | none => throw .rule

/-- The number of signatures in a page. -/
def readPageSize (v : Value) : Reading Int := do atMost 10000 (← moreThan 0 (← integer v))

/-- The number of nonces in a window. -/
def readMaxNonces (v : Value) : Reading Int := do atMost 1000 (← atLeast 1 (← integer v))

/-- The number of attempts after the first. -/
def readMaxRetries (v : Value) : Reading Int := do atMost 10 (← atLeast 0 (← integer v))

/-- The seconds that a request may take. -/
def readTimeout (v : Value) : Reading Float := do positive (← real v)

/-- All settings from their values. -/
def read (value : Field → Value) : Reading Settings := do
  return {
    rpcUrl := ← readUrl (value .rpcUrl)
    chainId := ← readChainId (value .chainId)
    address := ← readAddress (value .address)
    multicallAddress := ← readAddress (value .multicallAddress)
    pageSize := ← readPageSize (value .pageSize)
    maxNonces := ← readMaxNonces (value .maxNonces)
    requestTimeout := ← readTimeout (value .requestTimeout)
    maxRetries := ← readMaxRetries (value .maxRetries)
    userAgent := ← text (value .userAgent) }

/-- The cause why something has not been read. -/
def cause? {α : Type} : Reading α → Option FieldCause
  | .ok _ => none
  | .error cause => some cause

/-- The cause why a setting refuses a value. -/
def Field.refusal? (f : Field) (v : Value) : Option FieldCause :=
  match f with
  | .rpcUrl => cause? (readUrl v)
  | .chainId => cause? (readChainId v)
  | .address | .multicallAddress => cause? (readAddress v)
  | .pageSize => cause? (readPageSize v)
  | .maxNonces => cause? (readMaxNonces v)
  | .requestTimeout => cause? (readTimeout v)
  | .maxRetries => cause? (readMaxRetries v)
  | .userAgent => cause? (text v)

/-- Every setting that refuses its value. -/
def failures (value : Field → Value) : List FieldFailure :=
  Field.all.filterMap fun f =>
    (f.refusal? (value f)).map fun cause => { field := f.name, cause }

/-- All settings from their values, or every one that refuses its value. -/
def ofValues (value : Field → Value) : Except (List FieldFailure) Settings :=
  match read value with
  | .ok settings => .ok settings
  | .error _ => .error (failures value)

/-- The value of a setting. -/
def value (s : Settings) : Field → Value
  | .rpcUrl => .text s.rpcUrl
  | .chainId => .int s.chainId
  | .address => .text s.address.checksummed
  | .multicallAddress => .text s.multicallAddress.checksummed
  | .pageSize => .int s.pageSize
  | .maxNonces => .int s.maxNonces
  | .requestTimeout => .real s.requestTimeout
  | .maxRetries => .int s.maxRetries
  | .userAgent => .text s.userAgent

/-- Named values; of a name the first value counts. -/
abbrev Overrides : Type := List (String × Value)

/-- The names that are not names of settings, in ascending order. -/
def unknownNames (overrides : Overrides) : List String :=
  let names := (overrides.map Prod.fst).filter fun name => !Field.all.any (·.name == name)
  names.eraseDups.mergeSort fun a b => !(b < a)

/-- The settings with some of them changed. -/
def withOverrides (s : Settings) (overrides : Overrides) : Except ConfigError Settings :=
  match unknownNames overrides with
  | [] =>
    match ofValues fun f => (Value.field? overrides f.name).getD (s.value f) with
    | .ok changed => .ok changed
    | .error failures => .error (.invalid failures)
  | names => .error (.unknown names)

/-- The headers of every request. -/
def headers (s : Settings) : List (String × String) :=
  [("Content-Type", "application/json"), ("Accept", "application/json"),
   ("User-Agent", s.userAgent)]

end Settings

end MultisigQueue
