/-
Module: MultisigQueue.Error.Input
Purpose: Arguments that cannot be read, by cause, and the wording of each cause.
Main exports:
  InputSort, Charset, InputError, InputError.sort, InputError.message
-/
import MultisigQueue.Number
import MultisigQueue.Value

namespace MultisigQueue

/-!
Arguments are loosely typed, so each place that reads one can meet any value. A cause names what was
found there, and its sort tells the callers that recover from some failures which these are.
-/

/-- The general sort of an argument that cannot be read. -/
inductive InputSort where
  /-- The argument has an admissible kind but not an admissible value. -/
  | value
  /-- The argument is of the wrong kind. -/
  | kind
  /-- A number does not fit where it has to go. -/
  | overflow
  /-- An operation is asked of something that has none of the name. -/
  | attribute
  /-- A character has no place in the encoding that is asked for. -/
  | encoding
  /-- A document is nested too deeply. -/
  | depth
  /-- What is taken for granted of a caller does not hold. -/
  | assumption
  /-- There is no room for what is asked for. -/
  | memory
  /-- The system that runs the program refuses. -/
  | system
deriving DecidableEq, Repr

/-- The character sets that texts are encoded in. -/
inductive Charset where
  | ascii
  | utf8
deriving DecidableEq, Repr

namespace Charset

/-- The name of a character set. -/
def name : Charset → String
  | ascii => "ascii"
  | utf8 => "utf-8"

/-- Whether a code point belongs to a character set. -/
def admits : Charset → Nat → Bool
  | ascii, codePoint => codePoint < 128
  | utf8, codePoint => !Text.isHalf codePoint

/-- What is wrong with a code point that does not belong to a character set. -/
def complaint : Charset → String
  | ascii => "ordinal not in range(128)"
  | utf8 => "surrogates not allowed"

end Charset

/-- Why an argument cannot be read. -/
inductive InputError where
  /-- A byte string given as an address does not have 20 octets. -/
  | addressLength (found : Nat)
  /-- Something given as an address is not one. -/
  | notAddress (given : Value)
  /-- A hexadecimal text has an odd number of code points. -/
  | oddHex
  /-- A hexadecimal text breaks a digit pair at this index. -/
  | badHex (position : Nat)
  /-- Something other than a text is given as hexadecimal. -/
  | hexNotText
  /-- Something other than a text or a byte string is given as bytes. -/
  | notBytes (kind : String)
  /-- An integer given as a word is negative or has more than 256 bits. -/
  | wordRange
  /-- A byte string given as a word does not have 32 octets. -/
  | wordLength (found : Nat)
  /-- A storage word that should hold an address does not have 32 octets. -/
  | storageWordLength
  /-- A recovery identifier is none of 0, 1, 27 and 28. -/
  | recoveryId (found : Value)
  /-- The second number of a signature has more than 255 bits. -/
  | sRange
  /-- A number of a signature has more than 256 bits. -/
  | tooBig
  /-- A number of a signature is negative. -/
  | negativeNumber
  /-- A real number is too big to be computed. -/
  | realOverflow
  /-- An integer is too big to be a real number. -/
  | integerOverflow
  /-- An infinite or undefined real number is given as an integer. -/
  | notFinite (undefined : Bool)
  /-- A pause is undefined, or below zero. -/
  | badPause (undefined : Bool)
  /-- A pause is too long to be counted. -/
  | pauseTooLong
  /-- Zero is raised to a power below zero. -/
  | zeroPower
  /-- Something given as an operation is neither a call nor a delegate call. -/
  | notOperation (given : Value)
  /-- A quantity is negative. -/
  | negative (field : String)
  /-- A text given as an integer is not a numeral of the base. -/
  | notNumeral (base : Nat) (given : Value)
  /-- A numeral has more digits than are read. -/
  | tooManyDigits (digits : Nat)
  /-- Something that is neither a number nor a text is given as an integer. -/
  | notNumber (kind : String)
  /-- The size of a page is not positive. -/
  | pageSize
  /-- A text is given where only octets can be shown. -/
  | textNotBytes
  /-- Something is given as octets that stands for none. -/
  | notOctets (kind : String)
  /-- A number given as an octet is not below 256. -/
  | octetRange
  /-- A run of zero octets has a negative length. -/
  | negativeCount
  /-- A run of zero octets is too long to be counted. -/
  | countTooBig
  /-- There is no room for a run of zero octets. -/
  | noMemory
  /-- Something other than an integer is given where only an integer counts. -/
  | notIndex (kind : String)
  /-- Something without items is gone through. -/
  | notIterable (kind : String)
  /-- Something without a length is asked for it. -/
  | noLength (kind : String)
  /-- Something is asked for an operation that values of its kind do not have. -/
  | noAttribute (kind name : String)
  /-- Two values of these kinds are not in any order. -/
  | incomparable (relation : Relation) (left right : String)
  /-- Two values of these kinds have no such combination. -/
  | badOperands (sign left right : String)
  /-- Something of another kind is put behind a text, a list or a byte string. -/
  | notJoined (left right : String)
  /-- Something that can be changed is given as a key. -/
  | unhashable (kind : String)
  /-- A logging level has no such name. -/
  | unknownLevel (name : Value)
  /-- Something that is neither an integer nor a text is given as a logging level. -/
  | levelKind (given : Value)
  /-- A header is given a value that is not a text. -/
  | headerKind (kind : String)
  /-- Code points from a position on, of which the first is this one, do not belong to a character
  set. -/
  | notEncodable (charset : Charset) (position count first : Nat)
  /-- A value of this kind has no place in a document. -/
  | notDocument (kind : String)
  /-- A document is nested too deeply in a list or an object. -/
  | tooDeep (isObject : Bool)
  /-- Something other than a text is given as the name or the value of a variable. -/
  | textExpected (kind : String)
  /-- The name of a variable holds a sign of equality. -/
  | illegalName
  /-- The name of a variable is empty. -/
  | emptyName
  /-- A text that ends at a null character holds one. -/
  | nullCharacter
  /-- An operation is given an argument twice. -/
  | repeatedArgument (operation argument : String)
  /-- Modules are listed from somewhere other than their start. -/
  | modulesStart
  /-- No public key belongs to the signature. -/
  | unrecoverable

namespace InputError

/-- The sort of each cause. -/
def sort : InputError → InputSort
  | hexNotText | notBytes _ | notNumber _ | textNotBytes | notOctets _ | notIndex _ | notIterable _
  | noLength _ | incomparable .. | badOperands .. | notJoined .. | unhashable _ | levelKind _
  | headerKind _ | notDocument _ | textExpected _ | repeatedArgument .. => .kind
  | tooBig | negativeNumber | realOverflow | integerOverflow | notFinite false | pauseTooLong
  | countTooBig => .overflow
  | noAttribute .. => .attribute
  | notEncodable .. => .encoding
  | tooDeep _ => .depth
  | modulesStart => .assumption
  | noMemory => .memory
  | emptyName => .system
  | _ => .value

/-- The wording of each cause. -/
def message : InputError → String
  | addressLength found => s!"address must be 20 bytes, got {found}"
  | notAddress given => "invalid address: " ++ given.shown
  | oddHex => "hex string must have even length"
  | badHex position =>
    s!"invalid hex string: non-hexadecimal number found in fromhex() arg at position {position}"
  | hexNotText => "from_hex expects a string"
  | notBytes kind => s!"Unsupported type for ensure_bytes: <class '{kind}'>"
  | wordRange => "integer does not fit in 32 bytes"
  | wordLength found => s!"expected 32 bytes, got {found}"
  | storageWordLength => "Invalid bytes32 length"
  | recoveryId found => "invalid recovery id: " ++ found.plain
  | sRange => "s does not fit in 255 bits"
  | tooBig => "int too big to convert"
  | negativeNumber => "can't convert negative int to unsigned"
  | realOverflow => "(34, 'Numerical result out of range')"
  | integerOverflow => "int too large to convert to float"
  | notFinite true => "cannot convert float NaN to integer"
  | notFinite false => "cannot convert float infinity to integer"
  | badPause true => "Invalid value NaN (not a number)"
  | badPause false => "sleep length must be non-negative"
  | pauseTooLong => "timestamp out of range for platform time_t"
  | zeroPower => "0.0 cannot be raised to a negative power"
  | notOperation given => given.shown ++ " is not a valid Operation"
  | negative field => field ++ " must be non-negative"
  | notNumeral base given =>
    s!"invalid literal for int() with base {base}: " ++ String.ofList (given.shown.toList.take 200)
  | tooManyDigits digits =>
    s!"Exceeds the limit ({Numeral.digitLimit} digits) for integer string conversion: " ++
      s!"value has {digits} digits; use sys.set_int_max_str_digits() to increase the limit"
  | notNumber kind =>
    s!"int() argument must be a string, a bytes-like object or a real number, not '{kind}'"
  | pageSize => "page_size must be positive"
  | textNotBytes => "string argument without an encoding"
  | notOctets kind => s!"cannot convert '{kind}' object to bytes"
  | octetRange => "bytes must be in range(0, 256)"
  | negativeCount => "negative count"
  | countTooBig => "cannot fit 'int' into an index-sized integer"
  | notIndex kind => s!"'{kind}' object cannot be interpreted as an integer"
  | notIterable kind => s!"'{kind}' object is not iterable"
  | noLength kind => s!"object of type '{kind}' has no len()"
  | noAttribute kind name => s!"'{kind}' object has no attribute '{name}'"
  | incomparable relation left right =>
    s!"'{relation.sign}' not supported between instances of '{left}' and '{right}'"
  | badOperands sign left right =>
    s!"unsupported operand type(s) for {sign}: '{left}' and '{right}'"
  | notJoined "bytes" right => s!"can't concat {right} to bytes"
  | notJoined left right => s!"can only concatenate {left} (not \"{right}\") to {left}"
  | unhashable kind => s!"unhashable type: '{kind}'"
  | unknownLevel name => "Unknown level: " ++ name.shown
  | levelKind given => "Level not an integer or a valid string: " ++ given.plain
  | headerKind kind => s!"Header value must be str or bytes, not <class '{kind}'>"
  | notEncodable charset position 1 first =>
    let character := String.ofList (Text.codePointEscape first)
    s!"'{charset.name}' codec can't encode character '{character}' in position {position}: " ++
      charset.complaint
  | notEncodable charset position count _ =>
    let last := position + count - 1
    s!"'{charset.name}' codec can't encode characters in position {position}-{last}: " ++
      charset.complaint
  | notDocument kind => s!"Object of type {kind} is not JSON serializable"
  | tooDeep isObject =>
    let kind := if isObject then "object" else "array"
    s!"maximum recursion depth exceeded while decoding a JSON {kind} from a unicode string"
  | textExpected kind => s!"str expected, not {kind}"
  | illegalName => "illegal environment variable name"
  | emptyName => "[Errno 22] Invalid argument"
  | nullCharacter => "embedded null byte"
  | repeatedArgument operation argument =>
    s!"{operation}() got multiple values for argument '{argument}'"
  | modulesStart | noMemory => ""
  | unrecoverable => "unrecoverable signature"

end InputError

/-- The first code points of a text that do not belong to a character set, as a cause. -/
def Charset.refusal? (charset : Charset) (codePoints : List Nat) : Option InputError :=
  let before := codePoints.takeWhile charset.admits
  match codePoints.drop before.length with
  | [] => none
  | first :: rest =>
    let strange := rest.takeWhile fun codePoint => !charset.admits codePoint
    some (.notEncodable charset before.length (strange.length + 1) first)

end MultisigQueue
