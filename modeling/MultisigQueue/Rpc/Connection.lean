/-
Module: MultisigQueue.Rpc.Connection
Purpose: A connection to a node: numbered requests, attempts with pauses between them, closing.
Main exports:
  Rpc.Options, Rpc.HttpRequest, Rpc.Outcome, Rpc.Transport, Rpc.Connection, Rpc.Line, Rpc.request,
  Rpc.ethCall, Rpc.chainId, Rpc.close
-/
import MultisigQueue.Endpoint
import MultisigQueue.Rpc.Backoff
import MultisigQueue.Rpc.Headers
import MultisigQueue.Rpc.Message

namespace MultisigQueue.Rpc

/-!
A request gets the next number and is then posted until an attempt is not transient, at most once
more than the number of retries; every attempt posts the same octets. Between two attempts there is
a pause that grows by a factor. A closed connection posts nothing.
-/

/-- How a connection behaves. -/
structure Options where
  url : String
  timeout : Float := 30.0
  /-- The number of attempts after the first; without any attempt every request fails. -/
  maxRetries : Value := .int 0
  backoffBase : Value := .real 0.15
  backoffFactor : Value := .real 1.8
  headers : Headers := Headers.usual

/-- What a connection posts. -/
structure HttpRequest where
  url : String
  headers : Headers
  request : Request

/-- A header of a request: one that it has been given, or else one of the transport. -/
def HttpRequest.header? (r : HttpRequest) (name : String) : Except InputError (Option String) := do
  let body ← r.request.body
  let ofTransport := Headers.ofTransport r.url body.utf8ByteSize
  return (r.headers.value? name).or (ofTransport.value? name)

/-- What comes of posting. -/
inductive Outcome where
  | response (r : HttpResponse)
  /-- The round trip failed in a way that may pass. -/
  | failed (text : String)
  /-- The transport gave up in a way that is not worth another attempt. -/
  | gaveUp (name : String)

/-- A way to post requests and to wait. A pause may be refused, and what is added to it at random is
up to the transport. -/
structure Transport (σ : Type) where
  post : HttpRequest → StateM σ Outcome
  pause : Float → StateM σ (Except InputError Unit)

/-- A connection. -/
structure Connection where
  options : Options
  nextId : Int := 0
  isOpen : Bool := true

/-- A connection together with the state of its transport. -/
structure Line (σ : Type) where
  connection : Connection
  transport : σ

variable {σ : Type}

/-- Posts a request. -/
def post (t : Transport σ) (request : Request) : Query (Line σ) Outcome := do
  let line ← get
  let o := line.connection.options
  let posted : HttpRequest := { url := o.url, headers := o.headers, request }
  let (outcome, transport) := (t.post posted).run line.transport
  set { line with transport }
  return outcome

/-- Waits. -/
def pause (t : Transport σ) (seconds : Float) : Query (Line σ) Unit := do
  let line ← get
  let (waited, transport) := (t.pause seconds).run line.transport
  set { line with transport }
  (waited : Except InputError Unit)

/-- The failure of a connection that has been closed. -/
def closedError (method : Value) : RpcError := broken "client is closed" method .null .null

/-- The text of a transient outcome. -/
def transientText? : Outcome → Option String
  | .failed text => some text
  | .response r => if isTransientStatus r.status then some (statusText r.status) else none
  | .gaveUp _ => none

/-- The result in an outcome that is not transient. -/
def settle (method : Value) : Outcome → Except Fault Value
  | .response r => result method r
  | .failed text => .error (.rpc (.transportFailed method (.text text)))
  | .gaveUp name => .error (.foreign name)

/-- Makes so many more attempts at most, of which the next one has the given number. -/
def attempts (t : Transport σ) (request : Request) : Nat → Int → Query (Line σ) Value
  | 0, _ => throw (.rpc (.transportFailed request.method (.text "None")))
  | left + 1, number => do
    let connection := (← get).connection
    unless connection.isOpen do throw (.rpc (closedError request.method))
    let _ : String ← (request.body : Except InputError String)
    let outcome ← post t request
    match transientText? outcome with
    | none => settle request.method outcome
    | some text =>
      if left = 0 then throw (.rpc (.transportFailed request.method (.text text)))
      else
        let o := connection.options
        let seconds : Float ←
          (backoff o.backoffBase o.backoffFactor (.int number) : Except InputError Float)
        pause t seconds
        attempts t request left (number + 1)

/-- The number of attempts that are made at most. -/
def Options.attemptCount (o : Options) : Except InputError Nat := do
  match ← o.maxRetries.plus 2 with
  | .int n => return (n - 1).toNat
  | other => throw (.notIndex other.kindName)

/-- Makes a request under the next number. -/
def request (t : Transport σ) (method params : Value) : Query (Line σ) Value := do
  let line ← get
  let connection := line.connection
  set { line with connection := { connection with nextId := connection.nextId + 1 } }
  let count : Nat ← (connection.options.attemptCount : Except InputError Nat)
  attempts t { id := connection.nextId, method, params } count 1

/-- Makes a read-only call at a block. -/
def ethCall (t : Transport σ) (target : Address) (data : Bytes) (block : Value) :
    Query (Line σ) Bytes := do
  let result ← request t callMethod (callParams target data block)
  match callResult result with
  | .ok bytes => return bytes
  | .error e => throw (.rpc e)

/-- Makes a read-only call of a loosely typed address with loosely typed octets. -/
def ethCallGiven (t : Transport σ) (target data block : Value) : Query (Line σ) Bytes := do
  let target : Address ← (target.toAddress : Except InputError Address)
  let data : Bytes ← (data.toOctets : Except InputError Bytes)
  ethCall t target data block

/-- Asks for the chain id. -/
def chainId (t : Transport σ) : Query (Line σ) Int := do
  let result ← request t (.text "eth_chainId") .null
  (chainIdResult result : Except InputError Int)

/-- The connection after closing. -/
def Connection.close (c : Connection) : Connection := { c with isOpen := false }

/-- Closes the connection. -/
def close : Query (Line σ) Unit :=
  modify fun line => { line with connection := line.connection.close }

/-- A connection as a node, asked about the latest block. -/
def node (t : Transport σ) : Endpoint (Line σ) where
  call target data := ethCall t target data (.text "latest")

/-- A connection as the settings say, to their node or to another one. -/
def Connection.ofSettings (s : Settings) (url : String) : Except InputError Connection := do
  let headers ← Headers.ofValues (s.headers.map fun (name, value) => (name, .text value))
  return {
    options :=
      { url := if url.isEmpty then s.rpcUrl else url
        timeout := s.requestTimeout
        maxRetries := .int s.maxRetries
        headers } }

/-- The connections that a client has opened: one, and another if the Safe is on another chain. -/
structure Connections where
  store : Connection
  safe : Option Connection := none

namespace Connections

/-- The connections of a client with these settings, perhaps with another node for Safes. -/
def ofSettings (s : Settings) (safeUrl : Option String) : Except InputError Connections := do
  let store ← Connection.ofSettings s ""
  match safeUrl with
  | none => return { store }
  | some url => return { store, safe := some (← Connection.ofSettings s url) }

/-- The connection to the chain of the Safe. -/
def forSafe (c : Connections) : Connection := c.safe.getD c.store

/-- The number of connections that are open. -/
def openCount (c : Connections) : Nat := (c.store :: c.safe.toList).countP Connection.isOpen

/-- Closes all connections. -/
def close (c : Connections) : Connections where
  store := c.store.close
  safe := c.safe.map Connection.close

end Connections

end MultisigQueue.Rpc
