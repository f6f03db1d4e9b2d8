import TaskAutomation.Engine.World

/-!
This file defines two worlds outside. The simulated one answers from what was set in it, writes
every request down and can be told to refuse the next ones. The logging one stands for a program
without connections: what it is asked for fails, and what it is told is only noted.
-/

namespace TaskAutomation

/-! ### The simulated world -/

/-- The requests to the world outside for which faults can be planned. -/
inductive OutsideGate where
  | balance
  | gasPrice
  | latest
  | send
  | receipt
  | notify
  | subscribe
  | unsubscribe
  deriving DecidableEq, Repr

namespace OutsideGate

def all : List OutsideGate :=
  [balance, gasPrice, latest, send, receipt, notify, subscribe, unsubscribe]

/-- The name under which faults are planned. -/
def name : OutsideGate → String
  | balance => "chain.balance"
  | gasPrice => "chain.gas_price"
  | latest => "metrics.latest"
  | send => "sender.send"
  | receipt => "sender.receipt"
  | notify => "notifier.send"
  | subscribe => "subscriber.subscribe"
  | unsubscribe => "subscriber.unsubscribe"

def ofName? (name : String) : Option OutsideGate := all.find? fun gate => gate.name == name

end OutsideGate

/-- The gate of a request. -/
def OutsideRequest.gate : OutsideRequest → OutsideGate
  | balance .. => .balance
  | gasPrice _ => .gasPrice
  | latest .. => .latest
  | send .. => .send
  | receipt .. => .receipt
  | notify .. => .notify
  | subscribe _ => .subscribe
  | unsubscribe _ => .unsubscribe

/-- The line of a log that a request makes: what is asked for, and of whom. -/
def OutsideRequest.words : OutsideRequest → List String
  | balance network wallet => ["balance", network, wallet]
  | gasPrice network => ["gas_price", network]
  | latest contract metric => ["latest", contract, metric]
  | send network automate => ["send", network, automate]
  | receipt network hash => ["receipt", network, hash]
  | notify contact message => ["notify", contact, message]
  | subscribe source => ["subscribe", source.network, source.address, source.event]
  | unsubscribe subscription => ["unsubscribe", subscription]

/-- A world outside that is only simulated. -/
structure Simulated where
  /-- Balances by network and wallet, the latest one first. -/
  balances : List ((String × String) × Double)
  gasPrices : List (String × Double)
  /-- Collected numbers by contract and metric. -/
  metrics : List ((String × String) × Double)
  /-- Settled transactions and whether they succeeded. -/
  receipts : List (String × Bool)
  /-- The number of transactions that were sent. -/
  sent : Nat
  /-- The number of subscriptions that were made. -/
  subscribed : Nat
  /-- The requests so far. -/
  requests : List OutsideRequest
  faults : FaultPlan OutsideGate Failure

namespace Simulated

/-- A world in which nothing is set. -/
def empty : Simulated := ⟨[], [], [], [], 0, 0, [], .none⟩

/-- The key of a balance: wallets are told apart without regard to the case of Latin letters. -/
def balanceKey (network wallet : String) : String × String :=
  (network, String.ofList (wallet.toList.map Char.toLower))

/-- The reply to a request that goes through. -/
def respond (world : Simulated) :
    (request : OutsideRequest) → Except Failure request.Result × Simulated
  | .balance network wallet =>
    match world.balances.lookup (balanceKey network wallet) with
    | some value => (.ok value, world)
    | none => (.error (.transient ("no balance for " ++ wallet ++ " on " ++ network)), world)
  | .gasPrice network =>
    match world.gasPrices.lookup network with
    | some value => (.ok value, world)
    | none => (.error (.transient ("network " ++ network ++ " unreachable")), world)
  | .latest contract metric => (.ok (world.metrics.lookup (contract, metric)), world)
  | .send _ _ =>
    (.ok ("0xhash-" ++ toString (world.sent + 1)), { world with sent := world.sent + 1 })
  | .receipt _ hash => (.ok (world.receipts.lookup hash), world)
  | .notify _ _ => (.ok (), world)
  | .subscribe _ =>
    (.ok ("sub-" ++ toString (world.subscribed + 1)),
      { world with subscribed := world.subscribed + 1 })
  | .unsubscribe _ => (.ok (), world)

instance : Outside Simulated where
  answer request world :=
    let (verdict, faults) := world.faults.take request.gate
    let world := { world with faults, requests := world.requests ++ [request] }
    match verdict with
    | some failure => (.error failure, world)
    | none => world.respond request

end Simulated

/-! ### The logging world -/

/-- A world outside to which there is no connection. -/
structure Logging where
  deriving DecidableEq, Repr, Inhabited

namespace Logging

/-- The failure to reach a network. -/
def unreachable (network : String) : Failure :=
  .transient ("no RPC configured for network " ++ network)

/-- The reply to a request. -/
def respond : (request : OutsideRequest) → Except Failure request.Result
  | .balance network _ => .error (unreachable network)
  | .gasPrice network => .error (unreachable network)
  | .latest _ _ => .ok none
  | .send _ _ => .error (.permanent "no signer configured")
  | .receipt _ _ => .ok none
  | .notify _ _ => .ok ()
  | .subscribe source =>
    .ok ("log:" ++ source.network ++ ":" ++ Text.lowerCase source.address ++ ":" ++ source.event)
  | .unsubscribe _ => .ok ()

instance : Outside Logging where
  answer request world := (respond request, world)

end Logging

end TaskAutomation
