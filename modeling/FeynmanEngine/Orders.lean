import Mathlib.Algebra.Ring.Rat
import FeynmanEngine.Ids

/-! Orders and fills of `types/src/pipeline.rs`. A pipeline order carries the
data of its stage; the stage type is a parameter, so an order that has not been
risk checked cannot be routed. Decimals are exact rationals. -/
namespace FeynmanEngine.Orders
open Ids

/-- `rust_decimal::Decimal`, in exact arithmetic. -/
abbrev Decimal := Rat

/-- How the decimal and clock libraries print: `Display` of a decimal, the same
with a fixed number of places, `Debug` and `Display` of a timestamp, and `Debug`
of a span of nanoseconds. -/
class LibraryText where
  decimal : Decimal → String
  decimalFixed : Nat → Decimal → String
  dateTime : DateTime → String
  dateTimeDisplay : DateTime → String
  duration : Nat → String

/-- What these libraries print for whole amounts, the epoch and short spans. -/
@[reducible] def wholeText : LibraryText where
  decimal amount := toString amount.num
  decimalFixed places amount := toString amount.num ++ "." ++ String.ofList (List.replicate places '0')
  dateTime _ := "1970-01-01T00:00:00Z"
  dateTimeDisplay _ := "1970-01-01 00:00:00 UTC"
  duration nanos := toString nanos ++ "ns"

inductive Side where
  | buy
  | sell
  deriving DecidableEq, Repr

/-- `Debug` of a side. -/
def Side.debug : Side → String
  | .buy => "Buy"
  | .sell => "Sell"

inductive OrderType where
  | market
  | limit
  | stopMarket
  | stopLimit
  | trailingStop
  deriving DecidableEq, Repr

def OrderType.toText : OrderType → String
  | .market => "market"
  | .limit => "limit"
  | .stopMarket => "stop_market"
  | .stopLimit => "stop_limit"
  | .trailingStop => "trailing_stop"

inductive TimeInForce where
  | gtc
  | ioc
  | fok
  | gtd (expireAt : DateTime)
  deriving DecidableEq, Repr

def TimeInForce.toText [LibraryText] : TimeInForce → String
  | .gtc => "GTC"
  | .ioc => "IOC"
  | .fok => "FOK"
  | .gtd expireAt => "GTD(" ++ LibraryText.dateTimeDisplay expireAt ++ ")"

/-- Execution hints; the default is the conservative one. -/
structure ExecHint where
  allowEmulation : Bool := false
  deriving DecidableEq, Repr

/-- Immutable core fields present at every pipeline stage. -/
structure OrderCore where
  id : OrderId
  basketId : Option BasketId
  agentId : AgentId
  instrumentId : InstrumentId
  marketId : MarketId
  venueId : VenueId
  side : Side
  orderType : OrderType
  timeInForce : TimeInForce
  qty : Decimal
  price : Option Decimal
  triggerPrice : Option Decimal
  stopLoss : Option Decimal
  takeProfit : Option Decimal
  postOnly : Bool
  reduceOnly : Bool
  dryRun : Bool
  execHint : ExecHint
  createdAt : DateTime
  deriving DecidableEq

/-- Result of a single risk check. -/
structure RiskCheckResult where
  checkName : String
  passed : Bool
  message : Option String
  deriving DecidableEq

inductive ViolationType where
  | hard
  | soft
  deriving DecidableEq

structure RiskViolation where
  checkName : String
  violationType : ViolationType
  currentValue : String
  limit : String
  suggestedAction : String
  deriving DecidableEq

/-- Proof that risk checks passed, carried through the later stages. -/
structure RiskApprovalStamp where
  approvedAt : DateTime
  checksPerformed : List RiskCheckResult
  warnings : List RiskViolation
  deriving DecidableEq

/-- Venue assignment and client order id for submission. -/
structure RoutingAssignment where
  venueId : VenueId
  clientOrderId : ClientOrderId
  routedAt : DateTime
  deriving DecidableEq

structure Draft where
  deriving DecidableEq

structure Validated where
  validatedAt : DateTime
  deriving DecidableEq

structure RiskChecked where
  validatedAt : DateTime
  approval : RiskApprovalStamp
  deriving DecidableEq

structure Routed where
  validatedAt : DateTime
  approval : RiskApprovalStamp
  routing : RoutingAssignment
  deriving DecidableEq

/-- An order at one stage of the pipeline. -/
structure PipelineOrder (Stage : Type) where
  core : OrderCore
  stage : Stage
  deriving DecidableEq

namespace PipelineOrder

def new (core : OrderCore) : PipelineOrder Draft := ⟨core, {}⟩

def intoValidated (order : PipelineOrder Draft) (now : DateTime) : PipelineOrder Validated :=
  ⟨order.core, ⟨now⟩⟩

def intoRiskChecked (order : PipelineOrder Validated) (approval : RiskApprovalStamp) :
    PipelineOrder RiskChecked :=
  ⟨order.core, ⟨order.stage.validatedAt, approval⟩⟩

def intoRouted (order : PipelineOrder RiskChecked) (routing : RoutingAssignment) :
    PipelineOrder Routed :=
  ⟨order.core, ⟨order.stage.validatedAt, order.stage.approval, routing⟩⟩

def clientOrderId (order : PipelineOrder Routed) : ClientOrderId := order.stage.routing.clientOrderId

@[simp] theorem intoRouted_core (order : PipelineOrder RiskChecked) (routing : RoutingAssignment) :
    (order.intoRouted routing).core = order.core := rfl

@[simp] theorem intoRouted_clientOrderId (order : PipelineOrder RiskChecked)
    (routing : RoutingAssignment) :
    (order.intoRouted routing).clientOrderId = routing.clientOrderId := rfl

end PipelineOrder

/-- Runtime state of an order after it enters the engine. -/
inductive OrderState where
  | pending
  | submitted
  | accepted
  | partiallyFilled
  | filled
  | cancelled
  | rejected
  | expired
  deriving DecidableEq, Repr

namespace OrderState

def isTerminal : OrderState → Bool
  | .pending | .submitted | .accepted | .partiallyFilled => false
  | .filled | .cancelled | .rejected | .expired => true

/-- Active on a venue: may receive fills. -/
def isActive : OrderState → Bool
  | .submitted | .accepted | .partiallyFilled => true
  | .pending | .filled | .cancelled | .rejected | .expired => false

def toText : OrderState → String
  | .pending => "pending"
  | .submitted => "submitted"
  | .accepted => "accepted"
  | .partiallyFilled => "partially_filled"
  | .filled => "filled"
  | .cancelled => "cancelled"
  | .rejected => "rejected"
  | .expired => "expired"

end OrderState

/-- A fill received from a venue. -/
structure Fill where
  orderId : OrderId
  venueOrderId : VenueOrderId
  instrumentId : InstrumentId
  side : Side
  qty : Decimal
  price : Decimal
  fee : Decimal
  filledAt : DateTime
  isMaker : Bool
  deriving DecidableEq

end FeynmanEngine.Orders
