import FeynmanEngine.Orders

/-! Orderbook snapshots of `types/src/market_data.rs`, and the check that makes
one usable for fills: positive levels in order, best bid not above best ask. -/
namespace FeynmanEngine.Orderbooks
open Ids Orders

inductive MarketDataError where
  | nonPositivePrice (side : String) (level : Nat) (price : Decimal)
  | nonPositiveQty (side : String) (level : Nat) (qty : Decimal)
  | bidsUnsorted (level : Nat) (previous current : Decimal)
  | asksUnsorted (level : Nat) (previous current : Decimal)
  | crossedBook (bestBid bestAsk : Decimal)
  deriving DecidableEq

def MarketDataError.toText [LibraryText] : MarketDataError → String
  | .nonPositivePrice side level price => "non-positive price on " ++ side ++ " side at level " ++
    toString level ++ ": " ++ LibraryText.decimal price
  | .nonPositiveQty side level qty => "non-positive quantity on " ++ side ++ " side at level " ++
    toString level ++ ": " ++ LibraryText.decimal qty
  | .bidsUnsorted level previous current => "bids must be sorted descending; level " ++
    toString level ++ " is " ++ LibraryText.decimal current ++ " after " ++ LibraryText.decimal previous
  | .asksUnsorted level previous current => "asks must be sorted ascending; level " ++
    toString level ++ " is " ++ LibraryText.decimal current ++ " after " ++ LibraryText.decimal previous
  | .crossedBook bestBid bestAsk => "crossed book: best bid " ++ LibraryText.decimal bestBid ++
    " > best ask " ++ LibraryText.decimal bestAsk

/-- One orderbook level. -/
structure PriceLevel where
  price : Decimal
  qty : Decimal
  deriving DecidableEq

/-- Full depth snapshot: highest bid first, lowest ask first. -/
structure OrderbookSnapshot where
  venueId : VenueId
  instrumentId : InstrumentId
  marketId : MarketId
  bids : List PriceLevel
  asks : List PriceLevel
  observedAt : DateTime
  receivedAt : DateTime
  deriving DecidableEq

/-- The order of two neighbouring prices on one side. -/
def sorted (descending : Bool) (previous current : Decimal) : Bool :=
  if descending then current ≤ previous else previous ≤ current

/-- One level after another; `previousPrice` is the price before this one. -/
def validateLevels (side : String) (descending : Bool) :
    Nat → Option Decimal → List PriceLevel → Except MarketDataError Unit
  | _, _, [] => .ok ()
  | index, previousPrice, level :: rest =>
    if level.price ≤ 0 then .error (.nonPositivePrice side index level.price)
    else if level.qty ≤ 0 then .error (.nonPositiveQty side index level.qty)
    else
      match previousPrice with
      | none => validateLevels side descending (index + 1) (some level.price) rest
      | some previous =>
        if sorted descending previous level.price then
          validateLevels side descending (index + 1) (some level.price) rest
        else if descending then .error (.bidsUnsorted index previous level.price)
        else .error (.asksUnsorted index previous level.price)

def validateSide (levels : List PriceLevel) (side : String) (descending : Bool) :
    Except MarketDataError Unit :=
  validateLevels side descending 0 none levels

namespace OrderbookSnapshot

def bestBid (book : OrderbookSnapshot) : Option PriceLevel := book.bids.head?

def bestAsk (book : OrderbookSnapshot) : Option PriceLevel := book.asks.head?

def validate (book : OrderbookSnapshot) : Except MarketDataError Unit :=
  match validateSide book.bids "bid" true, validateSide book.asks "ask" false with
  | .error error, _ => .error error
  | .ok (), .error error => .error error
  | .ok (), .ok () =>
    match book.bestBid, book.bestAsk with
    | some bid, some ask =>
      if ask.price < bid.price then .error (.crossedBook bid.price ask.price) else .ok ()
    | some _, none | none, some _ | none, none => .ok ()

end OrderbookSnapshot

/-- A level one can trade against. -/
structure PriceLevel.Positive (level : PriceLevel) : Prop where
  price : 0 < level.price
  qty : 0 < level.qty

/-- A side passes its check level by level: positive, and in order after the price before it. -/
theorem validateLevels_cons
    (valid : validateLevels side descending index previousPrice (level :: rest) = .ok ()) :
    level.Positive ∧ (∀ previous, previousPrice = some previous → sorted descending previous level.price = true) ∧
      validateLevels side descending (index + 1) (some level.price) rest = .ok () := by
  unfold validateLevels at valid
  by_cases price : level.price ≤ 0
  · rw [if_pos price] at valid
    cases valid
  by_cases qty : level.qty ≤ 0
  · rw [if_neg price, if_pos qty] at valid
    cases valid
  rw [if_neg price, if_neg qty] at valid
  refine ⟨⟨Rat.not_le.mp price, Rat.not_le.mp qty⟩, ?_⟩
  split at valid
  · exact ⟨by simp, valid⟩
  · next previous =>
    split at valid
    · next inOrder => exact ⟨fun other same => by rwa [← Option.some.inj same], valid⟩
    · split at valid <;> cases valid

/-- Checked levels are positive, whatever came before them. -/
theorem positive_of_validateLevels (levels : List PriceLevel)
    (valid : validateLevels side descending index previousPrice levels = .ok ()) :
    ∀ level ∈ levels, level.Positive := by
  induction levels generalizing index previousPrice with
  | nil => exact List.forall_mem_nil _
  | cons level rest ih =>
    obtain ⟨positive, -, rest⟩ := validateLevels_cons valid
    intro stored member
    rcases List.mem_cons.mp member with rfl | later
    · exact positive
    · exact ih rest stored later

theorem sorted_trans (first : sorted descending low mid = true) (second : sorted descending mid high = true) :
    sorted descending low high = true := by
  cases descending <;> simp only [sorted, if_true, Bool.false_eq_true, if_false, decide_eq_true_eq] at *
  · exact Rat.le_trans first second
  · exact Rat.le_trans second first

/-- Checked levels are in order, with each other and after the price before them. -/
theorem sorted_of_validateLevels (levels : List PriceLevel)
    (valid : validateLevels side descending index previousPrice levels = .ok ()) :
    (∀ previous, previousPrice = some previous →
      ∀ level ∈ levels, sorted descending previous level.price = true) ∧
    levels.Pairwise fun earlier later => sorted descending earlier.price later.price = true := by
  induction levels generalizing index previousPrice with
  | nil => exact ⟨fun _ _ => List.forall_mem_nil _, .nil⟩
  | cons level rest ih =>
    obtain ⟨-, inOrder, rest⟩ := validateLevels_cons valid
    obtain ⟨after, pairwise⟩ := ih rest
    refine ⟨fun previous before stored member => ?_, List.pairwise_cons.mpr ⟨after level.price rfl, pairwise⟩⟩
    rcases List.mem_cons.mp member with rfl | later
    · exact inOrder previous before
    · exact sorted_trans (inOrder previous before) (after level.price rfl stored later)

/-- A valid book has both sides checked. -/
theorem sides_of_validate {book : OrderbookSnapshot} (valid : book.validate = .ok ()) :
    validateSide book.bids "bid" true = .ok () ∧ validateSide book.asks "ask" false = .ok () := by
  unfold OrderbookSnapshot.validate at valid
  split at valid
  · cases valid
  · cases valid
  · next bids asks => exact ⟨bids, asks⟩

/-- Every level of a valid book is positive. -/
theorem positive_of_validate {book : OrderbookSnapshot} (valid : book.validate = .ok ()) :
    (∀ level ∈ book.bids, level.Positive) ∧ ∀ level ∈ book.asks, level.Positive := by
  obtain ⟨bids, asks⟩ := sides_of_validate valid
  exact ⟨positive_of_validateLevels _ bids, positive_of_validateLevels _ asks⟩

/-- A valid book lists its highest bid and its lowest ask first. -/
theorem sorted_of_validate {book : OrderbookSnapshot} (valid : book.validate = .ok ()) :
    (book.bids.Pairwise fun earlier later => later.price ≤ earlier.price) ∧
      book.asks.Pairwise fun earlier later => earlier.price ≤ later.price := by
  obtain ⟨bids, asks⟩ := sides_of_validate valid
  refine ⟨(sorted_of_validateLevels _ bids).2.imp ?_, (sorted_of_validateLevels _ asks).2.imp ?_⟩ <;>
    simp [sorted]

end FeynmanEngine.Orderbooks
