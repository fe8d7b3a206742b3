import FeynmanEngine.KeyedLog
import FeynmanEngine.SignalBridge

/-! The symbol map under inserts in any order. The code keeps two maps and
updates both in one call; here they are followed as they are, with nothing said
about how they agree. What they agree on is the log of the first insertions:
the forward map looks a symbol up in it, and the reverse map lists it by
instrument. -/
namespace FeynmanEngine.SymbolListings
open Ids Tables VenueOrders SignalBridge KeyedLog

/-- The maps of a `SymbolMap` as the code holds them. -/
structure SymbolMaps where
  forward : Table (VenueId × String) InstrumentId
  reverse : Table InstrumentId (List VenueSymbol)

/-- One call of `insert`. -/
structure Insertion where
  listing : VenueSymbol
  instrumentId : InstrumentId
  deriving DecidableEq

namespace SymbolMaps

/-- `SymbolMap::default()`. -/
def default : SymbolMaps := ⟨∅, ∅⟩

/-- `insert`: the maps it leaves, and what it returns. -/
def insert (maps : SymbolMaps) (venueId : VenueId) (symbol : String) (instrumentId : InstrumentId) :
    SymbolMaps × Except GatewayError Unit :=
  match maps.forward.lookup (venueId, symbol) with
  | some existing =>
    if existing ≠ instrumentId then
      (maps, .error (.validation ("symbol map conflict for " ++ venueId.value ++ ":" ++ symbol ++
        ": already mapped to " ++ existing.value)))
    else (maps, .ok ())
  | none =>
    ({ forward := maps.forward.insert (venueId, symbol) instrumentId
       reverse := maps.reverse.insert instrumentId
        (SymbolMap.pushListing ((maps.reverse.lookup instrumentId).getD []) ⟨venueId, symbol⟩) }, .ok ())

def apply (maps : SymbolMaps) (call : Insertion) : SymbolMaps × Except GatewayError Unit :=
  maps.insert call.listing.venueId call.listing.symbol call.instrumentId

/-- The maps after some calls, whatever each of them returned. -/
def run (maps : SymbolMaps) (calls : List Insertion) : SymbolMaps :=
  calls.foldl (fun maps call => (maps.apply call).1) maps

/-- The instrument a listing is mapped to. -/
def mapped (maps : SymbolMaps) (listing : VenueSymbol) : Option InstrumentId :=
  maps.forward.lookup (listing.venueId, listing.symbol)

/-- The listings under an instrument. -/
def listings (maps : SymbolMaps) (instrumentId : InstrumentId) : List VenueSymbol :=
  (maps.reverse.lookup instrumentId).getD []

/-- A call that finds its listing mapped changes nothing. -/
theorem apply_mapped (found : maps.mapped call.listing = some existing) : (apply maps call).1 = maps := by
  unfold mapped at found
  unfold apply insert
  rw [found]
  dsimp only
  split
  · rfl
  · rfl

/-- A call that finds its listing free maps and lists it. -/
theorem apply_free (free : maps.mapped call.listing = none) :
    apply maps call = ({ forward := maps.forward.insert (call.listing.venueId, call.listing.symbol) call.instrumentId
                         reverse := maps.reverse.insert call.instrumentId
                          (SymbolMap.pushListing (maps.listings call.instrumentId) call.listing) }, .ok ()) := by
  unfold mapped at free
  unfold apply insert
  rw [free]
  rfl

/-- A refused call changes neither map. -/
theorem apply_refused (refused : (apply maps call).2 = .error error) : (apply maps call).1 = maps := by
  cases found : maps.mapped call.listing with
  | some existing => exact apply_mapped found
  | none =>
    rw [apply_free found] at refused
    cases refused

theorem key_eq_iff (one other : VenueSymbol) :
    (one.venueId, one.symbol) = (other.venueId, other.symbol) ↔ one = other := by
  rw [Prod.mk.injEq, VenueSymbol.mk.injEq]

theorem mapped_apply (free : maps.mapped call.listing = none) (listing : VenueSymbol) :
    (apply maps call).1.mapped listing = if listing = call.listing then some call.instrumentId else maps.mapped listing := by
  rw [apply_free free]
  unfold mapped
  rw [lookup_insert_if]
  simp only [key_eq_iff]

theorem listings_apply (free : maps.mapped call.listing = none) (instrumentId : InstrumentId) :
    (apply maps call).1.listings instrumentId =
      if instrumentId = call.instrumentId then SymbolMap.pushListing (maps.listings instrumentId) call.listing
      else maps.listings instrumentId := by
  rw [apply_free free, listings, lookup_insert_if]
  split
  · next same => rw [same, Option.getD_some]
  · rfl

/-- A mapped listing stays mapped to its instrument. -/
theorem mapped_kept (found : maps.mapped listing = some instrumentId) (call : Insertion) :
    (apply maps call).1.mapped listing = some instrumentId := by
  cases taken : maps.mapped call.listing with
  | some existing =>
    rw [apply_mapped taken]
    exact found
  | none =>
    have other : listing ≠ call.listing := by
      rintro rfl
      rw [found] at taken
      cases taken
    rw [mapped_apply taken, if_neg other]
    exact found

theorem mapped_kept_run (found : maps.mapped listing = some instrumentId) (calls : List Insertion) :
    (run maps calls).mapped listing = some instrumentId := by
  induction calls generalizing maps with
  | nil => exact found
  | cons call rest ih => exact ih (mapped_kept found call)

/-- The two maps of a map that carries its consistency. -/
def ofSymbolMap (map : SymbolMap) : SymbolMaps := ⟨map.forward, map.reverse⟩

theorem insert_of_mapped {map : SymbolMap} (found : map.forward.lookup (venueId, symbol) = some existing)
    (instrumentId : InstrumentId) :
    map.insert venueId symbol instrumentId =
      if existing ≠ instrumentId then
        .error (.validation ("symbol map conflict for " ++ venueId.value ++ ":" ++ symbol ++
          ": already mapped to " ++ existing.value))
      else .ok map := by
  unfold SymbolMap.insert
  split
  · next other same =>
    rw [found] at same
    cases same
    rfl
  · next free =>
    rw [found] at free
    cases free

theorem insert_of_free {map : SymbolMap} (free : map.forward.lookup (venueId, symbol) = none)
    (instrumentId : InstrumentId) :
    ∃ next, map.insert venueId symbol instrumentId = .ok next ∧
      ofSymbolMap next = ⟨map.forward.insert (venueId, symbol) instrumentId,
        map.reverse.insert instrumentId
          (SymbolMap.pushListing ((map.reverse.lookup instrumentId).getD []) ⟨venueId, symbol⟩)⟩ := by
  unfold SymbolMap.insert
  split
  · next existing found =>
    rw [free] at found
    cases found
  · exact ⟨_, rfl, rfl⟩

/-- The bridge's map takes the same inserts. -/
theorem insert_ofSymbolMap (map : SymbolMap) (venueId : VenueId) (symbol : String) (instrumentId : InstrumentId) :
    (ofSymbolMap map).insert venueId symbol instrumentId =
      match map.insert venueId symbol instrumentId with
      | .ok next => (ofSymbolMap next, .ok ())
      | .error error => (ofSymbolMap map, .error error) := by
  unfold insert
  cases found : map.forward.lookup (venueId, symbol) with
  | some existing =>
    have found' : (ofSymbolMap map).forward.lookup (venueId, symbol) = some existing := found
    rw [insert_of_mapped found, found']
    dsimp only
    split
    · rfl
    · rfl
  | none =>
    have free : (ofSymbolMap map).forward.lookup (venueId, symbol) = none := found
    obtain ⟨next, inserted, same⟩ := insert_of_free found instrumentId
    rw [inserted, free]
    dsimp only
    rw [same]
    rfl

/-- The bridge's map after some calls; a refused one leaves it as it is. -/
def runBridge (map : SymbolMap) (calls : List Insertion) : SymbolMap :=
  calls.foldl (fun map call =>
    match map.insert call.listing.venueId call.listing.symbol call.instrumentId with
    | .ok next => next
    | .error _ => map) map

theorem ofSymbolMap_runBridge (map : SymbolMap) (calls : List Insertion) :
    ofSymbolMap (runBridge map calls) = run (ofSymbolMap map) calls := by
  induction calls generalizing map with
  | nil => rfl
  | cons call rest ih =>
    unfold runBridge run at ih ⊢
    rw [List.foldl_cons, List.foldl_cons, ih, apply, insert_ofSymbolMap]
    congr 1
    cases map.insert call.listing.venueId call.listing.symbol call.instrumentId with
    | ok next => rfl
    | error error => rfl

/-- The calls whose listing no earlier call had. -/
def firstInsertions (calls : List Insertion) : List Insertion := calls.foldl (addNew Insertion.listing) []

/-- The maps hold a log: forward by listing, in reverse by instrument. -/
structure Holds (maps : SymbolMaps) (log : List Insertion) : Prop where
  unique : (log.map Insertion.listing).Nodup
  mapped : ∀ listing instrumentId, maps.mapped listing = some instrumentId ↔ ⟨listing, instrumentId⟩ ∈ log
  listings : ∀ instrumentId, maps.listings instrumentId =
    (log.filter fun call => call.instrumentId = instrumentId).map Insertion.listing

theorem holds_default : Holds default [] where
  unique := .nil
  mapped listing instrumentId := by
    constructor
    · exact nofun
    · exact nofun
  listings instrumentId := rfl

theorem Holds.taken_iff (holds : Holds maps log) (listing : VenueSymbol) :
    listing ∈ log.map Insertion.listing ↔ ∃ instrumentId, maps.mapped listing = some instrumentId := by
  rw [List.mem_map]
  constructor
  · rintro ⟨call, logged, rfl⟩
    exact ⟨call.instrumentId, (holds.mapped _ _).mpr logged⟩
  · rintro ⟨instrumentId, found⟩
    exact ⟨⟨listing, instrumentId⟩, (holds.mapped _ _).mp found, rfl⟩

theorem Holds.mem_listings_iff (holds : Holds maps log) (instrumentId : InstrumentId) (listing : VenueSymbol) :
    listing ∈ maps.listings instrumentId ↔ maps.mapped listing = some instrumentId := by
  rw [holds.listings, holds.mapped, List.mem_map]
  constructor
  · rintro ⟨call, logged, rfl⟩
    obtain ⟨member, own⟩ := List.mem_filter.mp logged
    rw [← of_decide_eq_true own]
    exact member
  · intro logged
    exact ⟨⟨listing, instrumentId⟩, List.mem_filter.mpr ⟨logged, decide_eq_true rfl⟩, rfl⟩

theorem pushListing_fresh {listed : List VenueSymbol} (fresh : listing ∉ listed) :
    SymbolMap.pushListing listed listing = listed ++ [listing] := by
  unfold SymbolMap.pushListing
  refine if_neg fun present => fresh ?_
  simp only [List.any_eq_true, decide_eq_true_eq] at present
  obtain ⟨candidate, member, venueId, symbol⟩ := present
  have same := (key_eq_iff candidate listing).mp (Prod.ext venueId symbol)
  rwa [same] at member

/-- One call adds to both maps what it adds to the log. -/
theorem holds_apply (holds : Holds maps log) (call : Insertion) :
    Holds (apply maps call).1 (addNew Insertion.listing log call) := by
  cases found : maps.mapped call.listing with
  | some existing =>
    rw [apply_mapped found, addNew_taken ((holds.taken_iff _).mpr ⟨existing, found⟩)]
    exact holds
  | none =>
    have fresh : call.listing ∉ log.map Insertion.listing := by
      intro logged
      obtain ⟨instrumentId, taken⟩ := (holds.taken_iff _).mp logged
      rw [found] at taken
      cases taken
    rw [addNew_fresh fresh]
    refine ⟨?_, fun listing instrumentId => ?_, fun instrumentId => ?_⟩
    · rw [List.map_append]
      refine List.nodup_append'.mpr ⟨holds.unique, List.nodup_singleton _, fun listing here there => ?_⟩
      rw [List.mem_singleton.mp there] at here
      exact fresh here
    · rw [mapped_apply found, List.mem_append, List.mem_singleton, ← holds.mapped]
      split
      · next same =>
        subst same
        rw [found]
        cases call
        simp [eq_comm]
      · next other =>
        have differs : (⟨listing, instrumentId⟩ : Insertion) ≠ call := fun same => other (congrArg Insertion.listing same)
        simp [differs]
    · have unlisted : call.listing ∉ maps.listings call.instrumentId := by
        rw [holds.mem_listings_iff, found]
        exact nofun
      rw [listings_apply found, List.filter_append, List.map_append, ← holds.listings]
      split
      · next own =>
        subst own
        rw [pushListing_fresh unlisted, List.filter_singleton]
        simp
      · next other =>
        rw [List.filter_singleton]
        simp [Ne.symm other]

theorem holds_run (holds : Holds maps log) (calls : List Insertion) :
    Holds (run maps calls) (calls.foldl (addNew Insertion.listing) log) := by
  induction calls generalizing maps log with
  | nil => exact holds
  | cons call rest ih => exact ih (holds_apply holds call)

/-- Maps reached from empty ones hold the first insertions. -/
theorem holds_firstInsertions (calls : List Insertion) : Holds (run default calls) (firstInsertions calls) :=
  holds_run holds_default calls

/-- After any calls the two maps agree: what one maps the other lists, once, in
the order of first insertion, and for good; a refused call changes nothing. The
bridge's own map, which carries the agreement, is the same two maps. -/
theorem maps_agree (calls : List Insertion) :
    (∀ instrumentId listing, listing ∈ (run default calls).listings instrumentId ↔
      (run default calls).mapped listing = some instrumentId) ∧
    (∀ instrumentId, ((run default calls).listings instrumentId).Nodup) ∧
    (∀ one other, one ≠ other →
      ((run default calls).listings one).Disjoint ((run default calls).listings other)) ∧
    (∀ instrumentId, ((run default calls).listings instrumentId).Pairwise fun earlier later =>
      (calls.map Insertion.listing).idxOf earlier < (calls.map Insertion.listing).idxOf later) ∧
    (∀ listing instrumentId later, (run default calls).mapped listing = some instrumentId →
      (run default (calls ++ later)).mapped listing = some instrumentId) ∧
    (∀ call error, (apply (run default calls) call).2 = .error error →
      (apply (run default calls) call).1 = run default calls) ∧
    ofSymbolMap (runBridge SymbolMap.default calls) = run default calls := by
  have holds := holds_firstInsertions calls
  have part : ∀ instrumentId, ((run default calls).listings instrumentId).Sublist
      ((firstInsertions calls).map Insertion.listing) := by
    intro instrumentId
    rw [holds.listings]
    exact List.filter_sublist.map _
  refine ⟨holds.mem_listings_iff, fun instrumentId => ?_, fun one other different => ?_, fun instrumentId => ?_,
    fun listing instrumentId later found => ?_, fun call error refused => apply_refused refused,
    ofSymbolMap_runBridge SymbolMap.default calls⟩
  · exact holds.unique.sublist (part instrumentId)
  · intro listing here there
    rw [holds.mem_listings_iff] at here there
    exact different (Option.some.inj (here.symm.trans there))
  · exact (foldl_addNew_firsts Insertion.listing calls).sublist (part instrumentId)
  · unfold run at found ⊢
    rw [List.foldl_append]
    exact mapped_kept_run found later

end SymbolMaps
end FeynmanEngine.SymbolListings
