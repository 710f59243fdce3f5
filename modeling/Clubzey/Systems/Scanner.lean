import Clubzey.Views.QrCodeScanner

/-! One QrCodeScanner page and the codes its camera delivers, each at most once and none
after the controller has been disposed. -/

namespace Clubzey.Systems.Scanner
open Dart Models Views

/-- A scanned code, the offset its text is read at and the two readings of the clock. -/
structure Delivery where
  offset : UtcOffset
  now : DateTime
  again : DateTime
  code : Option String

structure State where
  disposed : Bool := false
  /-- `_loading`. -/
  loading : Bool := false
  joins : List EncryptedId := []
  deriving DecidableEq

def scan (encryption : Encryption) (delivery : Delivery) : Scan × Bool :=
  Scan.scan encryption delivery.offset delivery.now delivery.again delivery.code

def listen (encryption : Encryption) (state : State) (delivery : Delivery) : State :=
  if state.disposed then state
  else match scan encryption delivery with
    | (.adding encryptedId, disposed) =>
      { disposed, loading := state.loading || disposed, joins := state.joins ++ [encryptedId] }
    | (_, disposed) => { state with disposed, loading := state.loading || disposed }

def listenAll (encryption : Encryption) (deliveries : List Delivery) : State :=
  deliveries.foldl (listen encryption) {}

theorem listen_disposed (encryption : Encryption) {state : State} (disposed : state.disposed = true)
    (delivery : Delivery) : listen encryption state delivery = state := if_pos disposed

theorem listen_all_disposed (encryption : Encryption) {state : State} (disposed : state.disposed = true)
    (deliveries : List Delivery) : deliveries.foldl (listen encryption) state = state := by
  induction deliveries with
  | nil => rfl
  | cons delivery deliveries ih => rw [List.foldl_cons, listen_disposed encryption disposed, ih]

end Clubzey.Systems.Scanner
