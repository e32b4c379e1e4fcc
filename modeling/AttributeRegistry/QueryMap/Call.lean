import AttributeRegistry.QueryMap.Draft

/-!
# Calls on a query map

The operations of a query map as data, so that a run is a list of calls.  `QueryMap.perform`
answers one call and `QueryMap.run` a list of them.
-/

namespace AttributeRegistry.QueryMap

variable {K V : Type} [BEq K]

/-- An operation with its arguments. -/
inductive Call (K V : Type) where
  | get (k : K)
  | contains (k : K)
  /-- Asks whether some bound value equals `v`. -/
  | containsValue (v : V)
  | size
  | isEmpty
  | insert (k : K) (v : V)
  /-- Binds `k` to `v` if it is unbound. -/
  | insertIfNew (k : K) (v : V)
  | erase (k : K)
  | clear
  | insertAll (batch : List (K × V))
  /-- Binds every unbound key of a batch. -/
  | insertAllIfNew (batch : List (K × V))

/-- What a call answers. -/
inductive Answer (K V : Type) [BEq K] where
  | done
  | value (v : Option V)
  | flag (b : Bool)
  | count (n : Nat)
  /-- The keys of a batch that were turned away, with the values that kept them. -/
  | rejected (t : Table K V)

/-- Performs one call. -/
def perform [BEq V] (m : QueryMap K V) : Call K V → Effect (QueryMap K V) (Answer K V)
  | .get k => ⟨m, .value (m.get? k), []⟩
  | .contains k => ⟨m, .flag (m.contains k), []⟩
  | .containsValue v => ⟨m, .flag (m.containsValue v), []⟩
  | .size => ⟨m, .count m.size, []⟩
  | .isEmpty => ⟨m, .flag m.isEmpty, []⟩
  | .insert k v => (m.insert k v).map .value
  | .insertIfNew k v => (m.insertIfNew k v).map .value
  | .erase k => (m.erase k).map .value
  | .clear => m.clear.map fun _ => .done
  | .insertAll batch => (m.insertAll batch).map fun _ => .done
  | .insertAllIfNew batch => (m.insertAllIfNew batch).map .rejected

/-- The entries that a call pulls from its batch, each with the map that readers see meanwhile. -/
def pulls (m : QueryMap K V) : Call K V → List ((K × V) × QueryMap K V)
  | .insertAll batch => batch.zip ((Intake.start m).seen batch)
  | .insertAllIfNew batch => batch.zip ((Draft.start m).seen batch)
  | _ => []

/-- The map after a run of calls. -/
def after [BEq V] (m : QueryMap K V) (calls : List (Call K V)) : QueryMap K V :=
  calls.foldl (fun m c => (m.perform c).state) m

/-- The effects of a run of calls, one after the other. -/
def run [BEq V] (m : QueryMap K V) : List (Call K V) → List (Effect (QueryMap K V) (Answer K V))
  | [] => []
  | c :: rest => m.perform c :: (m.perform c).state.run rest

end AttributeRegistry.QueryMap
