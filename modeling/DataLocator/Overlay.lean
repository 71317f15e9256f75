import DataLocator.Trace

/-! # Overlays

Laying one tree over another combines mappings key by key, at every depth. Where the two hold something else a
policy decides: which side stays when they conflict, and whether two sequences are put end to end.
-/

namespace DataLocator

/-- What becomes of two sequences at the same place. -/
inductive SequenceStrategy where
  | replace
  | concatenate
deriving DecidableEq, Repr

/-- Which side stays where two values cannot be combined. -/
inductive Precedence where
  | incoming
  | existing
deriving DecidableEq, Repr

/-- What is done where two trees hold values that are not both mappings. -/
structure OverlayPolicy where
  sequences : SequenceStrategy := .replace
  precedence : Precedence := .incoming
deriving DecidableEq, Repr

/-- The value that stays of two that are not both mappings. -/
def OverlayPolicy.settle (policy : OverlayPolicy) (existing incoming : Value) : Value :=
  match policy.sequences, existing, incoming with
  | .concatenate, .sequence items, .sequence extra => .sequence (items ++ extra)
  | _, _, _ =>
    match policy.precedence with
    | .incoming => incoming
    | .existing => existing

namespace Value

mutual

/-- The incoming value laid over an existing one. -/
def overlay (policy : OverlayPolicy) (existing : Value) : Value → Value
  | mapping layer =>
    match existing with
    | mapping entries => mapping (overlayEntries policy entries layer)
    | other => policy.settle other (mapping layer)
  | incoming => policy.settle existing incoming

/-- The entries with the pairs of a layer laid over them one after the other. -/
def overlayEntries (policy : OverlayPolicy) (entries : List (String × Value)) :
    List (String × Value) → List (String × Value)
  | [] => entries
  | (key, incoming) :: rest =>
    match entries.lookup key with
    | some existing => overlayEntries policy (Entries.insert key (overlay policy existing incoming) entries) rest
    | none => overlayEntries policy (Entries.insert key incoming entries) rest

end

end Value

/-! ## Merging

A merge lays an incoming mapping over an existing one, and the incoming values prevail. Both sides have to be
mappings. That the incoming value is one is looked at first, since it does not depend on the data.
-/

/-- The permission to merge, with what becomes of sequences. -/
structure MergeContext where
  sequences : SequenceStrategy := .replace
deriving DecidableEq, Repr

def MergeContext.policy (context : MergeContext) : OverlayPolicy := { sequences := context.sequences }

/-- Lays the incoming mapping over the existing one. -/
def mergeInto (context : MergeContext) (existing incoming : Value) : Outcome Unit :=
  match incoming, existing with
  | .mapping layer, .mapping entries =>
    { data := .mapping (Value.overlayEntries context.policy entries layer)
      result := .ok ()
      events := [.merged layer.length] }
  | .mapping _, other => { data := other, result := .error (.mergeConflict other.typeName) }
  | other, _ => { data := existing, result := .error (.invalid (.mergeValue other.typeName)) }

end DataLocator
