import DataLocator.Interchange.Json
import DataLocator.Overlay
import DataLocator.Value.Rendering

/-! # Layers

A configuration is gathered from layers that are laid over one another in order, beginning with nothing. Each
layer is a mapping and says which side prevails where it conflicts with the layers below, and whether sequences
are put end to end. The first layer that is no mapping fails the gathering, whatever the others are.
-/

namespace DataLocator

/-- How a layer is laid over the layers below it. -/
inductive Layering where
  | merge
  | join
  | mergeConcatenating
  | joinConcatenating
deriving DecidableEq, Repr

def Layering.policy : Layering → OverlayPolicy
  | merge => ⟨.replace, .incoming⟩
  | join => ⟨.replace, .existing⟩
  | mergeConcatenating => ⟨.concatenate, .incoming⟩
  | joinConcatenating => ⟨.concatenate, .existing⟩

/-- One layer of a configuration. -/
structure Layer where
  layering : Layering
  data : Value

/-- A layer that is no mapping. -/
structure GatheringFailure where
  found : Value

/-- A value as it is named where a layer was wanted. -/
def GatheringFailure.describe : Value → String
  | .null => "unit"
  | .bool flag => s!"bool {flag}"
  | .integer n => s!"signed int `{n.toInt}`"
  | .unsigned n => s!"unsigned int `{n.toNat}`"
  | .float x => "float `" ++ plainStyle.render x ++ "`"
  | .string text => "string " ++ inspectText text
  | .sequence _ => "sequence"
  | .mapping _ | .record .. => "map"

def GatheringFailure.message (failure : GatheringFailure) : String :=
  "invalid type: found " ++ describe failure.found ++ ", expected map"

/-- The entries of a layer, in the form that JSON can hold. -/
def Layer.entries (layer : Layer) : Except GatheringFailure (List (String × Value)) :=
  match layer.data.jsonForm with
  | .mapping entries => .ok entries
  | _ => .error ⟨layer.data⟩

/-- Lays the layers over the entries one after the other. -/
def gatherOnto (entries : List (String × Value)) : List Layer → Except GatheringFailure Value
  | [] => .ok (.mapping entries)
  | layer :: rest =>
    match layer.entries with
    | .ok incoming => gatherOnto (Value.overlayEntries layer.layering.policy entries incoming) rest
    | .error failure => .error failure

/-- The configuration that the layers make. -/
def gather (layers : List Layer) : Except GatheringFailure Value := gatherOnto [] layers

end DataLocator
