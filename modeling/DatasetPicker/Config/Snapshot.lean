import DatasetPicker.Config.Rgb

/-!
# The configuration of the application

A snapshot is what the server answers to the configuration query: the colour scale and
the settings of the application. Every field that the answer leaves out has a default.
-/

namespace DatasetPicker.Config

/-- The colour pool of an application that was not configured. -/
def defaultColourPool : List String :=
  ["#ee0000", "#ee6600", "#993300", "#996633", "#999900", "#009900", "#003300", "#009999",
    "#000099", "#0066ff", "#6600ff", "#cc33cc", "#777799"]

/-- The settings of the application. -/
structure AppConfig where
  colourPool : List String := defaultColourPool
  colourScale : String := "viridis"
  gridZoom : UInt8 := 5
  loopVideos : Bool := false
  notebookHeight : UInt32 := 800
  showConfidence : Bool := true
  showIndex : Bool := true
  showLabel : Bool := true
  showTooltip : Bool := true
  timezone : Option String := none
  useFrameNumber : Bool := false
  deriving DecidableEq, Repr

namespace AppConfig

/-- The names of the fields, in their order. -/
def fieldNames : List String :=
  ["colorPool", "colorscale", "gridZoom", "loopVideos", "notebookHeight", "showConfidence",
    "showIndex", "showLabel", "showTooltip", "timezone", "useFrameNumber"]

/-- The settings in a tree. -/
def ofTree? (tree : Json.Tree) : Option AppConfig := do
  match ← tree.fields? fieldNames with
  | [pool, scale, zoom, loop, height, confidence, index, label, tooltip, zone, frame] =>
    let standard : AppConfig := {}
    return {
      colourPool := ← Json.orDefault standard.colourPool (·.list? (·.text?)) pool
      colourScale := ← Json.orDefault standard.colourScale (·.text?) scale
      gridZoom :=
        ← Json.orDefault standard.gridZoom (fun t => (t.natural? UInt8.size).map .ofNat) zoom
      loopVideos := ← Json.orDefault standard.loopVideos (·.truth?) loop
      notebookHeight :=
        ← Json.orDefault standard.notebookHeight
          (fun t => (t.natural? UInt32.size).map .ofNat) height
      showConfidence := ← Json.orDefault standard.showConfidence (·.truth?) confidence
      showIndex := ← Json.orDefault standard.showIndex (·.truth?) index
      showLabel := ← Json.orDefault standard.showLabel (·.truth?) label
      showTooltip := ← Json.orDefault standard.showTooltip (·.truth?) tooltip
      timezone := ← Json.orDefault standard.timezone (·.optional? (·.text?)) zone
      useFrameNumber := ← Json.orDefault standard.useFrameNumber (·.truth?) frame }
  | _ => none

/-- Writes the settings. -/
def write (config : AppConfig) : List Char :=
  Json.writeObject
    [("colorPool", Json.writeArray (config.colourPool.map Json.writeString)),
      ("colorscale", Json.writeString config.colourScale),
      ("gridZoom", Json.writeNatural config.gridZoom.toNat),
      ("loopVideos", Json.writeBool config.loopVideos),
      ("notebookHeight", Json.writeNatural config.notebookHeight.toNat),
      ("showConfidence", Json.writeBool config.showConfidence),
      ("showIndex", Json.writeBool config.showIndex),
      ("showLabel", Json.writeBool config.showLabel),
      ("showTooltip", Json.writeBool config.showTooltip),
      ("timezone", Json.writeOptional config.timezone),
      ("useFrameNumber", Json.writeBool config.useFrameNumber)]

end AppConfig

/-- The answer to the configuration query. -/
structure Snapshot where
  colourScale : List Rgb := []
  config : AppConfig := {}
  deriving DecidableEq, Repr

namespace Snapshot

/-- A snapshot in a tree. -/
def ofTree? (tree : Json.Tree) : Option Snapshot := do
  match ← tree.fields? ["colorscale", "config"] with
  | [scale, config] =>
    return {
      colourScale := ← Json.orDefault [] (·.list? Rgb.ofTree?) scale
      config := ← Json.orDefault {} AppConfig.ofTree? config }
  | _ => none

/-- Writes a snapshot. -/
def write (snapshot : Snapshot) : List Char :=
  Json.writeObject
    [("colorscale", Json.writeArray (snapshot.colourScale.map Rgb.write)),
      ("config", snapshot.config.write)]

/-- The text of a snapshot. -/
def toJson (snapshot : Snapshot) : String := String.ofList snapshot.write

end Snapshot

end DatasetPicker.Config
