import DatasetPicker.Config.Response
import DatasetPicker.Proofs.Json.Fields
import DatasetPicker.Proofs.Json.Grammar

/-!
# Responses read back

A written snapshot carries itself: the colours, and every setting under its own name. So the
response that wraps it has this snapshot as its data, and errors that are reported beside it
change nothing.
-/

namespace DatasetPicker.Config

open Json

/-! ## Snapshots -/

/-- A written channel is carried. -/
theorem carries_channel (value : UInt8) :
    Carries Rgb.channelOfTree? (writeNatural value.toNat) value := by
  have carries := (carries_natural value.toNat_lt).map UInt8.ofNat
  rwa [UInt8.ofNat_toNat] at carries

/-- A written colour is carried. -/
theorem Rgb.carries_write (colour : Rgb) : Carries Rgb.ofTree? colour.write colour := by
  obtain ⟨red, readRed, isRed⟩ := carries_channel colour.red
  obtain ⟨green, readGreen, isGreen⟩ := carries_channel colour.green
  obtain ⟨blue, readBlue, isBlue⟩ := carries_channel colour.blue
  refine ⟨_, reads_array (.cons readRed (.cons readGreen (.cons readBlue .nil))), ?_⟩
  simp only [Rgb.ofTree?, isRed, isGreen, isBlue, Option.bind_eq_bind, Option.bind_some]
  rfl

/-- Written settings are carried. No field takes its default, for each is found under the name
that it was written with. -/
theorem AppConfig.carries_write (config : AppConfig) :
    Carries AppConfig.ofTree? config.write config := by
  obtain ⟨pool, readPool, isPool⟩ := carries_list config.colourPool fun name _ => carries_text name
  obtain ⟨scale, readScale, isScale⟩ := carries_text config.colourScale
  obtain ⟨zoom, readZoom, isZoom⟩ := (carries_natural config.gridZoom.toNat_lt).map UInt8.ofNat
  obtain ⟨loop, readLoop, isLoop⟩ := carries_truth config.loopVideos
  obtain ⟨height, readHeight, isHeight⟩ :=
    (carries_natural config.notebookHeight.toNat_lt).map UInt32.ofNat
  obtain ⟨confidence, readConfidence, isConfidence⟩ := carries_truth config.showConfidence
  obtain ⟨index, readIndex, isIndex⟩ := carries_truth config.showIndex
  obtain ⟨label, readLabel, isLabel⟩ := carries_truth config.showLabel
  obtain ⟨tooltip, readTooltip, isTooltip⟩ := carries_truth config.showTooltip
  obtain ⟨zone, readZone, isZone⟩ := carries_optional config.timezone
  obtain ⟨frame, readFrame, isFrame⟩ := carries_truth config.useFrameNumber
  rw [UInt8.ofNat_toNat] at isZoom
  rw [UInt32.ofNat_toNat] at isHeight
  have distinct : AppConfig.fieldNames.Nodup := by decide
  -- The names of the written members are those that are looked for, in the same order.
  have fields : Carries (·.fields? AppConfig.fieldNames) config.write
      ([pool, scale, zoom, loop, height, confidence, index, label, tooltip, zone, frame].map
        some) :=
    carries_fields (.cons readPool <| .cons readScale <| .cons readZoom <| .cons readLoop <|
      .cons readHeight <| .cons readConfidence <| .cons readIndex <| .cons readLabel <|
      .cons readTooltip <| .cons readZone <| .cons readFrame .nil) distinct
  obtain ⟨tree, reads, found⟩ := fields
  refine ⟨tree, reads, ?_⟩
  simp only [AppConfig.ofTree?, found, List.map_cons, List.map_nil, Option.bind_eq_bind,
    Option.bind_some, orDefault, isPool, isScale, isZoom, isLoop, isHeight, isConfidence, isIndex,
    isLabel, isTooltip, isZone, isFrame]
  rfl

/-- A written snapshot is carried. -/
theorem Snapshot.carries_write (snapshot : Snapshot) :
    Carries Snapshot.ofTree? snapshot.write snapshot := by
  obtain ⟨scale, readScale, isScale⟩ :=
    carries_list snapshot.colourScale fun colour _ => colour.carries_write
  obtain ⟨config, readConfig, isConfig⟩ := snapshot.config.carries_write
  have distinct : ["colorscale", "config"].Nodup := by decide
  have fields : Carries (·.fields? ["colorscale", "config"]) snapshot.write
      ([scale, config].map some) :=
    carries_fields (.cons readScale (.cons readConfig .nil)) distinct
  obtain ⟨tree, reads, found⟩ := fields
  refine ⟨tree, reads, ?_⟩
  simp only [Snapshot.ofTree?, found, List.map_cons, List.map_nil, Option.bind_eq_bind,
    Option.bind_some, orDefault, isScale, isConfig]
  rfl

/-! ## Errors -/

/-- The tree is an object that reports an error: it has one message, which is text, and beside
it whatever else under other names. -/
def Reported (tree : Tree) : Prop :=
  ∃ before message after,
    tree = Tree.ofMembers (before ++ ("message", .string (some message)) :: after) ∧
      ∀ member ∈ before ++ after, member.1 ≠ "message"

/-- The text is a list of objects that report errors. -/
def ReportsErrors (text : String) : Prop :=
  ∃ trees, read? text = some (.array trees) ∧ ∀ tree ∈ trees, Reported tree

/-- The message of a reported error is read. -/
theorem Reported.exists_message {tree : Tree} (reported : Reported tree) :
    ∃ message, Response.errorOfTree? tree = some message := by
  obtain ⟨before, message, after, rfl, others⟩ := reported
  refine ⟨message, ?_⟩
  have found : (Tree.ofMembers (before ++ ("message", .string (some message)) :: after)).fields?
      ["message"] = some [some (.string (some message))] := by
    simp only [Tree.ofMembers, Tree.fields?, named?_ofMembers, Option.bind_eq_bind,
      Option.bind_some]
    exact mapM_of_forall₂ (.cons (field?_once _ others) .nil)
  rw [Response.errorOfTree?, found]
  rfl

/-- The messages of reported errors are read. -/
theorem exists_messages {trees : List Tree} (reported : ∀ tree ∈ trees, Reported tree) :
    ∃ messages, (Tree.array trees).list? Response.errorOfTree? = some messages := by
  induction trees with
  | nil => exact ⟨[], rfl⟩
  | cons tree trees ih =>
    obtain ⟨first, others⟩ := List.forall_mem_cons.mp reported
    obtain ⟨message, isMessage⟩ := first.exists_message
    obtain ⟨messages, areMessages⟩ := ih others
    rw [Tree.list?] at areMessages
    exact ⟨message :: messages, by simp [Tree.list?, isMessage, areMessages]⟩

/-! ## Responses -/

/-- A tree that a snapshot was read from is not null. -/
theorem optional?_snapshot {tree : Tree} {snapshot : Snapshot}
    (read : Snapshot.ofTree? tree = some snapshot) :
    tree.optional? Snapshot.ofTree? = some (some snapshot) := by
  cases tree with
  | null => contradiction
  | bool _ | number _ | string _ | array _ | object _ =>
    rw [Tree.optional?, read]
    · rfl
    · nofun

/-- A document is parsed to the snapshot among its data, whatever messages its errors have. -/
theorem parseResponse_eq {body : String} {members : List (String × Tree)} {data : Tree}
    {snapshot : Snapshot} {errors : Option Tree} {messages : List String}
    (document : read? body = some (Tree.ofMembers members))
    (hasData : Tree.field? members "data" = some (some data))
    (isSnapshot : Snapshot.ofTree? data = some snapshot)
    (hasErrors : Tree.field? members "errors" = some errors)
    (areMessages : orDefault [] (·.list? Response.errorOfTree?) errors = some messages) :
    parseResponse body = .ok snapshot := by
  have fields : (Tree.ofMembers members).fields? ["data", "errors"] =
      some [some data, errors] := by
    simp only [Tree.ofMembers, Tree.fields?, named?_ofMembers, Option.bind_eq_bind,
      Option.bind_some]
    exact mapM_of_forall₂ (.cons hasData (.cons hasErrors .nil))
  have response : Response.ofTree? (Tree.ofMembers members) =
      some { data := some snapshot, errors := messages } := by
    have present : orDefault none (·.optional? Snapshot.ofTree?) (some data) =
        some (some snapshot) := optional?_snapshot isSnapshot
    rw [Tree.ofMembers] at fields ⊢
    simp only [Response.ofTree?, fields, Option.bind_eq_bind, Option.bind_some, present,
      areMessages]
    rfl
  rw [parseResponse, document, Option.bind_some, response]
  rfl

/-- A snapshot is found again in the response that wraps its text, whatever blanks stand behind
the colons and commas of the envelope, and so it is when errors are reported before or after it. -/
theorem parseResponse_write (snapshot : Snapshot) (gap : List Char)
    (blank : ∀ sign ∈ gap, isSpace sign = true) :
    parseResponse (String.ofList (objectText gap [("data", snapshot.write)])) = .ok snapshot ∧
      ∀ errors, ReportsErrors errors →
        parseResponse (String.ofList
          (objectText gap [("data", snapshot.write), ("errors", errors.toList)])) = .ok snapshot ∧
        parseResponse (String.ofList
          (objectText gap [("errors", errors.toList), ("data", snapshot.write)])) =
            .ok snapshot := by
  obtain ⟨data, reads, isSnapshot⟩ := snapshot.carries_write
  have dataMember : StandsMember ("data", snapshot.write) (some "data", data) :=
    ⟨rfl, reads.stands⟩
  constructor
  · have document : _ = some (Tree.ofMembers [("data", data)]) :=
      read?_object (.cons dataMember .nil) blank
    exact parseResponse_eq document rfl isSnapshot rfl rfl
  · rintro errors ⟨trees, read, reported⟩
    obtain ⟨messages, areMessages⟩ := exists_messages reported
    have errorsMember : StandsMember ("errors", errors.toList) (some "errors", .array trees) :=
      ⟨rfl, stands_of_read? read⟩
    constructor
    · have document : _ = some (Tree.ofMembers [("data", data), ("errors", .array trees)]) :=
        read?_object (.cons dataMember (.cons errorsMember .nil)) blank
      exact parseResponse_eq document rfl isSnapshot rfl areMessages
    · have document : _ = some (Tree.ofMembers [("errors", .array trees), ("data", data)]) :=
        read?_object (.cons errorsMember (.cons dataMember .nil)) blank
      exact parseResponse_eq document rfl isSnapshot rfl areMessages

/-- Colours, a changed pool, a time zone with a quote in it and the greatest height come back from
behind a blank, beside an error that says where it arose. -/
theorem parseResponse_write_beside_error :
    let config : AppConfig := {
      colourPool := ["#f00", "é\n"], gridZoom := 255, notebookHeight := 4294967295,
      showIndex := false, timezone := some "UTC\"" }
    let snapshot : Snapshot := { colourScale := [⟨68, 1, 84⟩, ⟨253, 231, 37⟩], config }
    let errors := String.ofList
      (writeArray [writeObject [("line", writeNatural 3), ("message", writeString "boom")]])
    (∀ sign ∈ [' '], isSpace sign = true) ∧ ReportsErrors errors ∧
      parseResponse (String.ofList (objectText [' ']
        [("data", snapshot.write), ("errors", errors.toList)])) = .ok snapshot := by
  intro config snapshot errors
  have blank : ∀ sign ∈ [' '], isSpace sign = true := List.forall_mem_singleton.mpr rfl
  have line : ReadsMember ("line", writeNatural 3) (some "line", .number (integerNumeral 3)) :=
    ⟨rfl, reads_integer 3⟩
  have message : ReadsMember ("message", writeString "boom")
      (some "message", .string (some "boom")) := ⟨rfl, reads_string "boom"⟩
  have reports : ReportsErrors errors := by
    have document := (reads_array (.cons (reads_object (.cons line (.cons message .nil))) .nil)).read?
    refine ⟨_, document, List.forall_mem_singleton.mpr ?_⟩
    exact ⟨[("line", .number (integerNumeral 3))], "boom", [], rfl, by simp⟩
  exact ⟨blank, reports, ((parseResponse_write snapshot [' '] blank).2 errors reports).1⟩

end DatasetPicker.Config
