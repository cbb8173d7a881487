import DatasetPicker.Proofs.Config.Response
import DatasetPicker.Proofs.Json.Grammar
import DatasetPicker.Proofs.Json.Shape

/-!
# Known fields of a response

What is made of a response depends on its known fields alone. The members of the envelope, of its
data, of the settings and of every error may stand in any order, and there may be more of them
under other names, however deep what they hold is nested. Settings that are given replace their
defaults, and without data the messages of the errors tell why.
-/

namespace DatasetPicker.Config

open Json

/-! ## What of a response is read -/

/-- The settings are read field by field. -/
def AppConfig.shape : Shape := .record (AppConfig.fieldNames.map (·, .whole))

/-- Of a snapshot the colour scale and the settings are read. -/
def Snapshot.shape : Shape := .record [("colorscale", .whole), ("config", AppConfig.shape)]

namespace Response

/-- Of an error the message is read. -/
def errorShape : Shape := .record (["message"].map (·, .whole))

/-- Of a response the data and the errors are read. -/
def shape : Shape := .record [("data", Snapshot.shape), ("errors", .list errorShape)]

end Response

/-- Settings that are alike are read alike. -/
theorem AppConfig.respects : Respects AppConfig.shape AppConfig.ofTree? := by
  intro tree other alike
  rw [AppConfig.ofTree?, AppConfig.ofTree?, alike.fields?_eq]

/-- Snapshots that are alike are read alike. -/
theorem Snapshot.respects : Respects Snapshot.shape Snapshot.ofTree? := by
  intro tree other alike
  have found : Option.Rel (AlikeFields [("colorscale", .whole), ("config", AppConfig.shape)])
      (tree.fields? ["colorscale", "config"]) (other.fields? ["colorscale", "config"]) :=
    alike.fields?
  rw [Snapshot.ofTree?, Snapshot.ofTree?]
  generalize tree.fields? _ = first at found ⊢
  generalize other.fields? _ = second at found ⊢
  cases found with
  | none => rfl
  | some found =>
    obtain ⟨⟩ | ⟨scale, ⟨⟩ | ⟨config, ⟨⟩⟩⟩ := found
    simp only [Option.bind_eq_bind, Option.bind_some, respects_whole.orDefault _ scale,
      AppConfig.respects.orDefault _ config]

namespace Response

/-- Errors that are alike are read alike. -/
theorem respects_error : Respects errorShape errorOfTree? := by
  intro tree other alike
  have found : other.fields? ["message"] = tree.fields? ["message"] := alike.fields?_eq
  rw [errorOfTree?, errorOfTree?, found]

/-- Only the array without items is like it. -/
theorem alike_array_nil_iff {shape : Shape} {tree other : Tree} (alike : Alike shape tree other) :
    tree = .array [] ↔ other = .array [] := by
  cases alike with
  | same => rfl
  | list | row => simp
  | record => simp

/-- A response is read from its fields unless it is an array without items. -/
theorem ofTree?_eq {tree : Tree} (nonempty : tree ≠ .array []) :
    ofTree? tree = (do
      match ← tree.fields? ["data", "errors"] with
      | [data, errors] =>
        return {
          data := ← orDefault none (·.optional? Snapshot.ofTree?) data
          errors := ← orDefault [] (·.list? errorOfTree?) errors }
      | _ => none) := by
  unfold ofTree?
  split
  · contradiction
  · rfl

/-- Responses that are alike are read alike. -/
theorem respects : Respects shape ofTree? := by
  intro tree other alike
  have found : Option.Rel
      (AlikeFields [("data", Snapshot.shape), ("errors", .list errorShape)])
      (tree.fields? ["data", "errors"]) (other.fields? ["data", "errors"]) := alike.fields?
  by_cases empty : tree = .array []
  · rw [empty, (alike_array_nil_iff alike).mp empty]
  · rw [ofTree?_eq empty, ofTree?_eq (mt (alike_array_nil_iff alike).mpr empty)]
    generalize tree.fields? _ = first at found ⊢
    generalize other.fields? _ = second at found ⊢
    cases found with
    | none => rfl
    | some found =>
      obtain ⟨⟩ | ⟨data, ⟨⟩ | ⟨errors, ⟨⟩⟩⟩ := found
      simp only [Option.bind_eq_bind, Option.bind_some, Snapshot.respects.optional.orDefault _ data,
        respects_error.list.orDefault _ errors]

end Response

/-! ## Given fields -/

/-- A value is found that is written as a number below a bound. -/
theorem finds_natural {α : Type} {bound : Nat} {number : α → Nat} {value : Nat → α}
    (below : ∀ given, number given < bound) (inverse : ∀ given, value (number given) = given) :
    Finds (fun tree => (tree.natural? bound).map value)
      fun given => .number (integerNumeral (number given)) := by
  intro given
  simp only [natural?_integerNumeral (below given), Option.map_some, inverse given]

/-- A number of eight bits is found. -/
theorem finds_byte : Finds (fun tree => (tree.natural? UInt8.size).map UInt8.ofNat)
    fun value => .number (integerNumeral value.toNat) :=
  finds_natural UInt8.toNat_lt fun _ => UInt8.ofNat_toNat

/-- A number of 32 bits is found. -/
theorem finds_word : Finds (fun tree => (tree.natural? UInt32.size).map UInt32.ofNat)
    fun value => .number (integerNumeral value.toNat) :=
  finds_natural UInt32.toNat_lt fun _ => UInt32.ofNat_toNat

/-- The tree of a text that may be missing. -/
def optionalTree (text : Option String) : Tree := text.elim .null fun text => .string (some text)

/-- A text that may be missing is found. -/
theorem finds_optional : Finds (·.optional? (·.text?)) optionalTree := by
  intro text
  cases text <;> rfl

/-- The tree of a colour. -/
def Rgb.tree (colour : Rgb) : Tree :=
  .array ([colour.red, colour.green, colour.blue].map fun channel =>
    .number (integerNumeral channel.toNat))

/-- A colour is found. -/
theorem Rgb.finds_tree : Finds Rgb.ofTree? Rgb.tree := by
  intro colour
  have channel (value : UInt8) :
      channelOfTree? (.number (integerNumeral value.toNat)) = some value := finds_byte value
  simp only [tree, ofTree?, List.map_cons, List.map_nil, channel, Option.bind_eq_bind,
    Option.bind_some]
  rfl

/-- The settings that are given in a response. -/
structure AppConfig.Given where
  colourPool : Option (List String) := none
  colourScale : Option String := none
  gridZoom : Option UInt8 := none
  loopVideos : Option Bool := none
  notebookHeight : Option UInt32 := none
  showConfidence : Option Bool := none
  showIndex : Option Bool := none
  showLabel : Option Bool := none
  showTooltip : Option Bool := none
  timezone : Option (Option String) := none
  useFrameNumber : Option Bool := none

namespace AppConfig.Given

/-- The fields of the given settings. -/
def offers (given : Given) : List (String × Option Tree) :=
  [("colorPool", given.colourPool.map fun pool =>
      .array (pool.map fun name => .string (some name))),
    ("colorscale", given.colourScale.map fun scale => .string (some scale)),
    ("gridZoom", given.gridZoom.map fun zoom => .number (integerNumeral zoom.toNat)),
    ("loopVideos", given.loopVideos.map .bool),
    ("notebookHeight", given.notebookHeight.map fun height =>
      .number (integerNumeral height.toNat)),
    ("showConfidence", given.showConfidence.map .bool),
    ("showIndex", given.showIndex.map .bool),
    ("showLabel", given.showLabel.map .bool),
    ("showTooltip", given.showTooltip.map .bool),
    ("timezone", given.timezone.map optionalTree),
    ("useFrameNumber", given.useFrameNumber.map .bool)]

/-- The tree of the given settings. -/
def tree (given : Given) : Tree := .offered given.offers

/-- The settings with the given ones in place of their own. -/
def replacing (given : Given) (config : AppConfig) : AppConfig where
  colourPool := given.colourPool.getD config.colourPool
  colourScale := given.colourScale.getD config.colourScale
  gridZoom := given.gridZoom.getD config.gridZoom
  loopVideos := given.loopVideos.getD config.loopVideos
  notebookHeight := given.notebookHeight.getD config.notebookHeight
  showConfidence := given.showConfidence.getD config.showConfidence
  showIndex := given.showIndex.getD config.showIndex
  showLabel := given.showLabel.getD config.showLabel
  showTooltip := given.showTooltip.getD config.showTooltip
  timezone := given.timezone.getD config.timezone
  useFrameNumber := given.useFrameNumber.getD config.useFrameNumber

/-- The given settings are read over the defaults. -/
theorem ofTree?_tree (given : Given) :
    AppConfig.ofTree? given.tree = some (given.replacing {}) := by
  have distinct : (given.offers.map (·.1)).Nodup :=
    show AppConfig.fieldNames.Nodup by decide
  have found : given.tree.fields? AppConfig.fieldNames = some (given.offers.map (·.2)) :=
    fields?_offered distinct
  simp only [AppConfig.ofTree?, found, offers, List.map_cons, List.map_nil, Option.bind_eq_bind,
    Option.bind_some, finds_text.list.orDefault _ given.colourPool,
    finds_text.orDefault _ given.colourScale, finds_byte.orDefault _ given.gridZoom,
    finds_word.orDefault _ given.notebookHeight, finds_optional.orDefault _ given.timezone,
    finds_truth.orDefault]
  rfl

end AppConfig.Given

namespace Snapshot

/-- What is given in the data of a response. -/
structure Given where
  colourScale : Option (List Rgb) := none
  config : Option AppConfig.Given := none

namespace Given

/-- The tree of the given data. -/
def tree (given : Given) : Tree :=
  .offered
    [("colorscale", given.colourScale.map fun colours => .array (colours.map Rgb.tree)),
      ("config", given.config.map AppConfig.Given.tree)]

/-- The snapshot of the given data. -/
def snapshot (given : Given) : Snapshot where
  colourScale := given.colourScale.getD []
  config := (given.config.map (·.replacing {})).getD {}

/-- The given data are read as their snapshot. -/
theorem ofTree?_tree (given : Given) : Snapshot.ofTree? given.tree = some given.snapshot := by
  have found : given.tree.fields? ["colorscale", "config"] =
      some [given.colourScale.map fun colours => .array (colours.map Rgb.tree),
        given.config.map AppConfig.Given.tree] :=
    fields?_offered (show ["colorscale", "config"].Nodup by decide)
  have config : orDefault {} AppConfig.ofTree? (given.config.map AppConfig.Given.tree) =
      some ((given.config.map (·.replacing {})).getD {}) := by
    cases given.config with
    | none => rfl
    | some config => exact config.ofTree?_tree
  simp only [Snapshot.ofTree?, found, Option.bind_eq_bind, Option.bind_some,
    Rgb.finds_tree.list.orDefault _ given.colourScale, config]
  rfl

end Given

end Snapshot

namespace Response

/-- The tree of an error with the message. -/
def errorTree (message : String) : Tree := .ofMembers [("message", .string (some message))]

/-- The message of an error is found. -/
theorem finds_error : Finds errorOfTree? errorTree := fun _ => rfl

/-- The tree of a response with the data and the messages of errors, so far as they are given. -/
def envelope (data : Option Tree) (messages : Option (List String)) : Tree :=
  .offered
    [("data", data), ("errors", messages.map fun messages => .array (messages.map errorTree))]

/-- A response is read from its data and the messages of its errors. -/
theorem ofTree?_envelope {data : Option Tree} {found : Option Snapshot}
    (read : orDefault none (·.optional? Snapshot.ofTree?) data = some found)
    (messages : Option (List String)) :
    ofTree? (envelope data messages) = some { data := found, errors := messages.getD [] } := by
  have fields : (envelope data messages).fields? ["data", "errors"] =
      some [data, messages.map fun messages => .array (messages.map errorTree)] :=
    fields?_offered (show ["data", "errors"].Nodup by decide)
  have object : envelope data messages ≠ .array [] := show Tree.object _ ≠ .array [] from nofun
  rw [ofTree?_eq object, fields]
  simp only [Option.bind_eq_bind, Option.bind_some, read,
    finds_error.list.orDefault _ messages]
  rfl

end Response

/-! ## Parsed responses -/

/-- A document is parsed from its tree. -/
theorem parseResponse_document {body : String} {tree : Tree}
    (document : Document body.toList tree) :
    parseResponse body =
      (Response.ofTree? tree).elim (.error (.json "the body is not a response"))
        Response.snapshot := by
  rw [parseResponse, read?_eq_some_iff.mpr document, Option.bind_some]
  cases Response.ofTree? tree <;> rfl

/-- A document is parsed to what all documents are that are like it. If it is like a response with
given data, whatever the messages of its errors, these data are the snapshot, with a default for
whatever is not given. If it is like a response without data, the messages tell why, in their
order. -/
theorem parseResponse_known {body : String} {tree : Tree} (document : Document body.toList tree) :
    (∀ (other : String) (otherTree : Tree), Document other.toList otherTree →
      Alike Response.shape tree otherTree → parseResponse other = parseResponse body) ∧
    (∀ (given : Snapshot.Given) (messages : Option (List String)),
      Alike Response.shape (Response.envelope (some given.tree) messages) tree →
        parseResponse body = .ok given.snapshot) ∧
    (∀ (data : Option Tree) (messages : Option (List String)), data = none ∨ data = some .null →
      Alike Response.shape (Response.envelope data messages) tree →
        parseResponse body = .error (.emptyResponse
          (if messages.getD [] = [] then "response has no `data` field"
          else "; ".intercalate (messages.getD [])))) := by
  refine ⟨?_, ?_, ?_⟩
  · intro other otherTree also alike
    rw [parseResponse_document document, parseResponse_document also, Response.respects alike]
  · intro given messages alike
    have data : orDefault none (·.optional? Snapshot.ofTree?) (some given.tree) =
        some (some given.snapshot) := optional?_snapshot given.ofTree?_tree
    rw [parseResponse_document document, Response.respects alike,
      Response.ofTree?_envelope data messages]
    rfl
  · intro data messages missing alike
    have nothing : orDefault none (·.optional? Snapshot.ofTree?) data = some none := by
      obtain rfl | rfl := missing <;> rfl
    rw [parseResponse_document document, Response.respects alike,
      Response.ofTree?_envelope nothing messages]
    change Except.error (Failure.emptyResponse (Response.reason (messages.getD []))) = _
    simp only [Response.reason, List.isEmpty_iff]

/-- Members under unknown names stand before the data, before the settings and before the zoom. The
zoom is read as if they were not there. Of two errors the first has a line beside its message, and
both messages are told. -/
theorem parseResponse_known_extended :
    let given : Snapshot.Given := { config := some { gridZoom := some 7 } }
    let newer : Content × Tree := (some "newer", .null)
    let zoom : Content × Tree := (some "gridZoom", .number (integerNumeral 7))
    let more : Content × Tree := (some "more", .bool true)
    let config : Tree := .object [newer, zoom]
    let data : Tree := .object [more, (some "config", config)]
    let extra : Content × Tree := (some "extra", .array [.array []])
    let extended : Tree := .object [extra, (some "data", data)]
    let line : Content × Tree := (some "line", .number (integerNumeral 3))
    let message : Content × Tree := (some "message", .string (some "boom"))
    let errors : Tree := .array [.object [line, message], Response.errorTree "again"]
    let zoomText := ("gridZoom", writeNatural 7)
    let body := String.ofList
      (writeObject [("data", writeObject [("config", writeObject [zoomText])])])
    let other := String.ofList (writeObject
      [("extra", writeArray [writeArray []]), ("data", writeObject
        [("more", writeBool true), ("config", writeObject [("newer", writeNull), zoomText])])])
    let failed := String.ofList (writeObject [("errors", writeArray
      [writeObject [("line", writeNatural 3), ("message", writeString "boom")],
        writeObject [("message", writeString "again")]])])
    Document body.toList (Response.envelope (some given.tree) none) ∧
      Document other.toList extended ∧ parseResponse other = parseResponse body ∧
      parseResponse other = .ok { config := { gridZoom := 7 } } ∧
      Document failed.toList (.object [(some "errors", errors)]) ∧
      parseResponse failed = .error (.emptyResponse "boom; again") := by
  intro given newer zoom more config data extra extended line message errors zoomText body other
    failed
  have zoomReads : ReadsMember zoomText zoom := ⟨rfl, reads_integer 7⟩
  have plain : Document body.toList (Response.envelope (some given.tree) none) :=
    read?_eq_some_iff.mp (reads_object (.cons ⟨rfl, reads_object (.cons ⟨rfl, reads_object
      (.cons zoomReads .nil)⟩ .nil)⟩ .nil)).read?
  have document : Document other.toList extended :=
    read?_eq_some_iff.mp (reads_object (.cons ⟨rfl, reads_array (.cons (reads_array .nil) .nil)⟩
      (.cons ⟨rfl, reads_object (.cons ⟨rfl, reads_bool true⟩ (.cons ⟨rfl, reads_object
        (.cons ⟨rfl, reads_null⟩ (.cons zoomReads .nil))⟩ .nil))⟩ .nil))).read?
  have failure : Document failed.toList (.object [(some "errors", errors)]) :=
    read?_eq_some_iff.mp (reads_object (.cons ⟨rfl, reads_array (.cons
      (reads_object (.cons ⟨rfl, reads_integer 3⟩ (.cons ⟨rfl, reads_string "boom"⟩ .nil)))
        (.cons (reads_object (.cons ⟨rfl, reads_string "again"⟩ .nil)) .nil))⟩ .nil)).read?
  have unknown {fields : List (String × Shape)} {name : String} {tree : Tree}
      (new : name ∉ fields.map (·.1)) : ∀ member ∈ [((some name : Content), tree)],
        ∃ name, member.1 = some name ∧ name ∉ fields.map (·.1) :=
    List.forall_mem_singleton.mpr ⟨name, rfl, new⟩
  have configAlike : Alike AppConfig.shape (AppConfig.Given.tree { gridZoom := some 7 }) config :=
    alike_extended (unknown (by decide)) (List.reverse_perm [zoom, newer])
  have dataAlike : Alike Snapshot.shape given.tree data := by
    refine @Alike.record _ [(some "config", AppConfig.Given.tree { gridZoom := some 7 }, config)]
      [more] _ (List.forall_mem_singleton.mpr ?_) (unknown (by decide))
      (List.reverse_perm [(some "config", config), more])
    exact List.forall_mem_cons.mpr ⟨fun same => absurd same (by decide),
      List.forall_mem_singleton.mpr fun _ => configAlike⟩
  have alike : Alike Response.shape (Response.envelope (some given.tree) none) extended := by
    refine @Alike.record _ [(some "data", given.tree, data)] [extra] _
      (List.forall_mem_singleton.mpr ?_) (unknown (by decide))
      (List.reverse_perm [(some "data", data), extra])
    exact List.forall_mem_cons.mpr ⟨fun _ => dataAlike,
      List.forall_mem_singleton.mpr fun same => absurd same (by decide)⟩
  have errorsAlike : Alike (.list Response.errorShape)
      (.array (["boom", "again"].map Response.errorTree)) errors := by
    refine @Alike.list _ [(Response.errorTree "boom", .object [line, message]),
      (Response.errorTree "again", Response.errorTree "again")] (List.forall_mem_cons.mpr ⟨?_, ?_⟩)
    · exact alike_extended (unknown (by decide)) (List.reverse_perm [message, line])
    · exact List.forall_mem_singleton.mpr (.same _ _)
  have failedAlike : Alike Response.shape (Response.envelope none (some ["boom", "again"]))
      (.object [(some "errors", errors)]) := by
    refine @Alike.record _ [(some "errors", .array (["boom", "again"].map Response.errorTree),
      errors)] [] _ (List.forall_mem_singleton.mpr ?_) nofun (.refl _)
    exact List.forall_mem_cons.mpr ⟨fun same => absurd same (by decide),
      List.forall_mem_singleton.mpr fun _ => errorsAlike⟩
  exact ⟨plain, document, (parseResponse_known plain).1 other extended document alike,
    (parseResponse_known document).2.1 given none alike, failure,
    (parseResponse_known failure).2.2 none (some ["boom", "again"]) (.inl rfl) failedAlike⟩

/-- A name that is half of a surrogate pair is no text. No field has it, and yet the response that
it is added to is refused. -/
theorem parseResponse_broken_name :
    let body := "\x7b\"data\":\x7b\x7d\x7d"
    let other := "\x7b\"data\":\x7b\x7d,\"\\ud800\":null\x7d"
    Document body.toList (.object [(some "data", .object [])]) ∧
      Document other.toList (.object [(some "data", .object []), (none, .null)]) ∧
      (none : Content) ∉ [some "data", some "errors"] ∧
      parseResponse body = .ok {} ∧
      parseResponse other = .error (.json "the body is not a response") := by
  intro body other
  have name {content : Content} {text : List Char} (read : string? text = some (content, [])) :
      NameText content ('"' :: text) := by
    obtain ⟨string, spelled, whole⟩ := string?_eq_some_iff.mp read
    rw [List.append_nil] at whole
    rw [whole]
    exact ⟨[], string, [], blank_nil, spelled, blank_nil, by simp⟩
  let known : ParsedMember := ⟨"\"data\"".toList, some "data", "\x7b\x7d".toList, .object []⟩
  let broken : ParsedMember := ⟨"\"\\ud800\"".toList, none, writeNull, .null⟩
  have knownName : NameText known.content known.name := name (by decide)
  have brokenName : NameText broken.content broken.name := name (by decide)
  have knownValue : Document known.value known.tree := .emptyObject blank_nil
  have document : Document body.toList (.object [(some "data", .object [])]) := by
    have text : body.toList = '\x7b' :: (separate [known.text] ++ ['\x7d']) := by decide
    rw [text]
    exact @Document.object [known] (List.cons_ne_nil _ _) (List.forall_mem_singleton.mpr knownName)
      (List.forall_mem_singleton.mpr knownValue)
  have longer : Document other.toList (.object [(some "data", .object []), (none, .null)]) := by
    have text : other.toList = '\x7b' :: (separate [known.text, broken.text] ++ ['\x7d']) := by
      decide
    rw [text]
    exact @Document.object [known, broken] (List.cons_ne_nil _ _)
      (List.forall_mem_cons.mpr ⟨knownName, List.forall_mem_singleton.mpr brokenName⟩)
      (List.forall_mem_cons.mpr ⟨knownValue, List.forall_mem_singleton.mpr .null⟩)
  refine ⟨document, longer, by decide, ?_, ?_⟩
  · rw [parseResponse_document document]
    rfl
  · rw [parseResponse_document longer]
    rfl

end DatasetPicker.Config
