import DatasetPicker.Proofs.Backend.Sending
import DatasetPicker.Proofs.Json.Values

/-!
# The stream of a writer

A writer receives one line for each message. No line breaks within, and each is read as the
message it was written for: the kind, and the entries of the payload in their order. So the
stream can be taken apart into its messages in one way only.
-/

namespace DatasetPicker

open Json

namespace Backend

namespace Message

/-- How deep arrays and objects are nested in the text of the message. The message itself and
its payload are two levels. -/
def depth (message : Message) : Nat := Value.depthOfMembers message.payload + 2

/-- The message was built up entry by entry, all numbers in it are integers of 64 bits, and its
text is nested less than 128 deep. -/
structure Portable (message : Message) : Prop where
  built : ∃ kind entries, message = build kind entries
  integral : ∀ entry ∈ message.payload, entry.2.Integral
  shallow : message.depth < 128

/-! ## Payloads -/

/-- An added entry has a name that was there or comes last. -/
theorem insertKept_names {α : Type} (name : String) (value : α) (kept : List (String × α)) :
    (insertKept name value kept).map (·.1) =
      if name ∈ kept.map (·.1) then kept.map (·.1) else kept.map (·.1) ++ [name] := by
  induction kept with
  | nil => rfl
  | cons entry rest ih =>
    obtain ⟨other, before⟩ := entry
    by_cases same : name = other
    · simp [insertKept, same]
    · rw [insertKept, if_neg same, List.map_cons, ih]
      by_cases later : name ∈ rest.map (·.1) <;> simp_all

/-- The names in a payload that was built up are distinct. -/
theorem build_distinct (kind : String) (entries : List (String × Value)) :
    (build kind entries).payload.Pairwise fun left right => left.1 ≠ right.1 := by
  rw [← List.pairwise_map]
  have onward (message : Message) (distinct : (message.payload.map (·.1)).Nodup) :
      ((entries.foldl (fun message entry => message.withValue entry.1 entry.2)
        message).payload.map (·.1)).Nodup := by
    induction entries generalizing message with
    | nil => exact distinct
    | cons entry rest ih =>
      refine ih (message.withValue entry.1 entry.2) ?_
      rw [withValue, insertKept_names]
      split
      · exact distinct
      · rename_i new
        refine List.nodup_append.mpr ⟨distinct, List.pairwise_singleton _ _, ?_⟩
        intro name among added only same
        exact new (List.mem_singleton.mp only ▸ same ▸ among)
  exact onward { kind } List.nodup_nil

/-! ## Lines -/

/-- The text of a portable message is read as the tree of its kind and its payload. -/
theorem Portable.exists_tree {message : Message} (portable : message.Portable) :
    ∃ members, Tree.valuesOfMembers? members = some message.payload ∧
      Reads message.write
        (.object [(some "type", .string message.kind), (some "payload", .object members)]) := by
  obtain ⟨members, reads, means⟩ := exists_memberTrees fun entry among =>
    (portable.integral entry among).exists_tree
  have kind : ReadsMember ("type", writeString message.kind)
      (some "type", .string message.kind) := ⟨rfl, reads_string message.kind⟩
  have payload : ReadsMember ("payload", writeObject (Value.writeMembers message.payload))
      (some "payload", .object members) := ⟨rfl, reads_object reads⟩
  exact ⟨members, means, reads_object (.cons kind (.cons payload .nil))⟩

/-- The text of a portable message is read as this message. -/
theorem Portable.ofJson? {message : Message} (portable : message.Portable) :
    ofJson? (String.ofList message.write) = some message := by
  obtain ⟨members, means, reads⟩ := portable.exists_tree
  obtain ⟨kind, entries, rfl⟩ := portable.built
  have kept := foldl_appends insertKept_appends _ (build_distinct kind entries)
  have shallow : Value.depthOfMembers (build kind entries).payload + 2 ≤ greatestDepth :=
    Nat.le_of_lt_succ portable.shallow
  have payload : payloadOfTree? (.object members) = some (build kind entries).payload := by
    simp only [payloadOfTree?, means, Option.bind_eq_bind, Option.bind_some, if_pos shallow, kept]
    rfl
  rw [Message.ofJson?, reads.read?, Option.bind_some, ofTree?]
  change (payloadOfTree? (.object members)).bind (fun payload =>
    some ({ kind := (build kind entries).kind, payload } : Message)) = _
  rw [payload]
  rfl

/-- The text of a portable message is a line: it is not empty, and no line breaks within. -/
theorem Portable.line {message : Message} (portable : message.Portable) :
    message.write ≠ [] ∧ '\n' ∉ message.write := by
  obtain ⟨members, -, reads⟩ := portable.exists_tree
  obtain ⟨sign, body, shape, -⟩ := reads.begins
  exact ⟨by simp [shape], reads.unbroken⟩

end Message

/-! ## Streams -/

/-- What a writer receives when messages are sent to it in order. -/
def written (messages : List Message) : List Char :=
  (({ kind := .writer } : Backend).sendAll messages).stream

/-- It receives a line for each message. -/
theorem written_eq (messages : List Message) :
    written messages = messages.flatMap Message.line := by
  rw [written, stream, sendAll_arrived _ messages (.inr rfl), List.nil_append]

/-- The lines of portable messages are found again between the breaks, and nothing is left
behind the last break. -/
theorem splitOn_written (messages : List Message)
    (portable : ∀ message ∈ messages, message.Portable) :
    (written messages).splitOn '\n' = messages.map Message.write ++ [[]] := by
  rw [written_eq]
  induction messages with
  | nil => rfl
  | cons message rest ih =>
    obtain ⟨first, others⟩ := List.forall_mem_cons.mp portable
    have split : (message :: rest).flatMap Message.line =
        message.write ++ '\n' :: rest.flatMap Message.line := by
      simp [Message.line]
    rw [split, List.splitOn_append_cons_self_of_not_mem first.line.2, ih others]
    rfl

/-- The lines of portable messages are read as the messages. -/
theorem ofJson?_lines (messages : List Message)
    (portable : ∀ message ∈ messages, message.Portable) :
    (messages.map Message.write).map (fun line => Message.ofJson? (String.ofList line)) =
      messages.map some := by
  rw [List.map_map]
  refine List.map_congr_left ?_
  intro message among
  rw [Function.comp_apply]
  exact (portable message among).ofJson?

/-- What a writer received of portable messages, split where lines break, is one line for each
message, none of them empty, and an empty rest. Each line is read as its message. So portable
messages that leave the same stream are the same. -/
theorem stream_decodes (messages : List Message)
    (portable : ∀ message ∈ messages, message.Portable) :
    (∃ lines, (written messages).splitOn '\n' = lines ++ [[]] ∧ (∀ line ∈ lines, line ≠ []) ∧
        lines.map (fun line => Message.ofJson? (String.ofList line)) = messages.map some) ∧
      ∀ others : List Message, (∀ message ∈ others, message.Portable) →
        written others = written messages → others = messages := by
  constructor
  · refine ⟨messages.map Message.write, splitOn_written messages portable, ?_,
      ofJson?_lines messages portable⟩
    intro line among
    obtain ⟨message, sent, rfl⟩ := List.mem_map.mp among
    exact (portable message sent).line.1
  · intro others otherwise same
    have lines : others.map Message.write = messages.map Message.write := by
      have split := splitOn_written others otherwise
      rw [same, splitOn_written messages portable] at split
      exact (List.append_cancel_right split).symm
    have read := ofJson?_lines others otherwise
    rw [lines, ofJson?_lines messages portable] at read
    exact ((List.map_inj_right fun _ _ => Option.some.inj).mp read).symm

/-- A kind that breaks a line, a name that is given twice, the least and the greatest integers
and a nested object are read back. -/
theorem stream_decodes_repeated_name :
    let nested : Value := .array [.object [("k", .null), ("é\x01", .integer 18446744073709551615)]]
    let message := Message.build "two\nlines \"\\" [("b", .null), ("a", nested),
      ("b", .integer (-9223372036854775808))]
    let messages := [message, .refresh]
    message.payload = [("b", .integer (-9223372036854775808)), ("a", nested)] ∧
      (∀ message ∈ messages, message.Portable) ∧
      ∃ lines, (written messages).splitOn '\n' = lines ++ [[]] ∧ (∀ line ∈ lines, line ≠ []) ∧
        lines.map (fun line => Message.ofJson? (String.ofList line)) = messages.map some := by
  intro nested message messages
  have payload : message.payload = [("b", .integer (-9223372036854775808)), ("a", nested)] := rfl
  have portable : ∀ message ∈ messages, message.Portable := by
    refine List.forall_mem_cons.mpr ⟨⟨⟨_, _, rfl⟩, ?_, by decide⟩,
      List.forall_mem_singleton.mpr ⟨⟨_, [], rfl⟩, nofun, by decide⟩⟩
    rw [payload]
    refine List.forall_mem_cons.mpr ⟨.integer (by decide), List.forall_mem_singleton.mpr ?_⟩
    refine .array (List.forall_mem_singleton.mpr (.object (by decide) ?_))
    exact List.forall_mem_cons.mpr
      ⟨.null, List.forall_mem_singleton.mpr (.integer (by decide))⟩
  exact ⟨payload, portable, (stream_decodes messages portable).1⟩

end Backend

end DatasetPicker
